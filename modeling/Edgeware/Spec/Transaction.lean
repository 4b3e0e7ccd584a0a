import Edgeware.Tracing.Types

/-!
# Well-formed transaction event streams and the call tree they describe

The events the EVM emits for one transaction, in the `EarlyTransact` form the runtime uses:
a `TransactCall`, `TransactCreate` or `TransactCreate2`, the `RecordTransaction` of its
cost, the root frame's own `Call` or `Create` (absent only when the transaction stops before
its root frame starts), the root frame's body, and the root's closing events. A body is a
sequence of quiet events (gas records, steps, step results other than exits, storage
accesses, precompile subcalls), self-destructs, and nested frames, each opened by its
`Call` or `Create` and closed by its `Exit`, optionally preceded by a `StepResult` exit.

The second half states what a call list should record for such a stream, independently of
any listener: one entry per frame and per self-destruct, keyed in the order they are
entered, with the path of sibling positions from the root, the number of direct children,
and the kind (a call with its call type, a creation, a self-destruct).
-/

namespace Edgeware.Spec

open Events Tracing

/-- Events that open, close and record no context. -/
def Event.isQuiet : Event → Bool
  | .gasometer _ => true
  | .runtime (.stepResult (.error (.exit _)) _) => false
  | .runtime _ => true
  | .evm .precompileSubcall => true
  | .evm _ => false
  | .callListNew => false

/-- A quiet event. -/
structure Quiet where
  /-- The event. -/
  event : Event
  /-- It opens, closes and records no context. -/
  quiet : Event.isQuiet event = true

/-- The call type an event announces for the next call: a trap on a call opcode, or a
precompile subcall, which is taken as a plain call. -/
def announcedCallType : Event → Option CallType
  | .runtime (.stepResult (.error (.trap opcode)) _) =>
    match ContextType.from opcode with
    | some (.call callType) => some callType
    | _ => none
  | .evm .precompileSubcall => some .call
  | _ => none

/-- The call type announced last in a sequence of events, or `initial` if none is. -/
def lastCallType (initial : Option CallType) (events : List Event) : Option CallType :=
  events.foldl (fun callType event => (announcedCallType event).or callType) initial

/-- The event opening a nested frame. -/
inductive Opener where
  | call (codeAddress : H160) (input : Bytes) (isStatic : Bool) (context : Context)
  | create (caller address : H160) (value : U256) (initCode : Bytes)

/-- The `Call` or `Create` event of an opener. -/
def Opener.event : Opener → Event
  | .call codeAddress input isStatic context => .evm (.call codeAddress input isStatic context)
  | .create caller address value initCode => .evm (.create caller address value initCode)

/-- The events closing a frame: an optional `StepResult` exit, then the `Exit` event. -/
structure Closer where
  /-- The exit reason and return value of the frame's last step, if its code ran. -/
  stepResult : Option (ExitReason × Bytes)
  /-- The exit reason carried by the `Exit` event. -/
  reason : ExitReason
  /-- The return value carried by the `Exit` event. -/
  returnValue : Bytes

/-- The events of a closer, in order. -/
def Closer.events (closer : Closer) : List Event :=
  (closer.stepResult.map fun (reason, value) => Event.runtime (.stepResult (.error (.exit reason)) value)).toList ++
    [.evm (.exit closer.reason closer.returnValue)]

/-- The body of a frame. -/
inductive Body where
  | nil
  | quiet (event : Quiet) (rest : Body)
  | suicide (address target : H160) (balance : U256) (rest : Body)
  | frame (opener : Opener) (inner : Body) (closer : Closer) (rest : Body)

namespace Body

/-- The events of a body, in order. -/
def events : Body → List Event
  | nil => []
  | quiet event rest => event.event :: rest.events
  | suicide address target balance rest => .evm (.suicide address target balance) :: rest.events
  | frame opener inner closer rest => opener.event :: inner.events ++ closer.events ++ rest.events

/-- The frames and self-destructs of a body, at every depth. -/
def size : Body → Nat
  | nil => 0
  | quiet _ rest => rest.size
  | suicide _ _ _ rest => rest.size + 1
  | frame _ inner _ rest => inner.size + 1 + rest.size

/-- The frames and self-destructs directly in a body. -/
def children : Body → Nat
  | nil => 0
  | quiet _ rest => rest.children
  | suicide _ _ _ rest => rest.children + 1
  | frame _ _ _ rest => rest.children + 1

end Body

/-- What an entry records of its place in the call tree. -/
inductive Kind where
  | call (callType : CallType)
  | create
  | selfDestruct
  deriving DecidableEq, Repr

/-- The place of an entry in the call tree: its path of sibling positions from the root, its
number of direct children, and its kind. -/
structure Shape where
  traceAddress : List Nat
  subtraces : Nat
  kind : Kind
  deriving DecidableEq, Repr

/-- The kind of the frame an opener opens, when `callType` is the call type announced last:
a call takes that type, or without one is a static call or a plain call. -/
def Opener.kind (callType : Option CallType) : Opener → Kind
  | .call _ _ isStatic _ =>
    match callType with
    | some announced => .call announced
    | none => if isStatic then .call .staticCall else .call .call
  | .create .. => .create

/-- The entries a body should leave under a frame at `path`, numbered from `key` in the order
they are entered, its first child at sibling position `sibling`, and `callType` announced
last before the body. -/
def Body.expected (path : List Nat) (key sibling : Nat) (callType : Option CallType) :
    Body → List (Nat × Shape)
  | .nil => []
  | .quiet event rest => rest.expected path key sibling (lastCallType callType [event.event])
  | .suicide _ _ _ rest =>
    (key, ⟨path ++ [sibling], 0, .selfDestruct⟩) :: rest.expected path (key + 1) (sibling + 1) callType
  | .frame opener inner _ rest =>
    (key, ⟨path ++ [sibling], inner.children, opener.kind callType⟩) ::
      (inner.expected (path ++ [sibling]) (key + 1) 0 callType ++
        rest.expected path (key + 1 + inner.size) (sibling + 1) (lastCallType callType inner.events))

/-- Announcing call types over two sequences in turn announces over their concatenation. -/
theorem lastCallType_append (initial : Option CallType) (first second : List Event) :
    lastCallType initial (first ++ second) = lastCallType (lastCallType initial first) second :=
  List.foldl_append

/-- The event opening a frame announces no call type. -/
@[simp]
theorem lastCallType_opener (initial : Option CallType) (opener : Opener) (events : List Event) :
    lastCallType initial (opener.event :: events) = lastCallType initial events := by
  cases opener <;> rfl

/-- The events closing a frame announce no call type. -/
@[simp]
theorem lastCallType_closer (initial : Option CallType) (closer : Closer) :
    lastCallType initial closer.events = initial := by
  obtain ⟨_ | _, reason, returnValue⟩ := closer <;> rfl

/-- The entries of a body are keyed by consecutive numbers from `key`. -/
theorem Body.expected_keys (body : Body) : ∀ (path : List Nat) (key sibling : Nat)
    (callType : Option CallType),
    (body.expected path key sibling callType).map Prod.fst = List.range' key body.size := by
  induction body with
  | nil => intro path key sibling callType; rfl
  | quiet event rest ih => intro path key sibling callType; exact ih _ _ _ _
  | suicide address target balance rest ih =>
    intro path key sibling callType
    simp only [expected, List.map_cons, ih, size]
    rfl
  | frame opener inner closer rest ihInner ihRest =>
    intro path key sibling callType
    simp only [expected, List.map_cons, List.map_append, ihInner, ihRest, size,
      List.range'_append_1]
    rw [show inner.size + 1 + rest.size = (inner.size + rest.size) + 1 by omega]
    rfl

/-- The event that starts a transaction. -/
inductive Transact where
  | call (caller address : H160) (value : U256) (data : Bytes)
  | create (caller : H160) (value : U256) (initCode : Bytes) (address : H160)
  | create2 (caller : H160) (value : U256) (initCode : Bytes) (address : H160)

/-- The `TransactCall`, `TransactCreate` or `TransactCreate2` event. -/
def Transact.event : Transact → Event
  | .call caller address value data => .evm (.transactCall caller address value data)
  | .create caller value initCode address => .evm (.transactCreate caller value initCode address)
  | .create2 caller value initCode address =>
    .evm (.transactCreate2 caller value initCode address)

/-- The kind of the root frame. -/
def Transact.kind : Transact → Kind
  | .call .. => .call .call
  | .create .. | .create2 .. => .create

/-- How far a transaction ran: it stopped before its root frame started, or its root frame
ran a body. -/
inductive Run where
  | early (events : List Quiet)
  | started (root : Opener) (body : Body)

/-- The events of a run. -/
def Run.events : Run → List Event
  | .early events => events.map Quiet.event
  | .started root body => root.event :: body.events

/-- The body of the root frame: the quiet events of a run that stopped early. -/
def Run.body : Run → Body
  | .early events => events.foldr Body.quiet .nil
  | .started _ body => body

/-- A body of quiet events has no children. -/
@[simp]
theorem Body.children_quiets (events : List Quiet) : (events.foldr Body.quiet .nil).children = 0 := by
  induction events with
  | nil => rfl
  | cons event rest ih => exact ih

/-- A body of quiet events leaves no entry. -/
@[simp]
theorem Body.expected_quiets (events : List Quiet) : ∀ (path : List Nat) (key sibling : Nat)
    (callType : Option CallType),
    (events.foldr Body.quiet .nil).expected path key sibling callType = [] := by
  induction events with
  | nil => intro path key sibling callType; rfl
  | cons event rest ih => intro path key sibling callType; exact ih _ _ _ _

/-- A well-formed event stream of one transaction. -/
structure Transaction where
  transact : Transact
  cost : UInt64
  snapshot : Snapshot
  run : Run
  closer : Closer

namespace Transaction

/-- The events of a transaction, in order. -/
def events (tx : Transaction) : List Event :=
  tx.transact.event :: .gasometer (.recordTransaction tx.cost tx.snapshot) ::
    (tx.run.events ++ tx.closer.events)

/-- The entries a transaction should leave when traced from a fresh listener: the root at key
zero with the empty path, then its body. -/
def expected (tx : Transaction) : List (Nat × Shape) :=
  (0, ⟨[], tx.run.body.children, tx.transact.kind⟩) :: tx.run.body.expected [] 1 0 none

/-- The entries of a transaction are keyed by the consecutive numbers from zero. -/
theorem expected_keys (tx : Transaction) :
    tx.expected.map Prod.fst = List.range (tx.run.body.size + 1) := by
  rw [expected, List.map_cons, Body.expected_keys, List.range_eq_range', List.range'_succ]

/-- The entries of a transaction are in strictly increasing key order. -/
theorem expected_sorted (tx : Transaction) : tx.expected.Pairwise (fun a b => a.1 < b.1) := by
  have keys := tx.expected_keys
  rw [← List.pairwise_map, keys]
  exact List.pairwise_lt_range

end Transaction

end Edgeware.Spec
