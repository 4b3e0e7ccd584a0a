import Edgeware.Tracing.CallList
import Edgeware.Spec.Transaction

/-!
# The call list of one transaction is its call tree

Feeding a well-formed transaction stream to a fresh call-list listener and finishing the
transaction leaves no open context and exactly one map, whose entries are the frames and
self-destructs of the stream keyed in the order they were entered, each with its path of
sibling positions, its number of direct children and its kind (`Spec.Transaction.expected`).

The proof runs the listener over the grammar of the stream. What one event can do is stated
once (`event_quiet`, `event_suicide`, `event_opener`, `feed_closer`); a body is then run by
induction on its structure (`feed_body`), with an invariant that keeps, at every depth, the
open contexts up to their gas, the next index, the call type announced last, and the bindings
inserted so far up to order. Gas never decides the tree: contexts are compared with their gas
erased.
-/

namespace Edgeware.Tracing

open Events Spec

/-- The kind of an entry. -/
def CallInner.kind : CallInner → Kind
  | .call callType .. => .call callType
  | .create .. => .create
  | .selfDestruct .. => .selfDestruct

/-- The place of an entry in the call tree. -/
def Call.shape (entry : Call) : Shape := ⟨entry.traceAddress, entry.subtraces, entry.inner.kind⟩

/-- The kind of entry a context records. -/
def ContextType.kind : ContextType → Kind
  | .call callType => .call callType
  | .create => .create

namespace CallList

/-- The place in the call tree of the entry a context will record. -/
def Context.shape (context : Context) : Shape :=
  ⟨context.traceAddress, context.subtraces, context.contextType.kind⟩

/-- A context with its gas forgotten. -/
def Context.erase (context : Context) : Context := { context with gas := 0, startGas := none }

/-- A context with `count` more children. -/
def Context.count (context : Context) (count : Nat) : Context :=
  { context with subtraces := context.subtraces + count }

@[simp]
theorem Context.count_count (context : Context) (first second : Nat) :
    (context.count first).count second = context.count (first + second) := by
  simp [Context.count, Nat.add_assoc]

@[simp]
theorem Context.count_traceAddress (context : Context) (count : Nat) :
    (context.count count).traceAddress = context.traceAddress := rfl

@[simp]
theorem Context.count_subtraces (context : Context) (count : Nat) :
    (context.count count).subtraces = context.subtraces + count := rfl

@[simp]
theorem Context.count_entriesIndex (context : Context) (count : Nat) :
    (context.count count).entriesIndex = context.entriesIndex := rfl

@[simp]
theorem Context.count_contextType (context : Context) (count : Nat) :
    (context.count count).contextType = context.contextType := rfl

theorem Context.erase_count {context context' : Context} (same : context'.erase = context.erase)
    (count : Nat) : (context'.count count).erase = (context.count count).erase := by
  have subtraces : context'.subtraces = context.subtraces := (congrArg Context.subtraces same :)
  unfold Context.count
  rw [subtraces]
  exact congrArg (fun erased : Context => { erased with subtraces := context.subtraces + count }) same

/-- Counting children at the top of two stacks equal up to gas keeps them equal up to gas. -/
theorem Context.erase_count_cons {top top' : Context} {below below' : List Context}
    (sameTop : top'.erase = top.erase)
    (sameBelow : below'.map Context.erase = below.map Context.erase) (count : Nat) :
    (top'.count count :: below').map Context.erase = (top.count count :: below).map Context.erase := by
  rw [List.map_cons, List.map_cons, sameBelow, Context.erase_count sameTop]

theorem contextEntry_shape (context : Context) (gasUsed : UInt64) (callRes : CallResult)
    (createRes : CreateResult) : (Listener.contextEntry context gasUsed callRes createRes).shape =
      context.shape := by
  unfold Listener.contextEntry Context.shape
  cases kind : context.contextType <;> rfl

@[simp]
theorem Context.count_zero (context : Context) : context.count 0 = context := rfl

namespace Listener

/-- The map entries are inserted into: the last one, or a new one when there is none. -/
def current (l : Listener) : OrdMap Nat Call := l.entries.getLast?.getD ∅

/-- The bindings of the current map, each entry by its place in the call tree. -/
def bindings (l : Listener) : List (Nat × Shape) := (l.current.map Call.shape).toList

/-- `insert_entry` replaces the current map by the map with the entry inserted. -/
theorem insertEntry_eq (l : Listener) (key : Nat) (entry : Call) :
    l.insertEntry key entry =
      { l with entries := l.entries.dropLast ++ [l.current.insert key entry] } := by
  unfold insertEntry current
  cases last : l.entries.getLast? with
  | none =>
    rw [List.getLast?_eq_none_iff.mp last]
    rfl
  | some map => rfl

@[simp]
theorem insertEntry_entriesNextIndex (l : Listener) (key : Nat) (entry : Call) :
    (l.insertEntry key entry).entriesNextIndex = l.entriesNextIndex := by
  rw [insertEntry_eq]

/-- A listener between the events of an `EarlyTransact` body: no entry waits in
`step_result_entry`, and every key of the current map is below the next index. -/
structure Ready (l : Listener) : Prop where
  version : l.version = .earlyTransact
  stepResult : l.stepResultEntry = none
  fresh : ∀ key ∈ l.current.keys, key < l.entriesNextIndex

/-- `l'` is `l` up to the gas of its contexts, the transaction cost and the call type. -/
structure Agrees (l l' : Listener) : Prop where
  version : l'.version = l.version
  entries : l'.entries = l.entries
  next : l'.entriesNextIndex = l.entriesNextIndex
  skip : l'.skipNextContext = l.skipNextContext
  stepResult : l'.stepResultEntry = l.stepResultEntry
  stack : l'.contextStack.map Context.erase = l.contextStack.map Context.erase

theorem Agrees.ready {l l' : Listener} (agrees : Agrees l l') (ready : Ready l) : Ready l' where
  version := agrees.version.trans ready.version
  stepResult := agrees.stepResult.trans ready.stepResult
  fresh := by
    unfold current
    rw [agrees.entries, agrees.next]
    exact ready.fresh

theorem Agrees.refl {l : Listener} : Agrees l l := ⟨rfl, rfl, rfl, rfl, rfl, rfl⟩

theorem Agrees.trans {l l' l'' : Listener} (first : Agrees l l') (second : Agrees l' l'') :
    Agrees l l'' :=
  ⟨second.version.trans first.version, second.entries.trans first.entries,
    second.next.trans first.next, second.skip.trans first.skip,
    second.stepResult.trans first.stepResult, second.stack.trans first.stack⟩

theorem recordGas_agrees (l : Listener) (gas : UInt64) : Agrees l (l.recordGas gas) := by
  unfold recordGas
  cases stack : l.contextStack with
  | nil => exact ⟨rfl, rfl, rfl, rfl, rfl, rfl⟩
  | cons top rest =>
    refine ⟨rfl, rfl, rfl, rfl, rfl, ?_⟩
    simp [stack, Context.erase]

@[simp]
theorem recordGas_callType (l : Listener) (gas : UInt64) : (l.recordGas gas).callType = l.callType := by
  unfold recordGas
  split <;> rfl

theorem gasometerEvent_agrees (l : Listener) (event : GasometerEvent) :
    Agrees l (l.gasometerEvent event) ∧ (l.gasometerEvent event).callType = l.callType := by
  cases event with
  | recordCost _ snapshot => exact ⟨recordGas_agrees l _, recordGas_callType l _⟩
  | recordDynamicCost _ snapshot => exact ⟨recordGas_agrees l _, recordGas_callType l _⟩
  | recordStipend _ snapshot => exact ⟨recordGas_agrees l _, recordGas_callType l _⟩
  | recordTransaction cost snapshot => exact ⟨⟨rfl, rfl, rfl, rfl, rfl, rfl⟩, rfl⟩
  | recordRefund snapshot => exact ⟨⟨rfl, rfl, rfl, rfl, rfl, rfl⟩, rfl⟩

/-- A quiet event changes no more than gas and the call type, which becomes the one the event
announces, if any. -/
theorem event_quiet (l : Listener) (event : Quiet) :
    Agrees l (l.event event.event) ∧
      (l.event event.event).callType = lastCallType l.callType [event.event] := by
  obtain ⟨event, quiet⟩ := event
  cases event with
  | gasometer event =>
    simpa [Listener.event, lastCallType, announcedCallType] using gasometerEvent_agrees l event
  | runtime event =>
    cases event with
    | step => exact ⟨⟨rfl, rfl, rfl, rfl, rfl, rfl⟩, rfl⟩
    | sLoad => exact ⟨⟨rfl, rfl, rfl, rfl, rfl, rfl⟩, rfl⟩
    | sStore => exact ⟨⟨rfl, rfl, rfl, rfl, rfl, rfl⟩, rfl⟩
    | stepResult result returnValue =>
      rcases result with (_ | opcode) | _
      · simp [Event.isQuiet] at quiet
      · simp only [Listener.event, runtimeEvent, lastCallType, announcedCallType, List.foldl]
        cases ContextType.from opcode with
        | none => exact ⟨⟨rfl, rfl, rfl, rfl, rfl, rfl⟩, rfl⟩
        | some contextType =>
          cases contextType with
          | call callType => exact ⟨⟨rfl, rfl, rfl, rfl, rfl, rfl⟩, rfl⟩
          | create => exact ⟨⟨rfl, rfl, rfl, rfl, rfl, rfl⟩, rfl⟩
      · exact ⟨⟨rfl, rfl, rfl, rfl, rfl, rfl⟩, rfl⟩
  | evm event =>
    cases event <;> simp [Event.isQuiet] at quiet
    exact ⟨⟨rfl, rfl, rfl, rfl, rfl, rfl⟩, rfl⟩
  | callListNew => simp [Event.isQuiet] at quiet

@[simp]
theorem feed_nil (l : Listener) : l.feed [] = l := rfl

@[simp]
theorem feed_cons (l : Listener) (event : Event) (events : List Event) :
    l.feed (event :: events) = (l.event event).feed events := rfl

@[simp]
theorem feed_append (l : Listener) (first second : List Event) :
    l.feed (first ++ second) = (l.feed first).feed second := List.foldl_append

/-- Quiet events change no more than gas and the call type. -/
theorem feed_quiets (l : Listener) (events : List Quiet) :
    Agrees l (l.feed (events.map Quiet.event)) := by
  induction events generalizing l with
  | nil => exact Agrees.refl
  | cons event rest ih => exact (event_quiet l event).1.trans (ih _)

/-- `l'` keeps the version, the skip flag, the pending step-result entry and the call type. -/
structure Keeps (l l' : Listener) : Prop where
  version : l'.version = l.version
  skip : l'.skipNextContext = l.skipNextContext
  stepResult : l'.stepResultEntry = l.stepResultEntry
  callType : l'.callType = l.callType

/-- The entries of `l'` are those of `l` with one more entry in the current map. -/
def Inserted (l l' : Listener) (key : Nat) (entry : Call) : Prop :=
  l'.entries = l.entries.dropLast ++ [l.current.insert key entry]

theorem Inserted.current {l l' : Listener} {key : Nat} {entry : Call}
    (inserted : Inserted l l' key entry) : l'.current = l.current.insert key entry := by
  unfold Listener.current
  rw [inserted]
  simp [Listener.current]

theorem Inserted.dropLast {l l' : Listener} {key : Nat} {entry : Call}
    (inserted : Inserted l l' key entry) : l'.entries.dropLast = l.entries.dropLast := by
  rw [inserted]
  simp

theorem Inserted.ne_nil {l l' : Listener} {key : Nat} {entry : Call}
    (inserted : Inserted l l' key entry) : l'.entries ≠ [] := by
  rw [inserted]
  simp

theorem Inserted.bindings {l l' : Listener} {key : Nat} {entry : Call}
    (inserted : Inserted l l' key entry) (fresh : key ∉ l.current.keys) :
    l'.bindings.Perm (l.bindings ++ [(key, entry.shape)]) := by
  unfold Listener.bindings
  rw [inserted.current, OrdMap.toList_map, OrdMap.toList_map]
  have added := (OrdMap.toList_insert_perm entry fresh).map
    (fun binding : Nat × Call => (binding.1, binding.2.shape))
  exact added.trans (List.perm_append_singleton _ _).symm

theorem Inserted.keys_lt {l l' : Listener} {key : Nat} {entry : Call} {bound : Nat}
    (inserted : Inserted l l' key entry) (old : ∀ k ∈ l.current.keys, k < bound)
    (lt : key < bound) : ∀ k ∈ l'.current.keys, k < bound := by
  intro k mem
  rw [inserted.current] at mem
  rcases OrdMap.mem_keys_insert mem with rfl | mem
  · exact lt
  · exact old k mem

/-- A listener that keeps the version and the pending entry, and inserts an entry under a key
below its next index into a map whose keys were below it, is ready. -/
theorem Ready.inserted {l l' : Listener} {key : Nat} {entry : Call} (ready : Ready l)
    (keeps : Keeps l l') (inserted : Inserted l l' key entry)
    (old : ∀ k ∈ l.current.keys, k < l'.entriesNextIndex) (lt : key < l'.entriesNextIndex) :
    Ready l' :=
  ⟨keeps.version.trans ready.version, keeps.stepResult.trans ready.stepResult,
    inserted.keys_lt old lt⟩

/-- A self-destruct counts as a child of the top context and records its entry under the next
index. -/
theorem event_suicide {l : Listener} {top : Context} {rest : List Context}
    (stack : l.contextStack = top :: rest) (address target : H160) (balance : U256) :
    let l' := l.event (.evm (.suicide address target balance))
    Keeps l l' ∧ l'.contextStack = top.count 1 :: rest ∧
      l'.entriesNextIndex = l.entriesNextIndex + 1 ∧
      Inserted l l' l.entriesNextIndex
        { «from» := address, traceAddress := top.traceAddress ++ [top.subtraces], subtraces := 0,
          value := 0, gas := 0, gasUsed := 0, inner := .selfDestruct balance target } := by
  intro l'
  have step : l' =
      { ({ l with contextStack := { top with subtraces := top.subtraces + 1 } :: rest }).insertEntry
          l.entriesNextIndex
          { «from» := address, traceAddress := top.traceAddress ++ [top.subtraces], subtraces := 0,
            value := 0, gas := 0, gasUsed := 0, inner := .selfDestruct balance target }
        with entriesNextIndex := l.entriesNextIndex + 1 } := by
    simp [l', Listener.event, evmEvent, childTraceAddress, stack]
  refine ⟨⟨?_, ?_, ?_, ?_⟩, ?_, ?_, ?_⟩ <;>
    simp [step, Inserted, insertEntry_eq, Listener.current, Context.count]

/-- The `Call` or `Create` event of a nested frame, outside the root, opens a context under the
next index, as the next child of the top context, with the kind the call type announced last
gives it. -/
theorem event_opener {l : Listener} {top : Context} {rest : List Context}
    (stack : l.contextStack = top :: rest) (skip : l.skipNextContext = false) (opener : Opener) :
    let l' := l.event opener.event
    ∃ child : Context, child.entriesIndex = l.entriesNextIndex ∧
      child.shape = ⟨top.traceAddress ++ [top.subtraces], 0, opener.kind l.callType⟩ ∧
      Keeps l l' ∧ l'.contextStack = child :: top.count 1 :: rest ∧
      l'.entriesNextIndex = l.entriesNextIndex + 1 ∧ l'.entries = l.entries := by
  cases opener with
  | call codeAddress input isStatic context =>
    refine ⟨{ entriesIndex := l.entriesNextIndex,
              contextType := .call (eventCallType l.callType isStatic), «from» := top.«to»,
              traceAddress := top.traceAddress ++ [top.subtraces], subtraces := 0,
              value := context.apparentValue, gas := 0, startGas := none, data := input,
              «to» := codeAddress }, rfl, ?_, ?_⟩
    · simp only [Context.shape, ContextType.kind, Opener.kind, eventCallType]
      cases l.callType <;> cases isStatic <;> rfl
    · simp only [Listener.event, evmEvent, Opener.event, childTraceAddress, stack, skip,
        pushContext, Bool.not_false, ite_true, and_true]
      exact ⟨⟨rfl, skip.symm, rfl, rfl⟩, rfl⟩
  | create caller address value initCode =>
    refine ⟨{ entriesIndex := l.entriesNextIndex, contextType := .create, «from» := caller,
              traceAddress := top.traceAddress ++ [top.subtraces], subtraces := 0, value,
              gas := 0, startGas := none, data := initCode, «to» := address }, rfl, rfl, ?_⟩
    simp only [Listener.event, evmEvent, Opener.event, childTraceAddress, stack, skip,
      pushContext, Bool.not_false, ite_true, and_true]
    exact ⟨⟨rfl, skip.symm, rfl, rfl⟩, rfl⟩

/-- A frame's closing events pop its context and record its entry, whether the entry is built
at the `StepResult` exit or at the `Exit`. -/
theorem feed_closer {l : Listener} {child : Context} {rest : List Context} (closer : Closer)
    (stack : l.contextStack = child :: rest) (version : l.version = .earlyTransact)
    (stepResult : l.stepResultEntry = none) :
    let l' := l.feed closer.events
    ∃ entry : Call, entry.shape = child.shape ∧ Keeps l l' ∧ l'.contextStack = rest ∧
      l'.entriesNextIndex = l.entriesNextIndex ∧ l'.recordTransactionEventOnly = false ∧
      Inserted l l' child.entriesIndex entry := by
  obtain ⟨result, reason, returnValue⟩ := closer
  cases result with
  | none =>
    refine ⟨contextEntry child (l.gasUsed child) (callResult reason returnValue)
      (createResult reason child.«to» returnValue), contextEntry_shape _ _ _ _, ?_⟩
    simp only [Closer.events, Option.map_none, Option.toList_none, List.nil_append, feed_cons,
      feed_nil, Listener.event, evmEvent, stepResult, popContextToEntry, stack]
    refine ⟨⟨?_, ?_, ?_, ?_⟩, ?_, ?_, ?_, ?_⟩ <;>
      simp [insertEntry_eq, Inserted, Listener.current, Listener.gasUsed, stepResult]
  | some exited =>
    refine ⟨contextEntry child (l.gasUsed child) (callResult exited.1 exited.2)
      (createResult exited.1 child.«to» exited.2), contextEntry_shape _ _ _ _, ?_⟩
    simp only [Closer.events, Option.map_some, Option.toList_some, List.cons_append,
      List.nil_append, feed_cons, feed_nil, Listener.event, runtimeEvent, evmEvent,
      popContextToEntry, stack, version]
    refine ⟨⟨?_, ?_, ?_, ?_⟩, ?_, ?_, ?_, ?_⟩ <;>
      simp [insertEntry_eq, Inserted, Listener.current, Listener.gasUsed, stepResult, version]

theorem bindings_keys (l : Listener) : l.bindings.map Prod.fst = l.current.keys := by
  simp [bindings, OrdMap.keys]

theorem bindings_of_entries {l l' : Listener} (entries : l'.entries = l.entries) :
    l'.bindings = l.bindings := by
  unfold bindings current
  rw [entries]

/-- With no open context and no lone `RecordTransaction`, finishing a transaction changes
nothing. -/
theorem finishTransaction_of_closed {l : Listener} (stack : l.contextStack = [])
    (onlyRecord : l.recordTransactionEventOnly = false) : l.finishTransaction = l := by
  obtain ⟨version, cost, entries, next, contextStack, callType, skip, stepResult, first,
    onlyRecord'⟩ := l
  simp only at stack onlyRecord
  subst stack onlyRecord
  rfl

theorem Context.erase_fields {context context' : Context}
    (same : context'.erase = context.erase) :
    context'.entriesIndex = context.entriesIndex ∧ context'.shape = context.shape :=
  ⟨(congrArg Context.entriesIndex same :), (congrArg Context.shape same :)⟩

/-- A stack equal to `top :: below` up to gas has a top and a rest equal to them up to gas. -/
theorem stack_of_erase {stack below : List Context} {top : Context}
    (erased : stack.map Context.erase = (top :: below).map Context.erase) :
    ∃ top' below', stack = top' :: below' ∧ top'.erase = top.erase ∧
      below'.map Context.erase = below.map Context.erase := by
  cases stack with
  | nil => simp at erased
  | cons top' below' =>
    simp only [List.map_cons, List.cons.injEq] at erased
    exact ⟨top', below', rfl, erased.1, erased.2⟩

/-- What running a body does to a ready listener whose stack is `top :: below` up to gas: the
top counts the body's children, the next index passes the body's entries, the call type is
the one announced last, and the body's expected bindings are added to the current map. -/
structure BodyRun (body : Body) (top : Context) (below : List Context) (l l' : Listener) :
    Prop where
  ready : Ready l'
  skip : l'.skipNextContext = false
  stack : l'.contextStack.map Context.erase = (top.count body.children :: below).map Context.erase
  next : l'.entriesNextIndex = l.entriesNextIndex + body.size
  callType : l'.callType = lastCallType l.callType body.events
  closed : l'.entries.dropLast = l.entries.dropLast
  started : l'.entries = [] → l.entries = []
  bindings : l'.bindings.Perm
    (l.bindings ++ body.expected top.traceAddress l.entriesNextIndex top.subtraces l.callType)

section BodyCases

variable {l : Listener} {top : Context} {below : List Context}

/-- A quiet event changes no more than gas and the call type, and the rest of the body runs as
before. -/
theorem bodyRun_quiet (event : Quiet) {rest : Body}
    (ih : ∀ {l : Listener} {top : Context} {below : List Context}, Ready l →
      l.skipNextContext = false →
      l.contextStack.map Context.erase = (top :: below).map Context.erase →
      BodyRun rest top below l (l.feed rest.events))
    (ready : Ready l) (skip : l.skipNextContext = false)
    (stack : l.contextStack.map Context.erase = (top :: below).map Context.erase) :
    BodyRun (.quiet event rest) top below l (l.feed (Body.quiet event rest).events) := by
  obtain ⟨agrees, announced⟩ := event_quiet l event
  have run := ih (agrees.ready ready) (agrees.skip.trans skip) (agrees.stack.trans stack)
  have bindings := run.bindings
  rw [agrees.next, announced, bindings_of_entries agrees.entries] at bindings
  refine ⟨run.ready, run.skip, run.stack, run.next.trans (by rw [agrees.next]; rfl), ?_,
    run.closed.trans (by rw [agrees.entries]), fun empty => agrees.entries ▸ run.started empty,
    bindings⟩
  show ((l.event event.event).feed rest.events).callType =
    lastCallType l.callType (event.event :: rest.events)
  rw [run.callType, announced]
  rfl

/-- A self-destruct records its entry as the next child of the top context, and the rest of the
body runs under the top context so counted. -/
theorem bodyRun_suicide (address target : H160) (balance : U256) {rest : Body}
    (ih : ∀ {l : Listener} {top : Context} {below : List Context}, Ready l →
      l.skipNextContext = false →
      l.contextStack.map Context.erase = (top :: below).map Context.erase →
      BodyRun rest top below l (l.feed rest.events))
    (ready : Ready l) (skip : l.skipNextContext = false)
    (stack : l.contextStack.map Context.erase = (top :: below).map Context.erase) :
    BodyRun (.suicide address target balance rest) top below l
      (l.feed (Body.suicide address target balance rest).events) := by
  obtain ⟨top', below', actual, sameTop, sameBelow⟩ := stack_of_erase stack
  obtain ⟨keeps, stack₁, next₁, inserted⟩ := event_suicide actual address target balance
  have shapeTop := (Context.erase_fields sameTop).2
  have fresh : l.entriesNextIndex ∉ l.current.keys := fun mem =>
    lt_irrefl _ (ready.fresh _ mem)
  have ready₁ : Ready (l.event (.evm (.suicide address target balance))) :=
    ready.inserted keeps inserted
      (by rw [next₁]; exact fun key mem => Nat.lt_succ_of_lt (ready.fresh key mem))
      (by rw [next₁]; exact Nat.lt_succ_self _)
  have erased₁ : (l.event (.evm (.suicide address target balance))).contextStack.map
      Context.erase = (top.count 1 :: below).map Context.erase := by
    rw [stack₁]
    exact Context.erase_count_cons sameTop sameBelow 1
  have run := ih ready₁ (keeps.skip.trans skip) erased₁
  have bindings₁ := inserted.bindings fresh
  simp only [Call.shape, CallInner.kind, Context.shape, Shape.mk.injEq] at bindings₁ shapeTop
  rw [shapeTop.1, shapeTop.2.1] at bindings₁
  have bindings := run.bindings
  rw [next₁, keeps.callType] at bindings
  simp only [Body.events, feed_cons]
  refine ⟨run.ready, run.skip, ?_, ?_, ?_, run.closed.trans inserted.dropLast,
    fun empty => absurd (run.started empty) inserted.ne_nil, ?_⟩
  · rw [run.stack, Context.count_count, Nat.add_comm, Body.children]
  · rw [run.next, next₁, Nat.add_assoc, Nat.add_comm 1, Body.size]
  · rw [run.callType, keeps.callType]
    rfl
  · refine bindings.trans ((bindings₁.append_right _).trans ?_)
    simp [Body.expected]

/-- A frame opens its context as the next child of the top context, runs its body above it,
closes it and records its entry; then the rest of the body runs. -/
theorem bodyRun_frame (opener : Opener) {inner : Body} (closer : Closer) {rest : Body}
    (ihInner : ∀ {l : Listener} {top : Context} {below : List Context}, Ready l →
      l.skipNextContext = false →
      l.contextStack.map Context.erase = (top :: below).map Context.erase →
      BodyRun inner top below l (l.feed inner.events))
    (ihRest : ∀ {l : Listener} {top : Context} {below : List Context}, Ready l →
      l.skipNextContext = false →
      l.contextStack.map Context.erase = (top :: below).map Context.erase →
      BodyRun rest top below l (l.feed rest.events))
    (ready : Ready l) (skip : l.skipNextContext = false)
    (stack : l.contextStack.map Context.erase = (top :: below).map Context.erase) :
    BodyRun (.frame opener inner closer rest) top below l
      (l.feed (Body.frame opener inner closer rest).events) := by
  obtain ⟨top', below', actual, sameTop, sameBelow⟩ := stack_of_erase stack
  have shapeTop := (Context.erase_fields sameTop).2
  simp only [Context.shape, Shape.mk.injEq] at shapeTop
  obtain ⟨child, childIndex, childShape, keeps₁, stack₁, next₁, entries₁⟩ :=
    event_opener actual skip opener
  simp only [Context.shape, Shape.mk.injEq] at childShape
  set l₁ := l.event opener.event with l₁_def
  have ready₁ : Ready l₁ :=
    ⟨keeps₁.version.trans ready.version, keeps₁.stepResult.trans ready.stepResult, by
      intro key mem
      rw [next₁]
      unfold Listener.current at mem
      rw [entries₁] at mem
      exact Nat.lt_succ_of_lt (ready.fresh key mem)⟩
  have runInner := ihInner ready₁ (keeps₁.skip.trans skip) (by rw [stack₁])
  set l₂ := l₁.feed inner.events with l₂_def
  obtain ⟨child₂, rest₂, actual₂, sameChild, sameRest⟩ := stack_of_erase runInner.stack
  obtain ⟨childIndex₂, childShape₂⟩ := Context.erase_fields sameChild
  obtain ⟨entry, entryShape, keeps₃, stack₃, next₃, -, inserted₃⟩ :=
    feed_closer closer actual₂ runInner.ready.version runInner.ready.stepResult
  set l₃ := l₂.feed closer.events with l₃_def
  have index₂ : child₂.entriesIndex = l.entriesNextIndex := by
    rw [childIndex₂, Context.count_entriesIndex, childIndex]
  have fresh₂ : child₂.entriesIndex ∉ l₂.current.keys := by
    intro mem
    have keys := runInner.bindings.map Prod.fst
    rw [List.map_append, Body.expected_keys, bindings_of_entries entries₁, bindings_keys,
      bindings_keys] at keys
    rcases List.mem_append.mp (keys.subset mem) with old | new
    · exact lt_irrefl _ (index₂ ▸ ready.fresh _ old)
    · rw [List.mem_range'_1, next₁, index₂] at new
      omega
  have ready₃ : Ready l₃ :=
    runInner.ready.inserted keeps₃ inserted₃ (by rw [next₃]; exact runInner.ready.fresh)
      (by rw [next₃, index₂, runInner.next, next₁]; omega)
  have erased₃ : l₃.contextStack.map Context.erase = (top.count 1 :: below).map Context.erase := by
    rw [stack₃, sameRest]
    exact Context.erase_count_cons sameTop sameBelow 1
  have runRest := ihRest ready₃ (keeps₃.skip.trans runInner.skip) erased₃
  have bindings₃ := inserted₃.bindings fresh₂
  rw [entryShape, childShape₂, index₂] at bindings₃
  have bindings₂ := runInner.bindings
  rw [bindings_of_entries entries₁, next₁, keeps₁.callType] at bindings₂
  have bindingsRest := runRest.bindings
  rw [next₃, runInner.next, next₁, keeps₃.callType, runInner.callType, keeps₁.callType]
    at bindingsRest
  simp only [Body.events, feed_cons, feed_append]
  refine ⟨runRest.ready, runRest.skip, ?_, ?_, ?_, ?_, ?_, ?_⟩
  · rw [runRest.stack, Context.count_count, Nat.add_comm, Body.children]
  · rw [runRest.next, next₃, runInner.next, next₁, Body.size]
    omega
  · rw [runRest.callType, keeps₃.callType, runInner.callType, keeps₁.callType, Body.events,
      lastCallType_append, lastCallType_append, lastCallType_closer, lastCallType_opener]
  · rw [runRest.closed, inserted₃.dropLast, runInner.closed, entries₁]
  · exact fun empty => absurd (runRest.started empty) inserted₃.ne_nil
  · refine bindingsRest.trans ((bindings₃.append_right _).trans
      (((bindings₂.append_right _).append_right _).trans ?_))
    simp only [Body.expected, Context.shape, Context.count_traceAddress,
      Context.count_subtraces, Context.count_contextType, childShape, shapeTop, Nat.zero_add,
      List.append_assoc, List.singleton_append]
    exact List.Perm.append_left _ List.perm_middle

end BodyCases

/-- Running a body from a ready listener, with `top :: below` on its stack up to gas. -/
theorem feed_body (body : Body) : ∀ {l : Listener} {top : Context} {below : List Context},
    Ready l → l.skipNextContext = false →
    l.contextStack.map Context.erase = (top :: below).map Context.erase →
    BodyRun body top below l (l.feed body.events) := by
  induction body with
  | nil =>
    intro l top below ready skip stack
    exact ⟨ready, skip, stack, rfl, rfl, rfl, id, by simp [Body.expected, Body.events]⟩
  | quiet event rest ih => exact bodyRun_quiet event ih
  | suicide address target balance rest ih => exact bodyRun_suicide address target balance ih
  | frame opener inner closer rest ihInner ihRest =>
    exact bodyRun_frame opener closer ihInner ihRest

/-- The `TransactX` and `RecordTransaction` events of a transaction open its root context under
index zero and arm the skip flag for the root frame's own `Call` or `Create`. -/
theorem feed_start (tx : Transaction) :
    ∃ root : Context, root.entriesIndex = 0 ∧ root.shape = ⟨[], 0, tx.transact.kind⟩ ∧
      default.feed [tx.transact.event, .gasometer (.recordTransaction tx.cost tx.snapshot)] =
        { default with
          version := .earlyTransact, transactionCost := tx.cost, entriesNextIndex := 1,
          contextStack := [root], skipNextContext := true, recordTransactionEventOnly := true } := by
  obtain ⟨transact, cost, snapshot, run, closer⟩ := tx
  cases transact with
  | call caller address value data =>
    exact ⟨{ entriesIndex := 0, contextType := .call .call, «from» := caller, traceAddress := [],
             subtraces := 0, value, gas := 0, startGas := none, data, «to» := address },
      rfl, rfl, rfl⟩
  | create caller value initCode address =>
    exact ⟨{ entriesIndex := 0, contextType := .create, «from» := caller, traceAddress := [],
             subtraces := 0, value, gas := 0, startGas := none, data := initCode, «to» := address },
      rfl, rfl, rfl⟩
  | create2 caller value initCode address =>
    exact ⟨{ entriesIndex := 0, contextType := .create, «from» := caller, traceAddress := [],
             subtraces := 0, value, gas := 0, startGas := none, data := initCode, «to» := address },
      rfl, rfl, rfl⟩

/-- With the skip flag armed, the root frame's own `Call` or `Create` only clears it. -/
theorem event_root {l : Listener} (skip : l.skipNextContext = true) (root : Opener) :
    l.event root.event = { l with skipNextContext := false, recordTransactionEventOnly := false } := by
  cases root <;> simp [Listener.event, evmEvent, Opener.event, skip]

/-- What the run of a transaction does between its start and its closing events: the root
context, alone on the stack up to gas, counts the body's children, no map is closed, and the
body's expected bindings are the current map's. -/
structure RootRun (body : Body) (root : Context) (l : Listener) : Prop where
  ready : Ready l
  stack : l.contextStack.map Context.erase = [(root.count body.children).erase]
  closed : l.entries.dropLast = []
  bindings : l.bindings.Perm (body.expected [] 1 0 none)

/-- Running the root frame, whether it stopped early or ran a body. -/
theorem feed_run (tx : Transaction) {root : Context} (rootShape : root.shape = ⟨[], 0, tx.transact.kind⟩)
    (start : default.feed [tx.transact.event, .gasometer (.recordTransaction tx.cost tx.snapshot)] =
        { default with
          version := .earlyTransact, transactionCost := tx.cost, entriesNextIndex := 1,
          contextStack := [root], skipNextContext := true, recordTransactionEventOnly := true }) :
    RootRun tx.run.body root
      ((default.feed [tx.transact.event, .gasometer (.recordTransaction tx.cost tx.snapshot)]).feed
        tx.run.events) := by
  simp only [Context.shape, Shape.mk.injEq] at rootShape
  rw [start]
  set l₀ : Listener := { default with
    version := .earlyTransact, transactionCost := tx.cost, entriesNextIndex := 1,
    contextStack := [root], skipNextContext := true, recordTransactionEventOnly := true }
  have ready₀ : Ready l₀ := ⟨rfl, rfl, by simp [l₀, current, default, OrdMap.keys]⟩
  have empty₀ : l₀.bindings = [] := rfl
  cases run : tx.run with
  | early events =>
    simp only [Run.events, Run.body]
    have agrees := feed_quiets l₀ events
    refine ⟨agrees.ready ready₀, ?_, by rw [agrees.entries]; rfl, ?_⟩
    · rw [agrees.stack, Body.children_quiets, Context.count_zero]
      rfl
    · rw [bindings_of_entries agrees.entries, empty₀, Body.expected_quiets]
  | started opener body =>
    simp only [Run.events, Run.body, feed_cons]
    have opened := event_root (l := l₀) rfl opener
    have ready₁ : Ready (l₀.event opener.event) := by
      rw [opened]
      exact ⟨ready₀.version, ready₀.stepResult, ready₀.fresh⟩
    have run : BodyRun body root [] (l₀.event opener.event)
        ((l₀.event opener.event).feed body.events) :=
      feed_body body ready₁ (by rw [opened]) (by rw [opened])
    have empty₁ : (l₀.event opener.event).bindings = [] := by rw [opened]; rfl
    have next₁ : (l₀.event opener.event).entriesNextIndex = 1 := by rw [opened]
    have callType₁ : (l₀.event opener.event).callType = none := by rw [opened]; rfl
    have bindings := run.bindings
    rw [empty₁, List.nil_append, next₁, callType₁, rootShape.1, rootShape.2.1] at bindings
    refine ⟨run.ready, run.stack, by rw [run.closed, opened]; rfl, bindings⟩

/-- Closing the root frame and finishing the transaction leaves no open context and a single
map: the bindings so far and the root's entry. -/
theorem finish_root {l : Listener} {root : Context} (closer : Closer) (ready : Ready l)
    (stack : l.contextStack.map Context.erase = [root.erase]) (index : root.entriesIndex = 0)
    (closed : l.entries.dropLast = []) (fresh : 0 ∉ l.current.keys) :
    let l' := (l.feed closer.events).finishTransaction
    l'.contextStack = [] ∧ ∃ calls : OrdMap Nat Call, l'.entries = [calls] ∧
      (calls.map Call.shape).toList.Perm (l.bindings ++ [(0, root.shape)]) := by
  intro l'
  have alone : l.contextStack.map Context.erase = [root].map Context.erase := stack
  obtain ⟨root', below', actual, sameRoot, sameBelow⟩ := stack_of_erase alone
  obtain rfl : below' = [] := List.map_eq_nil_iff.mp sameBelow
  obtain ⟨sameIndex, sameShape⟩ := Context.erase_fields sameRoot
  obtain ⟨entry, entryShape, -, stack₁, -, onlyRecord, inserted⟩ :=
    feed_closer closer actual ready.version ready.stepResult
  have finished : l' = l.feed closer.events :=
    finishTransaction_of_closed stack₁ onlyRecord
  have single : (l.feed closer.events).entries = [(l.feed closer.events).current] := by
    rw [inserted.current, inserted, closed]
    rfl
  refine ⟨finished ▸ stack₁, (l.feed closer.events).current, finished ▸ single, ?_⟩
  have added := inserted.bindings (sameIndex.trans index ▸ fresh)
  rw [entryShape, sameShape, sameIndex, index] at added
  exact added

/-- Tracing one well-formed transaction with a fresh call-list listener and finishing it leaves
no open context and a single map, keyed by the numbers from zero up to the count of frames and
self-destructs, whose entries are, in key order, the places the transaction's call tree gives
them. -/
theorem callList_transaction_entries (tx : Transaction) :
    let l := (default.feed tx.events).finishTransaction
    l.contextStack = [] ∧ ∃ calls : OrdMap Nat Call, l.entries = [calls] ∧
      calls.keys = List.range (tx.run.body.size + 1) ∧
      (calls.map Call.shape).toList = tx.expected := by
  obtain ⟨root, index, rootShape, start⟩ := feed_start tx
  have run := feed_run tx rootShape start
  set l₁ := (default.feed [tx.transact.event,
    .gasometer (.recordTransaction tx.cost tx.snapshot)]).feed tx.run.events
  have split : default.feed tx.events = l₁.feed tx.closer.events := by
    simp only [l₁, ← feed_append]
    rfl
  have fresh : 0 ∉ l₁.current.keys := by
    intro mem
    have keys := run.bindings.map Prod.fst
    rw [Body.expected_keys, bindings_keys] at keys
    have later := List.mem_range'_1.mp (keys.subset mem)
    omega
  obtain ⟨closed, calls, single, added⟩ := finish_root tx.closer run.ready run.stack
    ((Context.count_entriesIndex _ _).trans index) run.closed fresh
  simp only [Context.shape, Shape.mk.injEq] at rootShape
  have perm : (calls.map Call.shape).toList.Perm tx.expected := by
    refine added.trans (((run.bindings.append_right _).trans
      (List.perm_append_singleton _ _)).trans ?_)
    simp [Context.shape, rootShape, Transaction.expected]
  have shapes := OrdMap.toList_eq_of_perm perm tx.expected_sorted
  have keys : calls.keys = List.range (tx.run.body.size + 1) := by
    rw [← OrdMap.keys_map Call.shape, OrdMap.keys, shapes, Transaction.expected_keys]
  rw [split]
  exact ⟨closed, calls, single, keys, shapes⟩

end Listener

end CallList

end Edgeware.Tracing
