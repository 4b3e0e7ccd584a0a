import Edgeware.Lib.OrdMap
import Edgeware.Tracing.Types

/-!
# The raw listener

`listeners/raw.rs`: the opcode-level tracer behind `debug_traceTransaction`. It logs one step
for every `Step` of the interpreter, at the depth of the context the step runs in, with the
gas the gasometer records for it and, unless storage is disabled, the storage the context has
seen. It opens a context at the first `Step` after a `RecordTransaction` or after a trap that
opens one, and closes it at a `StepResult` that exits; a context that exits with success hands
what it learnt of the storage to its parent.

The context stack is a list with its top first. The two `expect`s of a `Step`, which panic when
the runtime filtered out the memory or the stack the listener asked for, make the listener
fallible: a panic is `none`. Gas is `u64`; depths and positions are natural numbers.
-/

namespace Edgeware.Tracing.Raw

open Events

/-- `single::RawStepLog`. -/
structure RawStepLog where
  depth : U256
  gas : U256
  gasCost : U256
  memory : Option (List H256)
  op : String
  pc : U256
  stack : Option (List H256)
  storage : Option (OrdMap H256 H256)
  deriving DecidableEq

/-- `Step`: the step a context is at, between its `Step` and its `StepResult`. -/
structure Step where
  opcode : String
  depth : Nat
  gas : UInt64
  gasCost : UInt64
  position : Nat
  memory : Option Bytes
  stack : Option (List H256)
  deriving DecidableEq

/-- `Context`: the storage a context has read or written, its address, its current step, and
the storage its exited callees at other addresses changed. -/
structure Context where
  storageCache : OrdMap H256 H256
  address : H160
  currentStep : Option Step
  globalStorageChanges : OrdMap H160 (OrdMap H256 H256)
  deriving DecidableEq

/-- `Listener`. -/
structure Listener where
  disableStorage : Bool
  disableMemory : Bool
  disableStack : Bool
  newContext : Bool
  contextStack : List Context
  stepLogs : List RawStepLog
  returnValue : Bytes
  finalGas : UInt64
  deriving DecidableEq

namespace Listener

/-- `Listener::new`. -/
def new (disableStorage disableMemory disableStack : Bool) : Listener where
  disableStorage
  disableMemory
  disableStack
  stepLogs := []
  returnValue := []
  finalGas := 0
  newContext := false
  contextStack := []

/-- The `RecordCost` and `RecordDynamicCost` records: the gas left and the cost of the step of
the top context, if it is between a `Step` and its `StepResult`, and the gas used so far. -/
def recordOpcodeCost (l : Listener) (cost : UInt64) (snapshot : Snapshot) : Listener :=
  match l.contextStack with
  | [] => l
  | context :: rest =>
    { l with
      contextStack := { context with
        currentStep := context.currentStep.map fun step =>
          { step with gas := snapshot.gas, gasCost := cost } } :: rest
      finalGas := snapshot.usedGas }

/-- `gasometer_event`. -/
def gasometerEvent (l : Listener) : GasometerEvent → Listener
  | .recordTransaction cost _ => { l with newContext := true, finalGas := cost }
  | .recordCost cost snapshot => l.recordOpcodeCost cost snapshot
  | .recordDynamicCost gasCost snapshot => l.recordOpcodeCost gasCost snapshot
  | _ => l

/-- The context a `Step` opens, at the address it runs at. -/
def openContext (address : H160) : Context where
  storageCache := ∅
  address
  currentStep := none
  globalStorageChanges := ∅

/-- A part of the step data the listener asked for: `expect` panics when it is missing. -/
def expected {α β : Type} (disabled : Bool) (data : Option α) (read : α → β) :
    Option (Option β) :=
  if disabled then some none else data.map fun data => some (read data)

/-- The `Step` event: open a context if one is due, then start the step of the top context at
the depth of the stack. -/
def step (l : Listener) (context : Events.Context) (opcode : String)
    (position : Except ExitReason UInt64) (stack : Option Stack) (memory : Option Memory) :
    Option Listener :=
  let l := if l.newContext then
      { l with newContext := false, contextStack := openContext context.address :: l.contextStack }
    else l
  let depth := l.contextStack.length
  match l.contextStack with
  | [] => some l
  | top :: rest => do
    let memory ← expected l.disableMemory memory Memory.data
    let stack ← expected l.disableStack stack Stack.data
    let position := match position with
      | .ok position => position.toNat
      | .error _ => 0
    let step : Step := { opcode, depth, gas := 0, gasCost := 0, position, memory, stack }
    some { l with contextStack := { top with currentStep := some step } :: rest }

/-- The log of a step, with the storage its context has seen. -/
def stepLog (storage : Option (OrdMap H256 H256)) (step : Step) : RawStepLog where
  depth := step.depth
  gas := step.gas.toNat
  gasCost := step.gasCost.toNat
  memory := step.memory.map convertMemory
  op := step.opcode
  pc := step.position
  stack := step.stack
  storage

/-- The first part of a `StepResult`: log the current step of the top context, if any. -/
def logStep (l : Listener) : Listener :=
  match l.contextStack with
  | [] => l
  | context :: rest =>
    match context.currentStep with
    | none => l
    | some step =>
      { l with
        contextStack := { context with currentStep := none } :: rest
        stepLogs := l.stepLogs ++
          [stepLog (if l.disableStorage then none else some context.storageCache) step] }

/-- A context at `address` learns the storage an exited callee changed there: the keys it
tracks take their new values, and it keeps no other key. The source removes each tracked key
from the changes as it reads it, which keeps nothing from being read twice. -/
def updateCache (cache storage : OrdMap H256 H256) : OrdMap H256 H256 :=
  cache.mapWithKey fun cachedKey cachedValue => (storage.get? cachedKey).getD cachedValue

/-- Apply the storage changes at one address to the parent of an exited context. -/
def applyChange (parent : Context) (change : H160 × OrdMap H256 H256) : Context :=
  let (address, storage) := change
  if parent.address = address then
    { parent with storageCache := updateCache parent.storageCache storage }
  else
    let changes := (parent.globalStorageChanges.get? address).getD ∅
    { parent with
      globalStorageChanges := parent.globalStorageChanges.insert address (changes.append storage) }

/-- The exit of the top context: pop it, keep the return value if it was the last one, and if it
exited with success hand its storage changes to its parent. -/
def exitContext (l : Listener) (reason : ExitReason) (returnValue : Bytes) : Listener :=
  match l.contextStack with
  | [] => l
  | context :: rest =>
    let l := { l with contextStack := rest }
    let l := if rest.isEmpty then { l with returnValue } else l
    let succeeded := match reason with
      | .succeed _ => true
      | _ => false
    if !l.disableStorage && succeeded then
      match rest with
      | parent :: grandparents =>
        let changes := context.globalStorageChanges.insert context.address context.storageCache
        { l with contextStack := changes.toList.foldl applyChange parent :: grandparents }
      | [] => l
    else l

/-- The `SLoad` and `SStore` events: the top context sees the value of the key. -/
def recordStorage (l : Listener) (index value : H256) : Listener :=
  match l.contextStack with
  | [] => l
  | context :: rest =>
    if !l.disableStorage then
      { l with contextStack :=
          { context with storageCache := context.storageCache.insert index value } :: rest }
    else l

/-- `runtime_event`. -/
def runtimeEvent (l : Listener) : RuntimeEvent → Option Listener
  | .step context opcode position stack memory => l.step context opcode position stack memory
  | .stepResult result returnValue =>
    let l := l.logStep
    match result with
    | .error (.exit reason) => some (l.exitContext reason returnValue)
    | .error (.trap opcode) =>
      if (ContextType.from opcode).isSome then some { l with newContext := true } else some l
    | _ => some l
  | .sLoad _ index value | .sStore _ index value => some (l.recordStorage index value)

/-- `ListenerT::event`. -/
def event (l : Listener) : Event → Option Listener
  | .gasometer event => some (l.gasometerEvent event)
  | .runtime event => l.runtimeEvent event
  | _ => some l

/-- The listener after a sequence of events, `none` if one of them panics. -/
def feed (l : Listener) (events : List Event) : Option Listener := events.foldlM event l

/-- A step of the root context of a transaction at address 2. -/
def rootStep (opcode : String) : Event :=
  .runtime (.step ⟨2, 1, 0⟩ opcode (.ok 0) none none)

/-- A call from the root to a precompile, which runs no step of its own, after which the root
returns the byte 42. -/
def precompileCall : List Event :=
  [.gasometer (.recordTransaction 21000 ⟨0, 0, 0⟩),
    rootStep "CALL", .runtime (.stepResult (.error (.trap "CALL")) []),
    rootStep "RETURN", .runtime (.stepResult (.error (.exit (.succeed .returned))) [42])]

/-- The root's step after the call to the precompile opens a context the precompile never
closed: it is logged at depth two, and the root's exit closes that context instead of the root,
so that its return value is never kept. -/
theorem precompileCall_depths :
    ((new true true true).feed precompileCall).map
        (fun l => (l.stepLogs.map RawStepLog.depth, l.returnValue)) = some ([1, 2], []) := by
  decide

/-- A step at address 7, of the context at the top. -/
def stepAt (opcode : String) : Event :=
  .runtime (.step ⟨7, 1, 0⟩ opcode (.ok 0) none none)

/-- The result of a step that does not exit. -/
def stepped : Event := .runtime (.stepResult (.ok ()) [])

/-- A step that exits its context with success. -/
def stopped : Event := .runtime (.stepResult (.error (.exit (.succeed .stopped))) [])

/-- A call trap. -/
def trapped : Event := .runtime (.stepResult (.error (.trap "CALL")) [])

/-- A contract at address 7 reads key 1 as 1, calls itself, and that call calls itself again
to write 2 at key 1; both calls succeed, and the outer context stops. -/
def nestedStore : List Event :=
  [.gasometer (.recordTransaction 21000 ⟨0, 0, 0⟩),
    stepAt "SLOAD", .runtime (.sLoad 7 1 1), stepped,
    stepAt "CALL", trapped,
    stepAt "CALL", trapped,
    stepAt "SSTORE", .runtime (.sStore 7 1 2), stepped,
    stepAt "STOP", stopped,
    stepAt "STOP", stopped,
    stepAt "STOP", stopped]

/-- The write of the innermost call reaches the middle one, which never read key 1 and so drops
it: the outer context still sees 1 at key 1 at its last step. -/
theorem nestedStore_storage :
    ((new false true true).feed nestedStore).map
        (fun l => l.stepLogs.map fun log => (log.depth, log.storage.map OrdMap.toList)) =
      some [(1, some [(1, 1)]), (1, some [(1, 1)]), (2, some []), (3, some [(1, 2)]),
        (3, some [(1, 2)]), (2, some []), (1, some [(1, 1)])] := by
  decide

end Listener

end Edgeware.Tracing.Raw
