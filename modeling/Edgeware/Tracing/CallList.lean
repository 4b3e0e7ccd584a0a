import Edgeware.Lib.OrdMap
import Edgeware.Tracing.Types

/-!
# The call-list listener

`listeners/call_list.rs`: the listener that turns the events of a transaction into one
entry per context (a call or a creation) and per self-destruct, keyed by the order in which
the contexts were entered, and, when a block is traced, one map of entries per transaction.
Its state is explicit here and every handler is a function of the state and the event. The
context stack is a list with its top first; `entries` keeps the order of the source's
vector, whose last map is the one entries are inserted into. Counters of type `u32` are
natural numbers; gas is `u64` with the wrapping arithmetic of a release build.
-/

namespace Edgeware.Tracing.CallList

open Events

/-- `TracingVersion`: whether the runtime emits the `Transact` and `Exit` events. -/
inductive TracingVersion where
  | earlyTransact
  | legacy
  deriving DecidableEq, Repr

/-- `Context`: what the listener keeps of an open context until its entry is built. -/
structure Context where
  entriesIndex : Nat
  contextType : ContextType
  «from» : H160
  traceAddress : List Nat
  subtraces : Nat
  value : U256
  gas : UInt64
  startGas : Option UInt64
  data : Bytes
  «to» : H160
  deriving DecidableEq, Repr

/-- `Listener`. -/
structure Listener where
  version : TracingVersion
  transactionCost : UInt64
  entries : List (OrdMap Nat Call)
  entriesNextIndex : Nat
  contextStack : List Context
  callType : Option CallType
  skipNextContext : Bool
  stepResultEntry : Option (Nat × Call)
  callListFirstTransaction : Bool
  recordTransactionEventOnly : Bool
  deriving DecidableEq

namespace Listener

/-- `Listener::default`. -/
def default : Listener where
  version := .legacy
  transactionCost := 0
  entries := []
  entriesNextIndex := 0
  contextStack := []
  callType := none
  stepResultEntry := none
  skipNextContext := false
  callListFirstTransaction := true
  recordTransactionEventOnly := false

/-- `error_message`: the text recorded for an EVM error. -/
def errorMessage : ExitError → String
  | .stackUnderflow => "stack underflow"
  | .stackOverflow => "stack overflow"
  | .invalidJump => "invalid jump"
  | .invalidRange => "invalid range"
  | .designatedInvalid => "designated invalid"
  | .callTooDeep => "call too deep"
  | .createCollision => "create collision"
  | .createContractLimit => "create contract limit"
  | .outOfOffset => "out of offset"
  | .outOfGas => "out of gas"
  | .outOfFund => "out of funds"
  | .other message => message
  | _ => "unexpected error"

/-- The text of the error of a context that never exited. -/
def earlyExitMessage : String :=
  "early exit (out of gas, stack overflow, direct call to precompile, ...)"

/-- `insert_entry`: insert into the last map, or into a new one when there is none. -/
def insertEntry (l : Listener) (key : Nat) (entry : Call) : Listener :=
  match l.entries.getLast? with
  | some last => { l with entries := l.entries.dropLast ++ [last.insert key entry] }
  | none => { l with entries := [(∅ : OrdMap Nat Call).insert key entry] }

/-- The gas a context used, with the transaction cost added to the context keyed zero. -/
def gasUsed (l : Listener) (context : Context) : UInt64 :=
  if context.entriesIndex = 0 then context.startGas.getD 0 - context.gas + l.transactionCost
  else context.startGas.getD 0 - context.gas

/-- The result of a call context exiting for `reason`. -/
def callResult (reason : ExitReason) (returnValue : Bytes) : CallResult :=
  match reason with
  | .succeed .returned => .output returnValue
  | .succeed _ => .output []
  | .error error => .error (errorMessage error)
  | .revert _ => .error "execution reverted"
  | .fatal _ => .error ""

/-- The result of a create context exiting for `reason`. -/
def createResult (reason : ExitReason) (address : H160) (returnValue : Bytes) : CreateResult :=
  match reason with
  | .succeed _ => .success address returnValue
  | .error error => .error (errorMessage error)
  | .revert _ => .error "execution reverted"
  | .fatal _ => .error ""

/-- The entry of a context whose call, or creation, ended with `callRes`, or `createRes`. -/
def contextEntry (context : Context) (gasUsed : UInt64) (callRes : CallResult)
    (createRes : CreateResult) : Call :=
  match context.contextType with
  | .call callType =>
    { «from» := context.from, traceAddress := context.traceAddress,
      subtraces := context.subtraces, value := context.value, gas := context.gas.toNat,
      gasUsed := gasUsed.toNat, inner := .call callType context.«to» context.data callRes }
  | .create =>
    { «from» := context.from, traceAddress := context.traceAddress,
      subtraces := context.subtraces, value := context.value, gas := context.gas.toNat,
      gasUsed := gasUsed.toNat, inner := .create context.data createRes }

/-- `pop_context_to_entry`: pop the top context and build its entry. -/
def popContextToEntry (l : Listener) (reason : ExitReason) (returnValue : Bytes) :
    Listener × Option (Nat × Call) :=
  match l.contextStack with
  | [] => (l, none)
  | context :: rest =>
    ({ l with contextStack := rest },
      some (context.entriesIndex, contextEntry context (l.gasUsed context)
        (callResult reason returnValue) (createResult reason context.«to» returnValue)))

/-- `finish_transaction`: drop the open contexts, keeping an entry for the outermost one, or
record a transaction that could not pay for its data. -/
def finishTransaction (l : Listener) : Listener :=
  let stack := l.contextStack
  let l := { l with contextStack := [] }
  match stack.getLast? with
  | some context =>
    let l := l.insertEntry context.entriesIndex
      (contextEntry context (l.gasUsed context) (.error earlyExitMessage)
        (.error earlyExitMessage))
    { l with entriesNextIndex := context.entriesIndex + 1 }
  | none =>
    if l.recordTransactionEventOnly then
      let entry : Call :=
        { «from» := 0, traceAddress := [], subtraces := 0, value := 0, gas := 0, gasUsed := 0,
          inner := .call .call 0 [] (.error
            "transaction could not pay its own data cost (impossible to gather more info)") }
      let l := l.insertEntry l.entriesNextIndex entry
      { l with entriesNextIndex := l.entriesNextIndex + 1 }
    else l

/-- A gas record: the first one fixes the start gas of the top context, each sets its gas. -/
def recordGas (l : Listener) (gas : UInt64) : Listener :=
  match l.contextStack with
  | [] => l
  | context :: rest =>
    { l with contextStack :=
        { context with startGas := if context.startGas.isNone then some gas else context.startGas,
                       gas := gas } :: rest }

/-- `gasometer_event`. -/
def gasometerEvent (l : Listener) : GasometerEvent → Listener
  | .recordCost _ snapshot | .recordDynamicCost _ snapshot | .recordStipend _ snapshot =>
    l.recordGas snapshot.gas
  | .recordTransaction cost _ =>
    { l with transactionCost := cost, recordTransactionEventOnly := true }
  | .recordRefund _ => l

/-- `runtime_event`. -/
def runtimeEvent (l : Listener) : RuntimeEvent → Listener
  | .stepResult (.error (.trap opcode)) _ =>
    match ContextType.from opcode with
    | some (.call callType) => { l with callType := some callType }
    | _ => l
  | .stepResult (.error (.exit reason)) returnValue =>
    match l.popContextToEntry reason returnValue with
    | (l, some (key, entry)) =>
      match l.version with
      | .legacy => l.insertEntry key entry
      | .earlyTransact => { l with stepResultEntry := some (key, entry) }
    | (l, none) => l
  | _ => l

/-- The trace address of a new child of the top context, counted among its subtraces. -/
def childTraceAddress (l : Listener) : Listener × List Nat :=
  match l.contextStack with
  | [] => (l, [])
  | context :: rest =>
    ({ l with contextStack := { context with subtraces := context.subtraces + 1 } :: rest },
      context.traceAddress ++ [context.subtraces])

/-- Open a context with the next entry index. -/
def pushContext (l : Listener) (context : Context) : Listener :=
  { l with contextStack := context :: l.contextStack, entriesNextIndex := l.entriesNextIndex + 1 }

/-- The `TransactCall`, `TransactCreate` and `TransactCreate2` events: open the root context
of a transaction, whose own `Call` or `Create` event is to be skipped. -/
def transact (l : Listener) (contextType : ContextType) (caller : H160) (value : U256)
    (data : Bytes) (address : H160) : Listener :=
  let l := { l with recordTransactionEventOnly := false, version := .earlyTransact }
  let l := l.pushContext
    { entriesIndex := l.entriesNextIndex, contextType, «from» := caller, traceAddress := [],
      subtraces := 0, value, gas := 0, startGas := none, data, «to» := address }
  { l with skipNextContext := true }

/-- The call type of a `Call` event: the one of the last call trap, else by `is_static`. -/
def eventCallType (callType : Option CallType) (isStatic : Bool) : CallType :=
  match callType, isStatic with
  | none, true => .staticCall
  | none, false => .call
  | some callType, _ => callType

/-- `evm_event`. -/
def evmEvent (l : Listener) : EvmEvent → Listener
  | .transactCall caller address value data => l.transact (.call .call) caller value data address
  | .transactCreate caller value initCode address => l.transact .create caller value initCode address
  | .transactCreate2 caller value initCode address =>
    l.transact .create caller value initCode address
  | .call codeAddress input isStatic context =>
    let l := { l with recordTransactionEventOnly := false }
    let callType := eventCallType l.callType isStatic
    if !l.skipNextContext then
      let (l, traceAddress) := l.childTraceAddress
      let «from» := match l.contextStack with
        | parent :: _ => parent.«to»
        | [] => context.caller
      l.pushContext
        { entriesIndex := l.entriesNextIndex, contextType := .call callType, «from»,
          traceAddress, subtraces := 0, value := context.apparentValue, gas := 0,
          startGas := none, data := input, «to» := codeAddress }
    else { l with skipNextContext := false }
  | .create caller address value initCode =>
    let l := { l with recordTransactionEventOnly := false }
    if !l.skipNextContext then
      let (l, traceAddress) := l.childTraceAddress
      l.pushContext
        { entriesIndex := l.entriesNextIndex, contextType := .create, «from» := caller,
          traceAddress, subtraces := 0, value, gas := 0, startGas := none, data := initCode,
          «to» := address }
    else { l with skipNextContext := false }
  | .suicide address target balance =>
    let (l, traceAddress) := l.childTraceAddress
    let l := l.insertEntry l.entriesNextIndex
      { «from» := address, traceAddress, subtraces := 0, value := 0, gas := 0, gasUsed := 0,
        inner := .selfDestruct balance target }
    { l with entriesNextIndex := l.entriesNextIndex + 1 }
  | .exit reason returnValue =>
    let l := { l with recordTransactionEventOnly := false }
    let (l, entry) := match l.stepResultEntry with
      | some entry => ({ l with stepResultEntry := none }, some entry)
      | none => l.popContextToEntry reason returnValue
    match entry with
    | some (key, entry) => l.insertEntry key entry
    | none => l
  | .precompileSubcall => { l with callType := some .call }

/-- `ListenerT::event`; a `CallListNew` other than the first finishes the transaction before
it and opens the map of the next one. -/
def event (l : Listener) : Event → Listener
  | .gasometer event => l.gasometerEvent event
  | .runtime event => l.runtimeEvent event
  | .evm event => l.evmEvent event
  | .callListNew =>
    if !l.callListFirstTransaction then
      let l := l.finishTransaction
      { l with skipNextContext := false, entries := l.entries ++ [∅] }
    else { l with callListFirstTransaction := false }

/-- The listener after a sequence of events. -/
def feed (l : Listener) (events : List Event) : Listener := events.foldl event l

/-- The runtime's `trace_block` as a call list sees it: a `CallListNew` before the events of each
traced transaction. -/
def traceBlock (transactions : List (List Event)) : Listener :=
  default.feed (transactions.flatMap fun events => .callListNew :: events)

/-- A call to an account without code, paying `cost` for the transaction. -/
def plainCall (cost : UInt64) : List Event :=
  [.evm (.transactCall 1 2 0 []), .gasometer (.recordTransaction cost ⟨0, 0, 0⟩),
    .evm (.call 2 [] false ⟨2, 1, 0⟩), .evm (.exit (.succeed .stopped) [])]

/-- Traced alone, the root of a call paying 21000 for its transaction used 21000 gas; traced as
the second transaction of a block, the same root used none, since only the entry keyed zero is
charged the transaction cost. -/
theorem traceBlock_second_root_gasUsed :
    ((default.feed (plainCall 21000)).finishTransaction).entries.map
        (fun entry => entry.toList.map fun binding => binding.2.gasUsed) = [[21000]] ∧
      ((traceBlock [plainCall 21000, plainCall 21000]).finishTransaction).entries.map
        (fun entry => entry.toList.map fun binding => binding.2.gasUsed) = [[21000], [0]] := by
  decide

/-- A snapshot of a gasometer with `limit` gas of which `used` is used. -/
def snapshotOf (limit used : UInt64) : Snapshot := ⟨limit, 0, used⟩

/-- A call whose code calls a precompile: the callee's gasometer records its cost, then leaving
the callee returns its gas to the caller, whose stipend is recorded before the callee's `Exit`. -/
def precompileCall : List Event :=
  [.evm (.transactCall 1 2 0 []), .gasometer (.recordTransaction 21000 (snapshotOf 0 0)),
    .evm (.call 2 [] false ⟨2, 1, 0⟩),
    .gasometer (.recordCost 3 (snapshotOf 10000 3)),
    .runtime (.stepResult (.error (.trap "Call")) []),
    .gasometer (.recordCost 5700 (snapshotOf 10000 5703)),
    .evm (.call 4 [] false ⟨4, 2, 0⟩),
    .gasometer (.recordCost 15 (snapshotOf 5000 15)),
    .gasometer (.recordStipend 4985 (snapshotOf 10000 718)),
    .evm (.exit (.succeed .returned) []),
    .runtime (.stepResult (.error (.exit (.succeed .stopped))) []),
    .evm (.exit (.succeed .stopped) [])]

/-- The caller's stipend is recorded into the precompile's context, the top one when it
arrives: the precompile, whose own records leave 4985 gas from first to last, is reported to
use 4985 - 9282 wrapped to 64 bits, and the caller, whose own records go from 9997 to 9282, is
reported to use 5700 gas besides the transaction cost, not 715. -/
theorem precompile_gasUsed_takes_caller_stipend :
    ((default.feed precompileCall).finishTransaction).entries.map
        (fun entry => entry.toList.map fun binding => binding.2.gasUsed) =
      [[9997 - 4297 + 21000, UInt64.size - 4297]] := by
  decide

end Listener

end Edgeware.Tracing.CallList
