import Edgeware.Runtime.DebugApi
import Edgeware.Rpc.Trace
import Edgeware.Tracing.CallTracer
import Edgeware.Tracing.Raw

/-!
# The debug RPC

`debug_traceTransaction` and `debug_traceBlock` (`client/rpc/debug`). The task behind them looks
the block up through the client and the frontier backend, replays it on its parent's state with
the runtime's `DebugRuntimeApi` while a listener is installed to receive what the tracer emits,
and answers what the listener's formatter makes of it. `handle_params` picks the listener and the
formatter: a tracer whose Twox-128 hash is that of Blockscout's JavaScript tracer selects the call
list and the Blockscout formatter, the name `callTracer` the call list and the callTracer
formatter, and no tracer the raw listener with the request's switches.

The node is a parameter (`Node`): what the client, the frontier backend and the storage override
read of a block, and what the runtime API answers, each failure of a call by the `Debug` text of
its error. `Node.RunsRuntime` says that a block runs this repository's runtime: its debug API is
at `DebugApi.apiVersion` and both of its calls answer as `Runtime.DebugApi` says. A tracer in
the runtime sends its events to the client's listener through host functions, which hand them to
`evm_tracing_events::Event::emit` there; the node's executor registers no such function (only
those of benchmarking and the dummy child-storage functions of `edgeware_runtime_interface`), so
the listener receives nothing and the handlers format it as it was made. A panic of the task is
`none` of `ExceptT String Option`; `Debug::task` turns it into an error of the spawned task. The
channels between the RPC methods and the task are left out.
-/

namespace Edgeware.Tracing

open Events

namespace Single

/-- `single::Call`. -/
inductive Call where
  | blockscout (call : Tracing.Call)
  | callTracer (call : CallTracer.CallTracerCall)

/-- `single::TraceType`. -/
inductive TraceType where
  | raw (disableStorage disableMemory disableStack : Bool)
  | callList
  | block
  deriving DecidableEq, Repr

/-- `single::TransactionTrace`. -/
inductive TransactionTrace where
  | raw (gas : U256) (returnValue : Bytes) (stepLogs : List Raw.RawStepLog)
  | callList (calls : List Call)
  | callListNested (call : Call)

end Single

open Single (TransactionTrace)

/-- `formatters::Raw::format`: the step logs, the final gas and the return value. -/
def Raw.format (l : Raw.Listener) : Option TransactionTrace :=
  some (.raw l.finalGas.toNat l.returnValue l.stepLogs)

/-- `formatters::Blockscout::format`: the entries of the last map, in key order. -/
def Blockscout.format (l : CallList.Listener) : Option TransactionTrace :=
  l.entries.getLast?.map fun entry =>
    .callList (entry.toList.map fun binding => .blockscout binding.2)

/-- `formatters::CallTracer::format`, each call a nested trace. -/
def CallTracer.traces (l : CallList.Listener) : Option (Option (List TransactionTrace)) :=
  (CallTracer.format l).map (Option.map (List.map fun call => .callListNested (.callTracer call)))

end Edgeware.Tracing

namespace Edgeware.Rpc.Debug

open Events (Event)
open Tracing
open Tracing.Single (TraceType TransactionTrace)
open Trace (RequestBlockId RequestBlockTag)
open TxPool (Extrinsic TransactionV2 LegacyTransaction)
open Runtime.DebugApi (DispatchError)

/-! ## Requests -/

/-- `TracerInput`. -/
inductive TracerInput where
  | none
  | blockscout
  | callTracer
  deriving DecidableEq, Repr

/-- `TraceParams`: what `handle_params` reads; the timeout is never read. -/
structure TraceParams where
  disableStorage : Option Bool
  disableMemory : Option Bool
  disableStack : Option Bool
  tracer : Option String
  deriving DecidableEq, Repr

/-- `BLOCKSCOUT_JS_CODE_HASH`. -/
def blockscoutJsCodeHash : List UInt8 :=
  [0x94, 0xd9, 0xf0, 0x87, 0x96, 0xf9, 0x1e, 0xb1, 0x3a, 0x2e, 0x82, 0xa6, 0x06, 0x68, 0x82, 0xf7]

/-- `BLOCKSCOUT_JS_CODE_HASH_V2`. -/
def blockscoutJsCodeHashV2 : List UInt8 :=
  [0x89, 0xdb, 0x13, 0x69, 0x46, 0x75, 0x69, 0x29, 0x51, 0x67, 0x3a, 0x1e, 0x6e, 0x18, 0xff, 0x02]

/-- `handle_params`, with `sp_io::hashing::twox_128`; the hash of an unknown tracer is shown as
its `Debug` text, the list of its bytes. -/
def handleParams (twox128 : Bytes → List UInt8) :
    Option TraceParams → Except String (TracerInput × TraceType)
  | some { tracer := some tracer, .. } =>
    let hash := twox128 tracer.toUTF8.toList
    let tracer : Option TracerInput :=
      if hash = blockscoutJsCodeHash ∨ hash = blockscoutJsCodeHashV2 then some .blockscout
      else if tracer = "callTracer" then some .callTracer
      else none
    match tracer with
    | some tracer => .ok (tracer, .callList)
    | none => .error ("javascript based tracing is not available (hash :" ++ toString hash ++ ")")
  | some params =>
    .ok (.none, .raw (params.disableStorage.getD false) (params.disableMemory.getD false)
      (params.disableStack.getD false))
  | none => .ok (.none, .raw false false false)

/-! ## The node -/

/-- `BlockId` of a Substrate block. -/
inductive BlockId where
  | hash (hash : H256)
  | number (number : UInt32)
  deriving DecidableEq, Repr

/-- The `Debug` text of a block id, a hash with all its 64 hexadecimal digits; its `Display` text
is the same. -/
def BlockId.debug : BlockId → String
  | .hash blockHash =>
    let digits := Nat.toDigits 16 blockHash
    "Hash(0x" ++ String.ofList (List.replicate (64 - digits.length) '0' ++ digits) ++ ")"
  | .number blockNumber => "Number(" ++ toString blockNumber ++ ")"

/-- What the storage override of a block's schema reads of the block. -/
structure StorageOverride (Other : Type) where
  /-- `current_transaction_statuses`, each status by its transaction's hash. -/
  currentTransactionStatuses : Option (List H256)
  /-- `current_block`, by its transactions. -/
  currentBlock : Option (List (TransactionV2 Other))

/-- What the debug task reads of the node. A runtime call at a block answers the error of the call
itself, by its `Debug` text, or what the runtime returns. -/
structure Node (Header Other : Type) where
  /-- `client.info().best_number`. -/
  bestNumber : UInt32
  /-- `frontier_backend_client::load_hash`: the block of an Ethereum block hash. -/
  loadHash : H256 → Except String (Option BlockId)
  /-- `frontier_backend_client::load_transactions`: the Ethereum block hash and the index of a
  transaction. -/
  loadTransactions : H256 → Except String (Option (H256 × Nat))
  /-- `client.header`; an error reads as no header. -/
  header : BlockId → Option Header
  parentHash : Header → H256
  /-- The storage override of the block's schema, `overrides.schemas.get(&schema)`. -/
  storageOverride : BlockId → Option (StorageOverride Other)
  /-- `blockchain.body`. -/
  body : BlockId → Except String (Option (List (Extrinsic Other)))
  /-- The version of `DebugRuntimeApi` at a block; `none` when it cannot be read. -/
  debugApiVersion : BlockId → Option Nat
  /-- `initialize_block` at the parent block. -/
  initializeBlock : BlockId → Header → Except String Unit
  /-- `trace_transaction`. -/
  traceTransaction : BlockId → List (Extrinsic Other) → TransactionV2 Other →
    Except String (Except DispatchError Unit)
  /-- `trace_transaction_before_version_4`, of a runtime older than this repository's. -/
  traceTransactionBeforeVersion4 : BlockId → List (Extrinsic Other) → LegacyTransaction Other →
    Except String (Except DispatchError Unit)
  /-- `trace_block`. -/
  traceBlock : BlockId → List (Extrinsic Other) → List H256 →
    Except String (Except DispatchError Unit)
  /-- The `Debug` text of a `DispatchError` as the client decodes it. -/
  debugDispatchError : DispatchError → String

/-- A block runs this repository's runtime: the version of its debug API is the one the runtime
declares, and each call that reaches the runtime answers what the runtime's code returns. -/
structure Node.RunsRuntime {Header Other : Type} (node : Node Header Other) (blockId : BlockId) :
    Prop where
  version : ∀ version, node.debugApiVersion blockId = some version →
    version = Runtime.DebugApi.apiVersion
  traceTransaction : ∀ exts transaction answer,
    node.traceTransaction blockId exts transaction = .ok answer →
      answer = Runtime.DebugApi.traceTransaction exts transaction
  traceBlock : ∀ exts knownTransactions answer,
    node.traceBlock blockId exts knownTransactions = .ok answer →
      answer = Runtime.DebugApi.traceBlock exts knownTransactions

/-- `Response` of the debug task. -/
inductive Response where
  | single (trace : TransactionTrace)
  | block (traces : List TransactionTrace)

/-- What `handle_transaction_request` reads of the node before the replay: the parent the block is
replayed on, the header, the block's extrinsics, the version of the debug API at the parent, and
the Ethereum transaction. -/
structure TransactionSite (Header Other : Type) where
  parentBlockId : BlockId
  header : Header
  exts : List (Extrinsic Other)
  traceApiVersion : Nat
  transaction : TransactionV2 Other

section Handlers

variable {Header Other : Type} (node : Node Header Other) (twox128 : Bytes → List UInt8)

/-- `load_hash`, its `None` an error. -/
def loadBlock (ethHash : H256) : Except String BlockId :=
  match node.loadHash ethHash with
  | .ok (some id) => .ok id
  | .ok none => .error "Block hash not found"
  | .error e => .error e

/-- `load_transactions`, its `None` an error. -/
def loadTransaction (transactionHash : H256) : Except String (H256 × Nat) :=
  match node.loadTransactions transactionHash with
  | .ok (some found) => .ok found
  | .ok none => .error "Transaction hash not found"
  | .error e => .error e

/-- The block `handle_block_request` traces. -/
def referenceId : RequestBlockId → Except String BlockId
  | .number n => .ok (.number n)
  | .tag .latest => .ok (.number node.bestNumber)
  | .tag .earliest => .ok (.number 0)
  | .tag .pending => .error "\x27pending\x27 blocks are not supported"
  | .hash ethHash => loadBlock node ethHash

/-- The extrinsics of a block; a block without a body has none. -/
def blockExtrinsics (id : BlockId) : Except String (List (Extrinsic Other)) :=
  match node.body id with
  | .ok exts => .ok (exts.getD [])
  | .error e => .error ("Fail to read blockchain db: " ++ e)

/-- The lookups of `handle_transaction_request` before the replay. Both a block the storage
override cannot read and an index past its transactions are "Runtime block call failed". -/
def locateTransaction (transactionHash : H256) : Except String (TransactionSite Header Other) := do
  let (hash, index) ← loadTransaction node transactionHash
  let referenceId ← loadBlock node hash
  let some header := node.header referenceId | throw "Block header not found"
  let parentBlockId := BlockId.hash (node.parentHash header)
  let exts ← blockExtrinsics node referenceId
  let some traceApiVersion := node.debugApiVersion parentBlockId
    | throw "Runtime api version call failed (trace)"
  let some storageOverride := node.storageOverride referenceId
    | throw ("No storage override at " ++ referenceId.debug)
  let some transactions := storageOverride.currentBlock | throw "Runtime block call failed"
  let some transaction := transactions[index]? | throw "Runtime block call failed"
  pure ⟨parentBlockId, header, exts, traceApiVersion, transaction⟩

/-- `initialize_block` at the parent, the first step of both replays. -/
def initializeParent (parentBlockId : BlockId) (header : Header) : Except String Unit :=
  (node.initializeBlock parentBlockId header).mapError ("Runtime api access error: " ++ ·)

/-- The closure `f` of `handle_transaction_request`: the transaction replayed by
`trace_transaction` from the fourth version of the API on, and before it, for a legacy
transaction only, by `trace_transaction_before_version_4` of a pre-London runtime. -/
def transactionReplay (site : TransactionSite Header Other) : Except String Unit := do
  initializeParent node site.parentBlockId site.header
  if 4 ≤ site.traceApiVersion then
    let result ← (node.traceTransaction site.parentBlockId site.exts site.transaction).mapError
      fun e => "Runtime api access error (version " ++ toString site.traceApiVersion ++ "): " ++ e
    result.mapError fun e => "DispatchError: " ++ node.debugDispatchError e
  else
    match site.transaction with
    | .legacy tx =>
      let result ← (node.traceTransactionBeforeVersion4 site.parentBlockId site.exts tx).mapError
        fun e => "Runtime api access error (legacy): " ++ e
      result.mapError fun e => "DispatchError: " ++ node.debugDispatchError e
    | _ => .error "Bug: pre-london runtime expects legacy transactions"

/-- The error of a call list whose formatter the request did not select. -/
def tracerFormatBug : String := "Bug: failed to resolve the tracer format."

/-- `CallTracer::format(proxy).ok_or("Trace result is empty.")`, its error's `Debug` text. -/
def callTracerTraces (proxy : CallList.Listener) :
    ExceptT String Option (List TransactionTrace) := do
  let some traces ← ExceptT.lift (CallTracer.traces proxy) | throw "\"Trace result is empty.\""
  pure traces

/-- `handle_transaction_request`. The callTracer's answer is the last trace of the formatter,
`res.pop().expect(..)`, which panics when there is none. -/
def handleTransactionRequest (transactionHash : H256) (params : Option TraceParams) :
    ExceptT String Option Response := do
  let (tracerInput, traceType) ← MonadExcept.ofExcept (handleParams twox128 params)
  let site ← MonadExcept.ofExcept (locateTransaction node transactionHash)
  match traceType with
  | .raw disableStorage disableMemory disableStack =>
    MonadExcept.ofExcept (transactionReplay node site)
    let some trace := Raw.format (Raw.Listener.new disableStorage disableMemory disableStack)
      | throw "Fail to format proxy"
    return .single trace
  | .callList =>
    MonadExcept.ofExcept (transactionReplay node site)
    let proxy := CallList.Listener.default.finishTransaction
    let response ← match tracerInput with
      | .blockscout =>
        match Blockscout.format proxy with
        | some trace => pure trace
        | none => throw "\"Trace result is empty.\""
      | .callTracer => do
        let traces ← callTracerTraces proxy
        let some trace := traces.getLast? | ExceptT.lift none
        pure trace
      | .none => throw tracerFormatBug
    return .single response
  | .block => throw "Bug: `handle_transaction_request` does not support Block."

end Handlers

end Edgeware.Rpc.Debug
