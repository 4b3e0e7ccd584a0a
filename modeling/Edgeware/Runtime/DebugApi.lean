import Edgeware.Rpc.TxPool

/-!
# The runtime's debug API

`DebugRuntimeApi` as this runtime implements it (`lib.rs`). Each of its two calls has two arms,
chosen at compile time by the `evm-tracing` feature: one replays the block's extrinsics with the
EVM tracer, the other only fails. The runtime's manifest declares no such feature, and the crate
of the tracer the first arm uses is not in the repository, so the runtime is always built with
the second arm: both calls answer `DispatchError::Other` with the text below, whatever the block,
its extrinsics or the transaction asked for. The API is at the version the declaration fixes,
`#[api_version(4)]`.
-/

namespace Edgeware.Runtime.DebugApi

open Rpc.TxPool (Extrinsic TransactionV2)

/-- `sp_runtime::DispatchError`, by the one variant this API returns. -/
inductive DispatchError where
  | other (message : String)
  deriving DecidableEq, Repr

/-- The version of `DebugRuntimeApi` the runtime implements. -/
def apiVersion : Nat := 4

/-- The text of both calls of a runtime built without the `evm-tracing` feature. -/
def missingFeatureMessage : String := "Missing `evm-tracing` compile time feature flag."

section Calls

variable {Other : Type}

/-- `trace_transaction`, as compiled. -/
def traceTransaction (_extrinsics : List (Extrinsic Other))
    (_tracedTransaction : TransactionV2 Other) : Except DispatchError Unit :=
  .error (.other missingFeatureMessage)

/-- `trace_block`, as compiled. -/
def traceBlock (_extrinsics : List (Extrinsic Other)) (_knownTransactions : List H256) :
    Except DispatchError Unit :=
  .error (.other missingFeatureMessage)

end Calls

end Edgeware.Runtime.DebugApi
