import Edgeware.Tracing.CallList

/-!
# The trace_filter formatter

`formatters::trace_filter`: every entry of every non-empty call-list map becomes one
`trace_filter` trace, in map order and, within a map, in key order. A trace carries the position
of its map among the non-empty maps as its transaction position; the block hash, the block
number and the transaction hash are left at their defaults for `cache_block` to fill in, the
transaction hash by looking the position up among the block's transactions.
-/

namespace Edgeware.Tracing.TraceFilter

open Events Block

/-- The trace of one entry of the map at `ethTxIndex`, `eth_tx_index as u32`. -/
def entryTrace (ethTxIndex : Nat) (trace : Call) : TransactionTrace :=
  match trace.inner with
  | .call callType target input res =>
    { action := .call callType trace.from trace.gas input target trace.value
      blockHash := 0
      blockNumber := 0
      output := match res with
        | .output output => .result (.call trace.gasUsed output)
        | .error error => .error error
      subtraces := trace.subtraces
      traceAddress := trace.traceAddress
      transactionHash := 0
      transactionPosition := ethTxIndex % UInt32.size }
  | .create init res =>
    { action := .create .create trace.from trace.gas init trace.value
      blockHash := 0
      blockNumber := 0
      output := match res with
        | .success createdContractAddressHash createdContractCode =>
          .result (.create createdContractAddressHash createdContractCode trace.gasUsed)
        | .error error => .error error
      subtraces := trace.subtraces
      traceAddress := trace.traceAddress
      transactionHash := 0
      transactionPosition := ethTxIndex % UInt32.size }
  | .selfDestruct balance target =>
    { action := .suicide trace.from balance target
      blockHash := 0
      blockNumber := 0
      output := .result .suicide
      subtraces := trace.subtraces
      traceAddress := trace.traceAddress
      transactionHash := 0
      transactionPosition := ethTxIndex % UInt32.size }

/-- `Formatter::format`: the traces of the entries of the non-empty maps, each map numbered by
its position among them. -/
def format (l : CallList.Listener) : Option (List TransactionTrace) :=
  let entries := l.entries.filter fun entry => !entry.isEmpty
  some (entries.zipIdx.flatMap fun (entry, ethTxIndex) =>
    entry.toList.map fun binding => entryTrace ethTxIndex binding.2)

/-- In a block of three calls whose second emits no event, as a transaction that the EVM
runner rejects before running it, the traces of the third transaction carry the position one,
so that `cache_block` gives them the hash of the second transaction. -/
theorem format_skips_silent_transaction :
    ((format (CallList.Listener.traceBlock
        [CallList.Listener.plainCall 21000, [], CallList.Listener.plainCall 21000])).map
      fun traces => traces.map TransactionTrace.transactionPosition) = some [0, 1] := by
  decide

end Edgeware.Tracing.TraceFilter
