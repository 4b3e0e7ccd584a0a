import Edgeware.Lib.Radix
import Edgeware.Tracing.Types

/-!
# Paging of the trace_filter endpoint

`Trace::fetch_traces` (`client/rpc/trace`): it asks the cache task for the traces of each block
in turn, keeps those the address filter of the request admits, skips the first `after` of them
over all blocks and stops once it holds `count`. It counts with a signed running total that
starts at `-after`; a block that crosses the `after` marker is cut to its part after it. When the
request gave no count, reaching the count, which is then the maximum, is an error. `Trace::filter`
takes the count of the request, or the maximum, and checks it against the maximum first.

The cache task is a parameter here, `getTraces`, the answer of `CacheRequester::get_traces`;
its error texts are strings, as the RPC error carries them.

Before the paging, `Trace::filter` turns the requested first and last blocks into heights
(`block_id`), a number, the best block, or the genesis block, and collects the hashes of the
blocks from the first to the last, both included, but the genesis block, which has no traces. A
number in a request is a string, read in hexadecimal after `0x` and in decimal otherwise
(`deserialize_u32_0x` of `rpc-core/types`). The client's headers are a parameter, `header`: the
hash of the block at a height, `none` when there is none, or the client's error. The messages
`start_batch` and `stop_batch` to the cache task around the paging are left out.
-/

namespace Edgeware.Rpc.Trace

open Tracing Block

/-- The part of `FilterRequest` that `fetch_traces` reads. -/
structure FilterRequest where
  fromAddress : Option (List H160)
  toAddress : Option (List H160)
  after : Option Nat
  count : Option Nat
  deriving DecidableEq, Repr

/-- Whether the address filter of a request keeps a trace: a call by its sender and receiver, a
creation by its creator with no receiver asked for, a self-destruct by the destroyed account
with no receiver asked for. -/
def keepsTrace (fromAddress toAddress : List H160) (trace : TransactionTrace) : Bool :=
  match trace.action with
  | .call _ «from» _ _ target _ =>
    (fromAddress.isEmpty || fromAddress.contains «from») &&
      (toAddress.isEmpty || toAddress.contains target)
  | .create _ «from» _ _ _ => (fromAddress.isEmpty || fromAddress.contains «from») && toAddress.isEmpty
  | .suicide address _ _ => (fromAddress.isEmpty || fromAddress.contains address) && toAddress.isEmpty

/-- The error of a request without a count whose traces reach the maximum. -/
def overMaximumMessage (maxCount : Nat) : String :=
  "the amount of traces goes over the maximum (" ++ toString maxCount ++
    "), please use \x27after\x27 and \x27count\x27 in your request"

section Fetch

variable (maxCount : Nat) (getTraces : H256 → Except String (List TransactionTrace))
  (req : FilterRequest) (count : Nat)

/-- The loop of `fetch_traces` over the remaining blocks, with the running total
`tracesAmount` and the traces kept so far. -/
def fetchLoop : List H256 → Int → List TransactionTrace → Except String (List TransactionTrace)
  | [], _, traces => .ok traces
  | blockHash :: rest, tracesAmount, traces => do
    let blockTraces ← getTraces blockHash
    let blockTraces := blockTraces.filter
      (keepsTrace (req.fromAddress.getD []) (req.toAddress.getD []))
    let tracesAmount := tracesAmount + blockTraces.length
    if tracesAmount > 0 then
      let amount := tracesAmount.toNat
      let blockTraces :=
        if amount < blockTraces.length then blockTraces.drop (blockTraces.length - amount)
        else blockTraces
      let traces := traces ++ blockTraces
      if amount ≥ count then
        if req.count.isNone then .error (overMaximumMessage maxCount)
        else .ok (traces.take count)
      else fetchLoop rest tracesAmount traces
    else fetchLoop rest tracesAmount traces

/-- `fetch_traces`: the traces of `blockHashes` the request keeps, after the first `after`,
at most `count` of them. -/
def fetchTraces (blockHashes : List H256) : Except String (List TransactionTrace) :=
  fetchLoop maxCount getTraces req count blockHashes (-(req.after.getD 0 : Int)) []

end Fetch

/-- The error of a request whose count exceeds the maximum. -/
def countOverMaximumMessage (count maxCount : Nat) : String :=
  "count (" ++ toString count ++ ") can\x27t be greater than maximum (" ++ toString maxCount ++ ")"

/-- `Trace::filter` from the hashes of the requested blocks on: the count of the request, or the
maximum when it gives none, which the count may not exceed, then `fetch_traces`. -/
def filter (maxCount : Nat) (getTraces : H256 → Except String (List TransactionTrace))
    (req : FilterRequest) (blockHashes : List H256) : Except String (List TransactionTrace) :=
  let count := req.count.getD maxCount
  if count > maxCount then .error (countOverMaximumMessage count maxCount)
  else fetchTraces maxCount getTraces req count blockHashes

/-! ## The requested blocks -/

/-- `RequestBlockTag`. -/
inductive RequestBlockTag where
  | earliest
  | latest
  | pending
  deriving DecidableEq, Repr

/-- `RequestBlockId`. -/
inductive RequestBlockId where
  | number (n : UInt32)
  | hash (hash : H256)
  | tag (tag : RequestBlockTag)
  deriving DecidableEq, Repr

open Radix (IntErrorKind fromStrRadix)

/-- The `Debug` text of the `ParseIntError` of a kind. -/
def parseIntErrorDebug : IntErrorKind → String
  | .empty => "ParseIntError \x7b kind: Empty \x7d"
  | .invalidDigit => "ParseIntError \x7b kind: InvalidDigit \x7d"
  | .posOverflow => "ParseIntError \x7b kind: PosOverflow \x7d"

/-- `deserialize_u32_0x`, from the string the request holds: hexadecimal after a `0x` prefix,
decimal otherwise. The error shows the whole string. -/
def deserializeU32 (buf : String) : Except String UInt32 :=
  let parsed := match buf.toList with
    | '0' :: 'x' :: digits => fromStrRadix 32 16 digits
    | _ => fromStrRadix 32 10 buf.toList
  match parsed with
  | .ok n => .ok (UInt32.ofNat n)
  | .error e => .error ("parsing error: " ++ parseIntErrorDebug e ++ " from \x27" ++ buf ++ "\x27")

/-- `Trace::block_id`: the height of a requested block, the best block's when the request gives
none. -/
def blockId (bestNumber : UInt32) : Option RequestBlockId → Except String UInt32
  | some (.number n) => .ok n
  | none | some (.tag .latest) => .ok bestNumber
  | some (.tag .earliest) => .ok 0
  | some (.tag .pending) => .error "\x27pending\x27 is not supported"
  | some (.hash _) => .error "Block hash not supported"

section Blocks

variable {ClientError : Type} (header : Nat → Except ClientError (Option H256))
  (debugError : ClientError → String)

/-- The loop of `Trace::filter` over the requested heights: the hashes of their blocks, the
genesis block skipped, or the error of the first height without one. -/
def blockHashes : List Nat → Except String (List H256)
  | [] => .ok []
  | height :: rest =>
    if height = 0 then blockHashes rest
    else
      match header height with
      | .error e =>
        .error ("Error when fetching block " ++ toString height ++ " header : " ++ debugError e)
      | .ok none => .error ("Block with height " ++ toString height ++ " don\x27t exist")
      | .ok (some blockHash) => (blockHash :: ·) <$> blockHashes rest

/-- How `start_batch` of the cache's requester fails: the request could not be sent to the cache
task, or the task closed the response channel, each by the `Debug` text of its error. -/
inductive StartBatchError where
  | sendFailed (error : String)
  | channelClosed (error : String)

/-- The texts of `start_batch`'s errors. -/
def StartBatchError.message : StartBatchError → String
  | .sendFailed e => "Failed to send request to the trace cache task. Error : " ++ e
  | .channelClosed e => "Trace cache task closed the response channel. Error : " ++ e

/-- `Trace::filter`: the heights of the first and the last requested block, the count checked
against the maximum, the hashes of the blocks from the first to the last, both included, a batch
of them started with the cache (`startBatch`, the id of the batch or the requester's error), then
`fetch_traces` over them. The batch is stopped whatever `fetch_traces` answers, and the stop
answers nothing. -/
def filterRequest (maxCount : Nat) (startBatch : List H256 → Except StartBatchError Nat)
    (getTraces : H256 → Except String (List TransactionTrace))
    (bestNumber : UInt32) (fromBlock toBlock : Option RequestBlockId) (req : FilterRequest) :
    Except String (List TransactionTrace) := do
  let fromBlock ← blockId bestNumber fromBlock
  let toBlock ← blockId bestNumber toBlock
  let count := req.count.getD maxCount
  if count > maxCount then .error (countOverMaximumMessage count maxCount)
  else
    let hashes ← blockHashes header debugError
      (List.range' fromBlock.toNat (toBlock.toNat + 1 - fromBlock.toNat))
    let _batchId ← (startBatch hashes).mapError StartBatchError.message
    fetchTraces maxCount getTraces req count hashes

end Blocks

end Edgeware.Rpc.Trace
