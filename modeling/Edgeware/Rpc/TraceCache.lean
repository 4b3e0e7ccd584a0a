import Edgeware.Lib.OrdMap
import Edgeware.Lib.Machine
import Edgeware.Tracing.Types

/-!
# The trace_filter cache task

`CacheTask` (`client/rpc/trace`): the task that traces blocks for `trace_filter` and keeps their
traces while batches of requests use them. Its main loop selects one event at a time: a request
of a client (start a batch of blocks, get the traces of a block, stop a batch), a message of a
tracing task (it started, it finished with a result), or the end of the expiration delay of a
stopped batch. Each handler is a function of the task's state and the event, returning the new
state and what the task sends out; the task is the machine of `Machine` on these events.

A response channel is named by the number of its request. What the tokio runtime does is the
environment: when a tracing task starts or finishes, and when a delay ends. Dropping the
channels of an entry closes them, which `Response.closed` records; dropping an entry's unqueue
sender cancels its tracing if it has not started, which is again the environment's part. Batch
ids are `u64`, and the next one is taken with `overflowing_add`.
-/

namespace Edgeware.Rpc.TraceCache

open Tracing Block

/-- A response channel, by the number of the request it answers. -/
abbrev Responder := Nat

/-- `CacheBlockState`: a block waiting for, or in, its tracing, or traced. -/
inductive CacheBlockState where
  | pooled (started : Bool) (waitingRequests : List Responder)
  | cached (traces : Except String (List TransactionTrace))
  deriving DecidableEq

/-- Whether a block waits for its tracing, which has not started. -/
def CacheBlockState.notStarted : CacheBlockState → Bool
  | .pooled false _ => true
  | _ => false

/-- `CacheBlock`: the number of batches using a block, and its state. -/
structure CacheBlock where
  activeBatchCount : Nat
  state : CacheBlockState
  deriving DecidableEq

/-- The state of `CacheTask`: the cached blocks, the blocks of each batch, the next batch id. -/
structure CacheTask where
  cachedBlocks : OrdMap H256 CacheBlock
  batches : OrdMap Nat (List H256)
  nextBatchId : Nat
  deriving DecidableEq

/-- What the task sends on a channel, or that it closed the channel. -/
inductive Response where
  | batchId (responder : Responder) (batchId : Nat)
  | traces (responder : Responder) (result : Except String (List TransactionTrace))
  | closed (responder : Responder)
  deriving DecidableEq

/-- `CacheRequest`. -/
inductive CacheRequest where
  | startBatch (sender : Responder) (blocks : List H256)
  | getTraces (sender : Responder) (block : H256)
  | stopBatch (batchId : Nat)
  deriving DecidableEq

/-- `BlockingTaskMessage`. -/
inductive BlockingTaskMessage where
  | started (blockHash : H256)
  | finished (blockHash : H256) (result : Except String (List TransactionTrace))
  deriving DecidableEq

/-- What the main loop of the task selects. -/
inductive Event where
  | request (request : CacheRequest)
  | blocking (message : BlockingTaskMessage)
  | expired (batchId : Nat)
  deriving DecidableEq

/-- A byte as two lower-case hexadecimal digits, `{:02x}`. -/
def hexByte (byte : Nat) : String :=
  let digits := String.ofList (Nat.toDigits 16 byte)
  if byte < 16 then "0" ++ digits else digits

/-- The `Display` of an `H256`: its first two and its last two bytes, around an ellipsis. -/
def displayH256 (hash : H256) : String :=
  "0x" ++ hexByte ((hash >>> 248) % 256) ++ hexByte ((hash >>> 240) % 256) ++ "…" ++
    hexByte ((hash >>> 8) % 256) ++ hexByte (hash % 256)

/-- The error of a request for a block that no batch asked for. -/
def notBatchedMessage (block : H256) : String :=
  "RPC request asked a block (" ++ displayH256 block ++ ") that was not batched"

/-- The task before any event. -/
def CacheTask.init : CacheTask := ⟨∅, ∅, 0⟩

namespace CacheTask

/-- One block of a new batch: a cached block is used by one more batch, a missing one is pooled
for tracing. -/
def addBlock (task : CacheTask) (block : H256) : CacheTask :=
  match task.cachedBlocks.get? block with
  | some blockCache =>
    let blockCache := { blockCache with activeBatchCount := blockCache.activeBatchCount + 1 }
    { task with cachedBlocks := task.cachedBlocks.insert block blockCache }
  | none => { task with cachedBlocks := task.cachedBlocks.insert block ⟨1, .pooled false []⟩ }

/-- `request_start_batch`. -/
def requestStartBatch (task : CacheTask) (sender : Responder) (blocks : List H256) :
    CacheTask × List Response :=
  let batchId := task.nextBatchId
  let task := { task with batches := task.batches.insert batchId blocks }
  let task := blocks.foldl addBlock task
  ({ task with nextBatchId := (batchId + 1) % UInt64.size }, [.batchId sender batchId])

/-- `request_get_traces`. -/
def requestGetTraces (task : CacheTask) (sender : Responder) (block : H256) :
    CacheTask × List Response :=
  match task.cachedBlocks.get? block with
  | some blockCache =>
    match blockCache.state with
    | .pooled started waitingRequests =>
      let blockCache := { blockCache with state := .pooled started (waitingRequests ++ [sender]) }
      ({ task with cachedBlocks := task.cachedBlocks.insert block blockCache }, [])
    | .cached traces => (task, [.traces sender traces])
  | none => (task, [.traces sender (.error (notBatchedMessage block))])

/-- Remove the entry of a block; dropping it closes the channels of the requests waiting for
it. -/
def removeBlock (task : CacheTask) (block : H256) : CacheTask × List Response :=
  let closed := match task.cachedBlocks.get? block with
    | some ⟨_, .pooled _ waitingRequests⟩ => waitingRequests.map .closed
    | _ => []
  ({ task with cachedBlocks := task.cachedBlocks.erase block }, closed)

/-- One block of a stopped batch: removed early if only this batch uses it and its tracing has
not started. -/
def stopBlock (task : CacheTask) (block : H256) : CacheTask × List Response :=
  match task.cachedBlocks.get? block with
  | some blockCache =>
    if blockCache.activeBatchCount = 1 ∧ blockCache.state.notStarted then removeBlock task block
    else (task, [])
  | none => (task, [])

/-- `request_stop_batch`. -/
def requestStopBatch (task : CacheTask) (batchId : Nat) : CacheTask × List Response :=
  match task.batches.get? batchId with
  | some blocks => Machine.run stopBlock task blocks
  | none => (task, [])

/-- `blocking_started`. -/
def blockingStarted (task : CacheTask) (blockHash : H256) : CacheTask :=
  match task.cachedBlocks.get? blockHash with
  | some ⟨activeBatchCount, .pooled _ waitingRequests⟩ =>
    let blockCache : CacheBlock := ⟨activeBatchCount, .pooled true waitingRequests⟩
    { task with cachedBlocks := task.cachedBlocks.insert blockHash blockCache }
  | _ => task

/-- `blocking_finished`: the waiting requests get the result, the last one first. -/
def blockingFinished (task : CacheTask) (blockHash : H256)
    (result : Except String (List TransactionTrace)) : CacheTask × List Response :=
  match task.cachedBlocks.get? blockHash with
  | some ⟨activeBatchCount, .pooled _ waitingRequests⟩ =>
    let blockCache : CacheBlock := ⟨activeBatchCount, .cached result⟩
    ({ task with cachedBlocks := task.cachedBlocks.insert blockHash blockCache },
      waitingRequests.reverse.map fun responder => .traces responder result)
  | _ => (task, [])

/-- One block of an expired batch: one batch fewer uses it, and it is removed when none does. -/
def expireBlock (task : CacheTask) (block : H256) : CacheTask × List Response :=
  match task.cachedBlocks.get? block with
  | some blockCache =>
    let blockCache := { blockCache with activeBatchCount := blockCache.activeBatchCount - 1 }
    if blockCache.activeBatchCount = 0 then removeBlock task block
    else ({ task with cachedBlocks := task.cachedBlocks.insert block blockCache }, [])
  | none => (task, [])

/-- `expired_batch`. -/
def expiredBatch (task : CacheTask) (batchId : Nat) : CacheTask × List Response :=
  match task.batches.get? batchId with
  | some batch => Machine.run expireBlock { task with batches := task.batches.erase batchId } batch
  | none => (task, [])

/-- One turn of the main loop. -/
def step (task : CacheTask) : Event → CacheTask × List Response
  | .request (.startBatch sender blocks) => task.requestStartBatch sender blocks
  | .request (.getTraces sender block) => task.requestGetTraces sender block
  | .request (.stopBatch batchId) => task.requestStopBatch batchId
  | .blocking (.started blockHash) => (task.blockingStarted blockHash, [])
  | .blocking (.finished blockHash result) => task.blockingFinished blockHash result
  | .expired batchId => task.expiredBatch batchId

/-- Every cached block is used by some batch: its count is positive, so that the decrement of
`expired_batch` never goes below zero. -/
def Counted (task : CacheTask) : Prop :=
  ∀ block blockCache, task.cachedBlocks.get? block = some blockCache →
    0 < blockCache.activeBatchCount

section Counted

variable {task : CacheTask}

theorem counted_insert (counted : task.Counted) (block : H256) {blockCache : CacheBlock}
    (positive : 0 < blockCache.activeBatchCount) :
    Counted { task with cachedBlocks := task.cachedBlocks.insert block blockCache } := by
  intro key found bound
  rw [OrdMap.get?_insert] at bound
  split_ifs at bound
  · cases bound
    exact positive
  · exact counted key found bound

theorem counted_erase (counted : task.Counted) (block : H256) :
    Counted { task with cachedBlocks := task.cachedBlocks.erase block } := by
  intro key found bound
  rw [OrdMap.get?_erase] at bound
  split_ifs at bound
  exact counted key found bound

theorem addBlock_counted (counted : task.Counted) (block : H256) : (task.addBlock block).Counted := by
  unfold addBlock
  split
  · exact counted_insert counted block (Nat.succ_pos _)
  · exact counted_insert counted block Nat.one_pos

theorem foldl_addBlock_counted (blocks : List H256) (counted : task.Counted) :
    (blocks.foldl addBlock task).Counted := by
  induction blocks generalizing task with
  | nil => exact counted
  | cons block rest ih => exact ih (addBlock_counted counted block)

theorem requestStartBatch_counted (counted : task.Counted) (sender : Responder)
    (blocks : List H256) : (task.requestStartBatch sender blocks).1.Counted := by
  have batched : Counted { task with batches := task.batches.insert task.nextBatchId blocks } :=
    counted
  exact foldl_addBlock_counted blocks batched

theorem requestGetTraces_counted (counted : task.Counted) (sender : Responder) (block : H256) :
    (task.requestGetTraces sender block).1.Counted := by
  unfold requestGetTraces
  split
  · rename_i blockCache found
    split
    · exact counted_insert counted block (counted block blockCache found)
    · exact counted
  · exact counted

theorem removeBlock_counted (counted : task.Counted) (block : H256) :
    (task.removeBlock block).1.Counted :=
  counted_erase counted block

theorem stopBlock_counted (counted : task.Counted) (block : H256) :
    (task.stopBlock block).1.Counted := by
  unfold stopBlock
  split
  · split
    · exact removeBlock_counted counted block
    · exact counted
  · exact counted

theorem requestStopBatch_counted (counted : task.Counted) (batchId : Nat) :
    (task.requestStopBatch batchId).1.Counted := by
  unfold requestStopBatch
  split
  · exact Machine.run_invariant Counted (fun _ block counted => stopBlock_counted counted block)
      counted _
  · exact counted

theorem blockingStarted_counted (counted : task.Counted) (blockHash : H256) :
    (task.blockingStarted blockHash).Counted := by
  unfold blockingStarted
  split
  · rename_i found
    have positive := counted blockHash _ found
    exact counted_insert counted blockHash positive
  · exact counted

theorem blockingFinished_counted (counted : task.Counted) (blockHash : H256)
    (result : Except String (List TransactionTrace)) :
    (task.blockingFinished blockHash result).1.Counted := by
  unfold blockingFinished
  split
  · rename_i found
    have positive := counted blockHash _ found
    exact counted_insert counted blockHash positive
  · exact counted

theorem expireBlock_counted (counted : task.Counted) (block : H256) :
    (task.expireBlock block).1.Counted := by
  unfold expireBlock
  split
  · dsimp only
    split
    · exact removeBlock_counted counted block
    · rename_i remaining
      exact counted_insert counted block (Nat.pos_of_ne_zero remaining)
  · exact counted

theorem expiredBatch_counted (counted : task.Counted) (batchId : Nat) :
    (task.expiredBatch batchId).1.Counted := by
  unfold expiredBatch
  split
  · have cleared : Counted { task with batches := task.batches.erase batchId } := counted
    exact Machine.run_invariant Counted (fun _ block counted => expireBlock_counted counted block)
      cleared _
  · exact counted

/-- Every turn of the main loop keeps every cached block counted. -/
theorem step_counted (counted : task.Counted) (event : Event) : (task.step event).1.Counted := by
  cases event with
  | request request =>
    cases request with
    | startBatch sender blocks => exact requestStartBatch_counted counted sender blocks
    | getTraces sender block => exact requestGetTraces_counted counted sender block
    | stopBatch batchId => exact requestStopBatch_counted counted batchId
  | blocking message =>
    cases message with
    | started blockHash => exact blockingStarted_counted counted blockHash
    | finished blockHash result => exact blockingFinished_counted counted blockHash result
  | expired batchId => exact expiredBatch_counted counted batchId

end Counted

/-- In every state the task reaches, whatever the order of requests, tracing messages and
expirations, every cached block is used by at least one batch: the decrement of its count when a
batch expires never wraps around. -/
theorem reachable_counted {task : CacheTask} (reachable : Machine.Reachable step init task) :
    task.Counted :=
  Machine.reachable_invariant Counted (fun _ event counted => step_counted counted event)
    (fun _ _ bound => by simp [init] at bound) reachable

/-- After a batch that names block 5 twice, and its expiration, every cached block is counted. -/
theorem counted_after_expiry :
    (Machine.run step init [.request (.startBatch 0 [5, 5]), .expired 0]).1.Counted :=
  reachable_counted ⟨_, rfl⟩

/-- Client 0 starts a batch of block 5 and stops it before asking for it; client 1 starts a
batch of block 5, then the first batch expires, then client 1 asks for block 5. In the second
run client 1 asks for block 5 before the first batch expires. -/
def stoppedEarly (askFirst : Bool) : List Event :=
  [.request (.startBatch 0 [5]), .request (.stopBatch 0), .request (.startBatch 1 [5])] ++
    if askFirst then [.request (.getTraces 2 5), .expired 0]
    else [.expired 0, .request (.getTraces 2 5)]

/-- The early removal of block 5 at the stop of the first batch, and the second batch's new
entry for it, which the expiration of the first batch then removes: while the second batch is
started and not stopped, its request for block 5 is told that the block was not batched, or has
its channel closed. -/
theorem stoppedEarly_loses_block :
    (Machine.run step init (stoppedEarly false)).2 =
        [.batchId 0 0, .batchId 1 1, .traces 2 (.error (notBatchedMessage 5))] ∧
      (Machine.run step init (stoppedEarly true)).2 = [.batchId 0 0, .batchId 1 1, .closed 2] ∧
      (Machine.run step init (stoppedEarly false)).1.batches.get? 1 = some [5] := by
  decide

end CacheTask

end Edgeware.Rpc.TraceCache
