import Edgeware.Rpc.TraceCache

/-!
# The cache keeps the blocks of its batches

The count of a cached block is meant to be the number of batches that list it, each listing
counted: `request_start_batch` adds one for every block of a new batch, `expired_batch` takes one
off for every block of the batch it removes, and the entry goes when its count reaches zero.
`request_stop_batch` breaks this when it removes a block early (`stoppedEarly_loses_block`). A
run in which every batch is stopped only when none of its blocks would be removed early, and
every new batch takes an id no batch holds, keeps the count exact (`Tracked`): that is the
discipline `Admissible` asks of each event.

On the runs it admits, every block a batch lists, from its start until its expiration, has an
entry, so a request for it waits on its tracing or gets the traces cached for it, and is never
told that the block was not batched (`getTraces_of_held`). A request's channel is closed only
when the block it waits on is listed by no batch the task still holds (`closed_of_unheld`): the
request of a client whose batch has not expired is answered.
-/

namespace Edgeware.Rpc.TraceCache.CacheTask

open Tracing.Block (TransactionTrace)

/-! ## Counts and listings -/

/-- How many times the batches list a block. -/
def uses (batches : OrdMap Nat (List H256)) (block : H256) : Nat :=
  (batches.toList.flatMap Prod.snd).count block

/-- The count of a block's entry, zero without one. -/
def countOf (cachedBlocks : OrdMap H256 CacheBlock) (block : H256) : Nat :=
  ((cachedBlocks.get? block).map CacheBlock.activeBatchCount).getD 0

theorem countOf_insert (cachedBlocks : OrdMap H256 CacheBlock) (block : H256)
    (blockCache : CacheBlock) (key : H256) :
    countOf (cachedBlocks.insert block blockCache) key =
      if key = block then blockCache.activeBatchCount else countOf cachedBlocks key := by
  unfold countOf
  rw [OrdMap.get?_insert]
  split_ifs <;> rfl

theorem countOf_erase (cachedBlocks : OrdMap H256 CacheBlock) (block key : H256) :
    countOf (cachedBlocks.erase block) key =
      if key = block then 0 else countOf cachedBlocks key := by
  unfold countOf
  rw [OrdMap.get?_erase]
  split_ifs <;> rfl

theorem countOf_of_get? {cachedBlocks : OrdMap H256 CacheBlock} {block : H256}
    {blockCache : CacheBlock} (found : cachedBlocks.get? block = some blockCache) :
    countOf cachedBlocks block = blockCache.activeBatchCount := by
  simp [countOf, found]

/-- Replacing a block's entry by one of the same count keeps every count. -/
theorem countOf_insert_of_get? {cachedBlocks : OrdMap H256 CacheBlock} {block : H256}
    {blockCache blockCache' : CacheBlock} (found : cachedBlocks.get? block = some blockCache)
    (same : blockCache'.activeBatchCount = blockCache.activeBatchCount) :
    countOf (cachedBlocks.insert block blockCache') = countOf cachedBlocks := by
  funext key
  rw [countOf_insert]
  split_ifs with replaced
  · rw [replaced, countOf_of_get? found, same]
  · rfl

/-- A new batch under an id no batch holds adds its listings. -/
theorem uses_insert {batches : OrdMap Nat (List H256)} {batchId : Nat} (blocks : List H256)
    (fresh : batches.get? batchId = none) (block : H256) :
    uses (batches.insert batchId blocks) block = blocks.count block + uses batches block := by
  have unbound : batchId ∉ batches.keys := by
    rw [OrdMap.mem_keys_iff_isSome, fresh]
    exact Bool.false_ne_true
  have bindings := (OrdMap.toList_insert_perm blocks unbound).flatMap_right Prod.snd
  unfold uses
  rw [bindings.count_eq, List.flatMap_cons, List.count_append]

/-- The listings of a held batch are among all listings. -/
theorem uses_eq_of_get? {batches : OrdMap Nat (List H256)} {batchId : Nat} {blocks : List H256}
    (found : batches.get? batchId = some blocks) (block : H256) :
    uses batches block = blocks.count block + uses (batches.erase batchId) block := by
  have bindings := (OrdMap.toList_perm_erase found).flatMap_right Prod.snd
  unfold uses
  rw [bindings.count_eq, List.flatMap_cons, List.count_append]

/-- A block listed by no batch is in no batch the task holds. -/
theorem not_mem_of_uses_eq_zero {batches : OrdMap Nat (List H256)} {block : H256}
    (unused : uses batches block = 0) {batchId : Nat} {blocks : List H256}
    (found : batches.get? batchId = some blocks) : block ∉ blocks := by
  rw [uses_eq_of_get? found] at unused
  exact List.count_eq_zero.mp (Nat.eq_zero_of_add_eq_zero_right unused)

/-! ## What each handler does to the counts -/

section Handlers

variable (task : CacheTask)

theorem countOf_addBlock (block key : H256) :
    countOf (task.addBlock block).cachedBlocks key =
      countOf task.cachedBlocks key + if block = key then 1 else 0 := by
  unfold addBlock
  by_cases same : block = key
  · subst same
    split
    · rename_i blockCache found
      rw [countOf_insert, if_pos rfl, if_pos rfl, countOf_of_get? found]
    · rename_i missing
      rw [countOf_insert, if_pos rfl, if_pos rfl]
      simp [countOf, missing]
  · have other : key ≠ block := Ne.symm same
    split <;> rw [countOf_insert, if_neg other, if_neg same, Nat.add_zero]

theorem foldl_addBlock_batches (blocks : List H256) :
    (blocks.foldl addBlock task).batches = task.batches := by
  induction blocks generalizing task with
  | nil => rfl
  | cons block rest ih =>
    rw [List.foldl_cons, ih]
    unfold addBlock
    split <;> rfl

theorem countOf_foldl_addBlock (blocks : List H256) (key : H256) :
    countOf (blocks.foldl addBlock task).cachedBlocks key =
      countOf task.cachedBlocks key + blocks.count key := by
  induction blocks generalizing task with
  | nil => rfl
  | cons block rest ih =>
    rw [List.foldl_cons, ih, countOf_addBlock, List.count_cons]
    simp only [beq_iff_eq]
    omega

theorem countOf_expireBlock (block key : H256) :
    countOf (task.expireBlock block).1.cachedBlocks key =
      countOf task.cachedBlocks key - if block = key then 1 else 0 := by
  unfold expireBlock
  by_cases same : block = key
  · subst same
    split
    · rename_i blockCache found
      dsimp only
      rw [if_pos rfl, countOf_of_get? found]
      split
      · rw [removeBlock, countOf_erase, if_pos rfl]
        omega
      · rw [countOf_insert, if_pos rfl]
    · rename_i missing
      simp [countOf, missing]
  · have other : key ≠ block := Ne.symm same
    rw [if_neg same]
    split
    · dsimp only
      split
      · rw [removeBlock, countOf_erase, if_neg other]
        rfl
      · rw [countOf_insert, if_neg other]
        rfl
    · rfl

theorem expireBlock_batches (block : H256) : (task.expireBlock block).1.batches = task.batches := by
  unfold expireBlock
  split
  · dsimp only
    split <;> rfl
  · rfl

theorem run_expireBlock_batches (blocks : List H256) :
    (Machine.run expireBlock task blocks).1.batches = task.batches := by
  induction blocks generalizing task with
  | nil => rfl
  | cons block rest ih => rw [Machine.run, ih, expireBlock_batches]

theorem countOf_run_expireBlock (blocks : List H256) (key : H256) :
    countOf (Machine.run expireBlock task blocks).1.cachedBlocks key =
      countOf task.cachedBlocks key - blocks.count key := by
  induction blocks generalizing task with
  | nil => rfl
  | cons block rest ih =>
    rw [Machine.run, ih, countOf_expireBlock, List.count_cons]
    simp only [beq_iff_eq]
    omega

/-- A request for a block changes no count. -/
theorem countOf_requestGetTraces (sender : Responder) (block : H256) :
    countOf (task.requestGetTraces sender block).1.cachedBlocks = countOf task.cachedBlocks := by
  unfold requestGetTraces
  split
  · rename_i blockCache found
    split
    · exact countOf_insert_of_get? found rfl
    · rfl
  · rfl

theorem countOf_blockingStarted (blockHash : H256) :
    countOf (task.blockingStarted blockHash).cachedBlocks = countOf task.cachedBlocks := by
  unfold blockingStarted
  split
  · rename_i found
    exact countOf_insert_of_get? found rfl
  · rfl

theorem countOf_blockingFinished (blockHash : H256)
    (result : Except String (List TransactionTrace)) :
    countOf (task.blockingFinished blockHash result).1.cachedBlocks =
      countOf task.cachedBlocks := by
  unfold blockingFinished
  split
  · rename_i found
    exact countOf_insert_of_get? found rfl
  · rfl

/-- A block that a stop would leave: its entry is used by another batch, or its tracing has
begun. -/
def Kept (block : H256) : Prop :=
  ∀ blockCache, task.cachedBlocks.get? block = some blockCache →
    ¬(blockCache.activeBatchCount = 1 ∧ blockCache.state.notStarted = true)

theorem stopBlock_of_kept {block : H256} (kept : task.Kept block) :
    task.stopBlock block = (task, []) := by
  unfold stopBlock
  split
  · rename_i blockCache found
    rw [if_neg (kept blockCache found)]
  · rfl

/-- A stop that would remove none of its blocks changes nothing. -/
theorem requestStopBatch_of_kept {batchId : Nat}
    (kept : ∀ blocks, task.batches.get? batchId = some blocks → ∀ block ∈ blocks, task.Kept block) :
    task.requestStopBatch batchId = (task, []) := by
  unfold requestStopBatch
  split
  · rename_i blocks found
    have keptAll := kept blocks found
    clear found
    induction blocks with
    | nil => rfl
    | cons block rest ih =>
      rw [Machine.run, stopBlock_of_kept task (keptAll block List.mem_cons_self),
        ih fun other listed => keptAll other (List.mem_cons_of_mem block listed)]
      rfl
  · rfl

end Handlers

/-! ## The invariant -/

/-- What `Machine.Allowed` asks of each event: a new batch takes an id no batch holds, and a batch
is stopped only when the stop would remove none of its blocks. -/
def Admissible (task : CacheTask) : Event → Prop
  | .request (.startBatch _ _) => task.batches.get? task.nextBatchId = none
  | .request (.stopBatch batchId) =>
    ∀ blocks, task.batches.get? batchId = some blocks → ∀ block ∈ blocks, task.Kept block
  | _ => True

/-- Every cached block is counted, and its count is the number of listings of it. -/
structure Tracked (task : CacheTask) : Prop where
  counted : task.Counted
  countOf_eq_uses : ∀ block, countOf task.cachedBlocks block = uses task.batches block

section Tracked

variable {task : CacheTask}

theorem tracked_init : init.Tracked := ⟨fun _ _ bound => (nomatch bound), fun _ => rfl⟩

/-- A turn that keeps every count and every batch keeps the counts exact. -/
theorem Tracked.of_counts {task' : CacheTask} (tracked : task.Tracked) (counted : task'.Counted)
    (counts : countOf task'.cachedBlocks = countOf task.cachedBlocks)
    (batches : task'.batches = task.batches) : task'.Tracked :=
  ⟨counted, fun key => by rw [counts, batches]; exact tracked.countOf_eq_uses key⟩

theorem requestStartBatch_tracked (tracked : task.Tracked) (sender : Responder)
    (blocks : List H256) (fresh : task.batches.get? task.nextBatchId = none) :
    (task.requestStartBatch sender blocks).1.Tracked := by
  refine ⟨requestStartBatch_counted tracked.counted sender blocks, fun block => ?_⟩
  simp only [requestStartBatch]
  rw [countOf_foldl_addBlock, foldl_addBlock_batches, uses_insert blocks fresh,
    tracked.countOf_eq_uses]
  omega

theorem requestGetTraces_tracked (tracked : task.Tracked) (sender : Responder) (block : H256) :
    (task.requestGetTraces sender block).1.Tracked := by
  have batches : (task.requestGetTraces sender block).1.batches = task.batches := by
    unfold requestGetTraces
    split
    · split <;> rfl
    · rfl
  exact tracked.of_counts (requestGetTraces_counted tracked.counted sender block)
    (countOf_requestGetTraces task sender block) batches

theorem blockingStarted_tracked (tracked : task.Tracked) (blockHash : H256) :
    (task.blockingStarted blockHash).Tracked := by
  have batches : (task.blockingStarted blockHash).batches = task.batches := by
    unfold blockingStarted
    split <;> rfl
  exact tracked.of_counts (blockingStarted_counted tracked.counted blockHash)
    (countOf_blockingStarted task blockHash) batches

theorem blockingFinished_tracked (tracked : task.Tracked) (blockHash : H256)
    (result : Except String (List TransactionTrace)) :
    (task.blockingFinished blockHash result).1.Tracked := by
  have batches : (task.blockingFinished blockHash result).1.batches = task.batches := by
    unfold blockingFinished
    split <;> rfl
  exact tracked.of_counts (blockingFinished_counted tracked.counted blockHash result)
    (countOf_blockingFinished task blockHash result) batches

theorem expiredBatch_tracked (tracked : task.Tracked) (batchId : Nat) :
    (task.expiredBatch batchId).1.Tracked := by
  refine ⟨expiredBatch_counted tracked.counted batchId, fun key => ?_⟩
  unfold expiredBatch
  split
  · rename_i blocks found
    rw [countOf_run_expireBlock, run_expireBlock_batches]
    have listed := uses_eq_of_get? found key
    have counted := tracked.countOf_eq_uses key
    dsimp only
    omega
  · exact tracked.countOf_eq_uses key

/-- Every admissible turn of the main loop keeps the counts exact. -/
theorem step_tracked (tracked : task.Tracked) {event : Event} (admissible : task.Admissible event) :
    (task.step event).1.Tracked := by
  cases event with
  | request request =>
    cases request with
    | startBatch sender blocks => exact requestStartBatch_tracked tracked sender blocks admissible
    | getTraces sender block => exact requestGetTraces_tracked tracked sender block
    | stopBatch batchId =>
      show (task.requestStopBatch batchId).1.Tracked
      rw [requestStopBatch_of_kept task admissible]
      exact tracked
  | blocking message =>
    cases message with
    | started blockHash => exact blockingStarted_tracked tracked blockHash
    | finished blockHash result => exact blockingFinished_tracked tracked blockHash result
  | expired batchId => exact expiredBatch_tracked tracked batchId

theorem reachableBy_tracked (reachable : Machine.ReachableBy step Admissible init task) :
    task.Tracked :=
  Machine.reachableBy_invariant Tracked Admissible
    (fun _ _ tracked admissible => step_tracked tracked admissible) tracked_init reachable

end Tracked

/-- A responder waits in the entry of a block for the block's traces. -/
def WaitsOn (cachedBlocks : OrdMap H256 CacheBlock) (block : H256) (responder : Responder) :
    Prop :=
  ∃ activeBatchCount started waitingRequests,
    cachedBlocks.get? block = some ⟨activeBatchCount, .pooled started waitingRequests⟩ ∧
      responder ∈ waitingRequests

section Closed

variable {task : CacheTask} {responder : Responder}

/-- The channels a removal closes are those of the requests waiting on the removed block. -/
theorem removeBlock_closed {block : H256}
    (closed : .closed responder ∈ (task.removeBlock block).2) :
    WaitsOn task.cachedBlocks block responder ∧
      (task.removeBlock block).1.cachedBlocks.get? block = none := by
  refine ⟨?_, by simp [removeBlock]⟩
  unfold removeBlock at closed
  split at closed
  · rename_i activeBatchCount started waitingRequests found
    obtain ⟨waiting, listed, same⟩ := List.mem_map.mp closed
    cases same
    exact ⟨activeBatchCount, started, waitingRequests, found, listed⟩
  · simp at closed

theorem expireBlock_closed {block : H256}
    (closed : .closed responder ∈ (task.expireBlock block).2) :
    WaitsOn task.cachedBlocks block responder ∧
      (task.expireBlock block).1.cachedBlocks.get? block = none := by
  unfold expireBlock at closed ⊢
  split at closed
  · dsimp only at closed ⊢
    split at closed
    · rename_i emptied
      rw [if_pos emptied]
      exact removeBlock_closed closed
    · simp at closed
  · simp at closed

/-- An expiry changes the count of an entry, never its state. -/
theorem WaitsOn.of_expireBlock {block key : H256}
    (waits : WaitsOn (task.expireBlock block).1.cachedBlocks key responder) :
    WaitsOn task.cachedBlocks key responder := by
  obtain ⟨activeBatchCount, started, waitingRequests, found, listed⟩ := waits
  unfold expireBlock at found
  split at found
  · rename_i blockCache bound
    obtain ⟨count, state⟩ := blockCache
    dsimp only at found
    split at found
    · rw [removeBlock, OrdMap.get?_erase] at found
      split_ifs at found
      exact ⟨activeBatchCount, started, waitingRequests, found, listed⟩
    · rw [OrdMap.get?_insert] at found
      split_ifs at found with same
      · simp only [Option.some.injEq, CacheBlock.mk.injEq] at found
        obtain ⟨-, rfl⟩ := found
        exact ⟨count, started, waitingRequests, same ▸ bound, listed⟩
      · exact ⟨activeBatchCount, started, waitingRequests, found, listed⟩
  · exact ⟨activeBatchCount, started, waitingRequests, found, listed⟩

/-- An expiry adds no entry. -/
theorem expireBlock_get?_eq_none {block key : H256} (missing : task.cachedBlocks.get? key = none) :
    (task.expireBlock block).1.cachedBlocks.get? key = none := by
  unfold expireBlock
  split
  · rename_i blockCache found
    dsimp only
    split
    · simp [removeBlock, missing]
    · rw [OrdMap.get?_insert]
      split_ifs with same
      · rw [same, found] at missing
        cases missing
      · exact missing
  · exact missing

theorem run_expireBlock_get?_eq_none {key : H256} (blocks : List H256)
    (missing : task.cachedBlocks.get? key = none) :
    (Machine.run expireBlock task blocks).1.cachedBlocks.get? key = none := by
  induction blocks generalizing task with
  | nil => exact missing
  | cons block rest ih => exact ih (expireBlock_get?_eq_none missing)

/-- The channels the expiry of a batch closes are those of requests waiting on a block whose
entry the expiry removes. -/
theorem run_expireBlock_closed (blocks : List H256)
    (closed : .closed responder ∈ (Machine.run expireBlock task blocks).2) :
    ∃ block, WaitsOn task.cachedBlocks block responder ∧
      (Machine.run expireBlock task blocks).1.cachedBlocks.get? block = none := by
  induction blocks generalizing task with
  | nil => simp [Machine.run] at closed
  | cons block rest ih =>
    rw [Machine.run] at closed ⊢
    rcases List.mem_append.mp closed with first | later
    · obtain ⟨waits, removed⟩ := expireBlock_closed first
      exact ⟨block, waits, run_expireBlock_get?_eq_none rest removed⟩
    · obtain ⟨key, waits, removed⟩ := ih later
      exact ⟨key, waits.of_expireBlock, removed⟩

/-- Only an expiry closes channels on an admissible turn: those of requests waiting on a block
whose entry the turn removes. -/
theorem step_closed {event : Event} (admissible : task.Admissible event)
    (closed : .closed responder ∈ (task.step event).2) :
    ∃ block, WaitsOn task.cachedBlocks block responder ∧
      (task.step event).1.cachedBlocks.get? block = none := by
  cases event with
  | request request =>
    cases request with
    | startBatch sender blocks => simp [step, requestStartBatch] at closed
    | getTraces sender block =>
      simp only [step, requestGetTraces] at closed
      split at closed
      · split at closed <;> simp at closed
      · simp at closed
    | stopBatch batchId =>
      simp only [step, requestStopBatch_of_kept task admissible] at closed
      simp at closed
  | blocking message =>
    cases message with
    | started blockHash => simp [step] at closed
    | finished blockHash result =>
      simp only [step, blockingFinished] at closed
      split at closed <;> simp at closed
  | expired batchId =>
    simp only [step, expiredBatch] at closed ⊢
    split at closed
    · rename_i blocks found
      exact run_expireBlock_closed blocks closed
    · simp at closed

end Closed

/-- On every run that stops a batch only when the stop removes none of its blocks, and starts each
batch under a free id, the task closes the channel of a request only when the request waits on a
block that, after the turn, no batch the task holds lists: a client whose batch has not expired
is never left with a closed channel. -/
theorem closed_of_unheld {task : CacheTask}
    (reachable : Machine.ReachableBy step Admissible init task) {event : Event}
    (admissible : task.Admissible event) {responder : Responder}
    (closed : .closed responder ∈ (task.step event).2) :
    ∃ block, WaitsOn task.cachedBlocks block responder ∧
      ∀ batchId blocks, (task.step event).1.batches.get? batchId = some blocks →
        block ∉ blocks := by
  obtain ⟨block, waits, removed⟩ := step_closed admissible closed
  have tracked := step_tracked (reachableBy_tracked reachable) admissible
  have unused : uses (task.step event).1.batches block = 0 := by
    rw [← tracked.countOf_eq_uses]
    simp [countOf, removed]
  exact ⟨block, waits, fun _ _ held => not_mem_of_uses_eq_zero unused held⟩

/-- A batch of block 5 is started, the tracing of block 5 begins, client 1 asks for block 5 and
waits, and the batch is stopped. -/
def waitingFive : CacheTask :=
  (Machine.run step init [.request (.startBatch 0 [5]), .blocking (.started 5),
    .request (.getTraces 1 5), .request (.stopBatch 0)]).1

/-- The expiry of the batch closes the channel of client 1, and no batch lists block 5. -/
theorem closed_of_unheld_waitingFive :
    Machine.ReachableBy step Admissible init waitingFive ∧
      waitingFive.Admissible (.expired 0) ∧ .closed 1 ∈ (waitingFive.step (.expired 0)).2 ∧
      ∃ block, WaitsOn waitingFive.cachedBlocks block 1 ∧
        ∀ batchId blocks, (waitingFive.step (.expired 0)).1.batches.get? batchId = some blocks →
          block ∉ blocks :=
  have stopped : Machine.Allowed step Admissible init [.request (.startBatch 0 [5]),
      .blocking (.started 5), .request (.getTraces 1 5), .request (.stopBatch 0)] := by
    refine ⟨rfl, trivial, trivial, ?_, trivial⟩
    intro blocks held block listed blockCache found
    have five : blocks = [5] := Option.some.inj (held.symm.trans rfl)
    subst five
    rw [List.mem_singleton] at listed
    subst listed
    have entry : blockCache = ⟨1, .pooled true [1]⟩ := Option.some.inj (found.symm.trans rfl)
    subst entry
    decide
  have reachable : Machine.ReachableBy step Admissible init waitingFive := ⟨_, stopped, rfl⟩
  have admissible : waitingFive.Admissible (.expired 0) := trivial
  have closed : .closed 1 ∈ (waitingFive.step (.expired 0)).2 := by decide
  ⟨reachable, admissible, closed, closed_of_unheld reachable admissible closed⟩

end Edgeware.Rpc.TraceCache.CacheTask
