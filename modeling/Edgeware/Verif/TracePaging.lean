import Mathlib.Tactic.Set
import Edgeware.Rpc.Trace

/-!
# Paging of trace_filter

What `trace_filter` returns, once every block's traces are at hand: the traces of the requested
blocks that the address filter keeps, in block order (`keptTraces`), after the first `after` of
them. The loop of `fetch_traces` computes `fetchResult` of these (`fetchLoop_eq`): its invariant
is that the running total counts the traces it holds past the marker, or minus those it has
still to skip, and that it holds fewer than the count. With a count in the request the answer
is the first `count` of them (`filter_of_count`). Without one, the count is the maximum, and the
request fails once the traces reach it (`filter_rejects_maximum`), also at exactly the maximum.

The numbers of the first and the last block of a request are read back from the digits a client
writes of them, in decimal or in hexadecimal after `0x` (`deserializeU32_roundTrip`); decimal
digits never start `0x`, so the two readings do not meet.
-/

namespace Edgeware.Rpc.Trace

open Tracing Block

/-- The traces of `blockHashes` that a request's address filter keeps, in order. -/
def keptTraces (req : FilterRequest) (blockTraces : H256 → List TransactionTrace)
    (blockHashes : List H256) : List TransactionTrace :=
  blockHashes.flatMap fun blockHash =>
    (blockTraces blockHash).filter (keepsTrace (req.fromAddress.getD []) (req.toAddress.getD []))

/-- The part of a block after the marker that the running total crosses in it. -/
theorem cut_eq_drop {α : Type} (blockTraces : List α) {amount : Int}
    (crossed : amount + blockTraces.length > 0) :
    (if (amount + blockTraces.length).toNat < blockTraces.length then
        blockTraces.drop (blockTraces.length - (amount + blockTraces.length).toNat)
      else blockTraces) = blockTraces.drop (-amount).toNat := by
  split
  · congr 1
    omega
  · rw [show (-amount).toNat = 0 by omega, List.drop_zero]

/-- What `fetch_traces` returns from the kept traces past the `after` marker: the first `count`
of them, or, for a request without a count, the error once there are some and at least
`count`. -/
def fetchResult (maxCount : Nat) (req : FilterRequest) (count : Nat)
    (traces : List TransactionTrace) : Except String (List TransactionTrace) :=
  if count ≤ traces.length ∧ traces ≠ [] ∧ req.count.isNone then .error (overMaximumMessage maxCount)
  else .ok (traces.take count)

section Paging

variable {maxCount : Nat} {getTraces : H256 → Except String (List TransactionTrace)}
  {req : FilterRequest} {count : Nat} {blockTraces : H256 → List TransactionTrace}

/-- Before the loop reaches the count, the result of its traces is all of them. -/
theorem fetchResult_of_below {amount : Int} {traces : List TransactionTrace}
    (held : traces.length = amount.toNat) (below : amount ≤ 0 ∨ traces.length < count) :
    fetchResult maxCount req count traces = .ok traces := by
  have short : ¬ (count ≤ traces.length ∧ traces ≠ [] ∧ req.count.isNone) := by
    rintro ⟨full, nonempty, -⟩
    have := List.length_pos_iff.mpr nonempty
    omega
  rw [fetchResult, if_neg short, List.take_of_length_le (by omega)]

/-- A block that takes the loop to the count ends it with the result of all the traces. -/
theorem fetchResult_of_full {traces : List TransactionTrace} (later : List TransactionTrace)
    (full : count ≤ traces.length) (nonempty : traces ≠ []) :
    (if req.count.isNone then .error (overMaximumMessage maxCount) else .ok (traces.take count)) =
      fetchResult maxCount req count (traces ++ later) := by
  have long : count ≤ (traces ++ later).length := by
    rw [List.length_append]
    omega
  unfold fetchResult
  cases uncounted : req.count.isNone with
  | true => rw [if_pos rfl, if_pos ⟨long, by simp [nonempty], rfl⟩]
  | false => simp [List.take_append_of_le_length full]

/-- The loop returns the result of the kept traces past the marker, from any point where its
running total counts the traces it holds, or the traces still to skip, and it holds fewer than
the count. -/
theorem fetchLoop_eq (blockHashes : List H256)
    (succeeds : ∀ blockHash ∈ blockHashes, getTraces blockHash = .ok (blockTraces blockHash))
    (amount : Int) (traces : List TransactionTrace) (held : traces.length = amount.toNat)
    (below : amount ≤ 0 ∨ traces.length < count) :
    fetchLoop maxCount getTraces req count blockHashes amount traces =
      fetchResult maxCount req count
        (traces ++ (keptTraces req blockTraces blockHashes).drop (-amount).toNat) := by
  induction blockHashes generalizing amount traces with
  | nil =>
    simp only [fetchLoop, keptTraces, List.flatMap_nil, List.drop_nil, List.append_nil]
    exact (fetchResult_of_below held below).symm
  | cons blockHash rest ih =>
    have later := ih fun other mem => succeeds other (List.mem_cons_of_mem _ mem)
    simp only [fetchLoop, succeeds blockHash List.mem_cons_self, bind, Except.bind]
    set kept := (blockTraces blockHash).filter
      (keepsTrace (req.fromAddress.getD []) (req.toAddress.getD []))
    have split : keptTraces req blockTraces (blockHash :: rest) =
        kept ++ keptTraces req blockTraces rest := by
      simp [keptTraces, kept]
    rw [split]
    by_cases crossed : amount + kept.length > 0
    · rw [if_pos crossed, cut_eq_drop kept crossed,
        List.drop_append_of_le_length (show (-amount).toNat ≤ kept.length by omega),
        ← List.append_assoc]
      have grown : (traces ++ kept.drop (-amount).toNat).length = (amount + kept.length).toNat := by
        simp only [List.length_append, List.length_drop]
        omega
      by_cases full : (amount + kept.length).toNat ≥ count
      · rw [if_pos full]
        exact fetchResult_of_full _ (by omega) (List.ne_nil_of_length_pos (by omega))
      · rw [if_neg full, later (amount + kept.length) _ grown (.inr (by omega)),
          show (-(amount + kept.length)).toNat = 0 by omega, List.drop_zero]
    · have skipped : traces = [] := List.length_eq_zero_iff.mp (by omega)
      rw [if_neg crossed, later (amount + kept.length) traces (by omega) (.inl (by omega)),
        skipped, List.nil_append, List.nil_append, List.drop_append,
        List.drop_eq_nil_iff.mpr (show kept.length ≤ (-amount).toNat by omega), List.nil_append]
      congr 3
      omega

/-- `fetch_traces` returns the result of the kept traces after the first `after`. -/
theorem fetchTraces_eq (blockHashes : List H256)
    (succeeds : ∀ blockHash ∈ blockHashes, getTraces blockHash = .ok (blockTraces blockHash)) :
    fetchTraces maxCount getTraces req count blockHashes =
      fetchResult maxCount req count
        ((keptTraces req blockTraces blockHashes).drop (req.after.getD 0)) := by
  rw [fetchTraces, fetchLoop_eq blockHashes succeeds _ [] (by simp) (.inl (by omega)),
    List.nil_append, Int.neg_neg, Int.toNat_natCast]

variable {blockHashes : List H256}

/-- With a count in the request, no larger than the maximum, `trace_filter` returns that many
of the kept traces after the first `after`, or all of them when there are fewer. -/
theorem filter_of_count
    (succeeds : ∀ blockHash ∈ blockHashes, getTraces blockHash = .ok (blockTraces blockHash))
    {c : Nat} (counted : req.count = some c) (bounded : c ≤ maxCount) :
    filter maxCount getTraces req blockHashes =
      .ok (((keptTraces req blockTraces blockHashes).drop (req.after.getD 0)).take c) := by
  rw [filter, counted, Option.getD_some, if_neg (by omega), fetchTraces_eq blockHashes succeeds,
    fetchResult, if_neg (by simp [counted])]

/-- A self-destruct trace, which a request without addresses keeps. -/
def suicideTrace : TransactionTrace :=
  ⟨.suicide 1 0 2, 0, 0, .result .suicide, 0, [], 0, 0⟩

/-- Three blocks of self-destructs: two in block 0, two in block 1, one in block 2, each trace by
its own destroyed account. -/
def threeBlocks (blockHash : H256) : List TransactionTrace :=
  (List.range' (2 * blockHash) (if blockHash < 2 then 2 else 1)).map fun address =>
    ⟨.suicide address 0 9, blockHash, blockHash + 1, .result .suicide, 0, [], 0, 0⟩

/-- Two traces after the first: the request skips one trace of block 0, takes the second, takes
the first trace of block 1 and trims the second, and never reads block 2. -/
theorem filter_of_count_across :
    filter 5 (fun blockHash => .ok (threeBlocks blockHash)) ⟨none, none, some 1, some 2⟩
        [0, 1, 2] = .ok ((threeBlocks 0).drop 1 ++ (threeBlocks 1).take 1) := by
  rw [filter_of_count (fun _ _ => rfl) rfl (by decide)]
  rfl

/-- Without a count, `trace_filter` returns the kept traces after the first `after` when they
are fewer than the maximum. -/
theorem filter_of_fewer
    (succeeds : ∀ blockHash ∈ blockHashes, getTraces blockHash = .ok (blockTraces blockHash))
    (uncounted : req.count = none)
    (fewer : ((keptTraces req blockTraces blockHashes).drop (req.after.getD 0)).length < maxCount) :
    filter maxCount getTraces req blockHashes =
      .ok ((keptTraces req blockTraces blockHashes).drop (req.after.getD 0)) := by
  rw [filter, uncounted, Option.getD_none, if_neg (by omega), fetchTraces_eq blockHashes succeeds,
    fetchResult, if_neg (by omega), List.take_of_length_le (by omega)]

/-- Without a count, against a maximum of five: the request skips the first trace of block 0
and takes the four others, across the three blocks. -/
theorem filter_of_fewer_across :
    filter 5 (fun blockHash => .ok (threeBlocks blockHash)) ⟨none, none, some 1, none⟩
        [0, 1, 2] = .ok ((threeBlocks 0).drop 1 ++ threeBlocks 1 ++ threeBlocks 2) := by
  rw [filter_of_fewer (fun _ _ => rfl) rfl (by decide)]
  rfl

/-- Without a count, `trace_filter` fails as soon as the kept traces after the first `after`
reach the maximum, also when there are exactly the maximum of them. -/
theorem filter_rejects_maximum
    (succeeds : ∀ blockHash ∈ blockHashes, getTraces blockHash = .ok (blockTraces blockHash))
    (uncounted : req.count = none)
    (reached : maxCount ≤ ((keptTraces req blockTraces blockHashes).drop (req.after.getD 0)).length)
    (nonempty : (keptTraces req blockTraces blockHashes).drop (req.after.getD 0) ≠ []) :
    filter maxCount getTraces req blockHashes = .error (overMaximumMessage maxCount) := by
  rw [filter, uncounted, Option.getD_none, if_neg (by omega), fetchTraces_eq blockHashes succeeds,
    fetchResult, if_pos ⟨reached, nonempty, by simp [uncounted]⟩]

/-- With a maximum of one, a request without a count for a block whose one trace is kept fails,
though the one trace is not more than the maximum. -/
theorem filter_rejects_exactly_maximum :
    ((keptTraces ⟨none, none, none, none⟩ (fun _ => [suicideTrace]) [0]).drop 0).length = 1 ∧
      filter 1 (fun _ => .ok [suicideTrace]) ⟨none, none, none, none⟩ [0] =
        .error (overMaximumMessage 1) :=
  ⟨by decide, filter_rejects_maximum (fun _ _ => rfl) rfl (by decide) (by decide)⟩

end Paging

/-! ## Block numbers -/

/-- No decimal digits start with `0x`. -/
theorem toDigits_ten_ne_hex (n : Nat) (digits : List Char) :
    Nat.toDigits 10 n ≠ '0' :: 'x' :: digits := by
  intro hex
  have written : 'x' ∈ Nat.toDigits 10 n := hex ▸ by simp
  obtain ⟨d, below, isX⟩ := Radix.mem_toDigits (by decide) written
  have noX : ∀ d < 10, 'x' ≠ Nat.digitChar d := by decide
  exact noX d below isX

/-- A `u32` block number reads back from its decimal digits and from its hexadecimal digits after
`0x`, the two ways a client may write it. -/
theorem deserializeU32_roundTrip (n : UInt32) :
    deserializeU32 (toString n.toNat) = .ok n ∧
      deserializeU32 ("0x" ++ String.ofList (Nat.toDigits 16 n.toNat)) = .ok n := by
  have decimal : Radix.fromStrRadix 32 10 (Nat.toDigits 10 n.toNat) = .ok n.toNat :=
    @Radix.fromStrRadix_toDigits 32 10 (by decide) (by decide) n.toNat n.toNat_lt
  have hexadecimal : Radix.fromStrRadix 32 16 (Nat.toDigits 16 n.toNat) = .ok n.toNat :=
    @Radix.fromStrRadix_toDigits 32 16 (by decide) (by decide) n.toNat n.toNat_lt
  constructor
  · unfold deserializeU32
    split
    case h_1 digits hex =>
      simp only [Nat.toString_eq_repr, Nat.toList_repr] at hex
      exact absurd hex (toDigits_ten_ne_hex n.toNat digits)
    case h_2 =>
      simp [decimal]
  · simp [deserializeU32, hexadecimal]

end Edgeware.Rpc.Trace
