import Mathlib.Data.List.Induction
import Mathlib.Data.List.Perm.Subperm
import Mathlib.Data.List.Lex
import Edgeware.Spec.CallTree

/-!
# The callTracer formatter rebuilds the call tree

For every listener whose non-empty maps are well addressed, `format` returns the tree of each
non-empty map in order (`Spec.expectedTraces`).

The proof follows the formatter. The comparator of its sort orders addresses by length and, at
one length, in decreasing lexicographic order, a strict weak order (`compareAddresses_lt_iff`),
so the sorted entries start at the root, every entry comes after its parent and before its
children, and siblings come in decreasing position. The pop-and-push loop then keeps one
invariant (`popAndPush_nodes`): when the entries after some point of the sorted list have been
popped, every call still in the list holds the trees of its popped children, in the order they
were popped. A popped entry has all its children popped before it, so what is pushed into its
parent is its whole tree; reading the popped children backwards lists them by increasing
position, as the tree has them (`filter_popped_eq_children`).
-/

namespace Edgeware.Tracing.CallTracer

open Spec SortBy ListUpdate

/-! ## The order of the sort -/

/-- At one length, `sibling_greater_than` is the lexicographic order, reversed. -/
theorem siblingGreaterThan_iff {a b : List Nat} (same : a.length = b.length) :
    siblingGreaterThan a b = true ↔ b < a := by
  induction a generalizing b with
  | nil =>
    obtain rfl : b = [] := List.length_eq_zero_iff.mp same.symm
    simp [siblingGreaterThan]
  | cons x a ih =>
    obtain ⟨y, b, rfl⟩ := List.exists_cons_of_length_eq_add_one same.symm
    simp only [List.length_cons, Nat.add_right_cancel_iff] at same
    simp only [siblingGreaterThan, List.cons_lt_cons_iff]
    by_cases greater : x > y
    · simp [greater]
    · by_cases less : x < y
      · simp [greater, less, Nat.ne_of_gt less]
      · obtain rfl : x = y := by omega
        simp [ih same]

/-- The comparator answers `Less` for a shorter address, or for a lexicographically greater one
of the same length. -/
theorem compareAddresses_lt_iff {a b : List Nat} :
    compareAddresses a b = .lt ↔ a.length < b.length ∨ (a.length = b.length ∧ b < a) := by
  unfold compareAddresses
  by_cases same : a.length = b.length
  · simp [same, siblingGreaterThan_iff same]
  · simp only [gt_iff_lt, same, false_and, or_false]
    split_ifs <;> simp_all

/-- The order of the sort is a strict weak order. -/
theorem compareAddresses_strictWeak : StrictWeak compareAddresses where
  asymm a b := by
    simp only [compareAddresses_lt_iff, ne_eq]
    rintro (shorter | ⟨same, greater⟩) (shorter' | ⟨same', greater'⟩)
    · omega
    · omega
    · omega
    · exact lt_asymm greater greater'
  negTrans a b c := by
    simp only [compareAddresses_lt_iff]
    rintro (shorter | ⟨same, greater⟩)
    · by_cases below : a.length < b.length
      · exact .inl (.inl below)
      · exact .inr (.inl (by omega))
    · rcases lt_trichotomy a.length b.length with shorter | same' | longer
      · exact .inl (.inl shorter)
      · rcases lt_or_ge b a with less | atLeast
        · exact .inl (.inr ⟨same', less⟩)
        · exact .inr (.inr ⟨by omega, lt_of_lt_of_le greater atLeast⟩)
      · exact .inr (.inl (by omega))

/-- Extending one address by two indices orders the results as the indices. -/
theorem append_singleton_lt_iff (address : List Nat) (i j : Nat) :
    address ++ [j] < address ++ [i] ↔ j < i := by
  induction address with
  | nil => simp [List.cons_lt_cons_iff]
  | cons x address ih => simp [ih]

/-! ## The sorted entries -/

/-- The order of the sort on entries, by their addresses. -/
def compareCalls (a b : Call) : Ordering := compareAddresses a.traceAddress b.traceAddress

/-- The entries of a map in the order the formatter sorts their calls. -/
def sorted (calls : List Call) : List Call := sortBy compareCalls calls

/-- Sorting the calls of entries sorts the entries. -/
theorem sortBy_callTracerCall (calls : List Call) :
    sortBy compare (calls.map callTracerCall) = (sorted calls).map callTracerCall :=
  sortBy_map _ _ _

theorem sorted_perm (calls : List Call) : (sorted calls).Perm calls := sortBy_perm _ _

theorem pairwise_sorted (calls : List Call) :
    (sorted calls).Pairwise fun a b => compareCalls b a ≠ .lt :=
  pairwise_sortBy (compareAddresses_strictWeak.comap Call.traceAddress) calls

/-- An entry sorted before another has an address no longer, and at the same length not
lexicographically smaller. -/
theorem before_of_sorted {a b : Call} (kept : compareCalls b a ≠ .lt) :
    a.traceAddress.length ≤ b.traceAddress.length ∧
      (a.traceAddress.length = b.traceAddress.length → ¬ a.traceAddress < b.traceAddress) := by
  simp only [compareCalls, ne_eq, compareAddresses_lt_iff, not_or, not_and] at kept
  exact ⟨by omega, fun same => kept.2 same.symm⟩

/-- A child of `address` is `address` extended by its position. -/
theorem address_of_isChild {address : List Nat} {call : Call}
    (child : isChild address call = true) : call.traceAddress = address ++ [position call] := by
  simp only [isChild, ne_eq, Bool.and_eq_true, decide_eq_true_eq, beq_iff_eq] at child
  obtain ⟨nonempty, parent⟩ := child
  rw [← parent, position, List.getLastD_eq_getLast?, List.getLast?_eq_some_getLast nonempty,
    Option.getD_some]
  exact (List.dropLast_append_getLast nonempty).symm

theorem length_of_isChild {address : List Nat} {call : Call}
    (child : isChild address call = true) :
    call.traceAddress.length = address.length + 1 := by
  rw [address_of_isChild child, List.length_append, List.length_singleton]

section WellAddressed

variable {calls : List Call} (well : WellAddressed calls)
include well

theorem nodup_sorted : ((sorted calls).map Call.traceAddress).Nodup :=
  ((sorted_perm calls).map _).nodup_iff.mpr well.nodup

/-- Two entries at one address are one entry. -/
theorem eq_of_traceAddress {a b : Call} (memA : a ∈ calls) (memB : b ∈ calls)
    (same : a.traceAddress = b.traceAddress) : a = b :=
  List.inj_on_of_nodup_map well.nodup memA memB same

/-- Read backwards, the sorted entries list the children of an address by increasing
position. -/
theorem filter_sorted_eq_children (address : List Nat) :
    (sorted calls).reverse.filter (isChild address) = children calls address := by
  have perm : ((sorted calls).reverse.filter (isChild address)).Perm (children calls address) :=
    (((List.reverse_perm _).trans (sorted_perm calls)).filter _).trans
      (List.mergeSort_perm _ _).symm
  have increasing : ((sorted calls).reverse.filter (isChild address)).Pairwise
      fun a b => position a ≤ position b := by
    rw [List.pairwise_filter, List.pairwise_reverse]
    refine (pairwise_sorted calls).imp fun {later earlier} kept childEarlier childLater => ?_
    have order := (before_of_sorted kept).2
    rw [address_of_isChild childEarlier, address_of_isChild childLater,
      append_singleton_lt_iff] at order
    simp only [List.length_append, List.length_singleton, forall_const] at order
    omega
  have byPosition : (children calls address).Pairwise fun a b => position a ≤ position b := by
    have sortedChildren : (children calls address).Pairwise
        fun a b => decide (position a ≤ position b) := List.pairwise_mergeSort
      (fun a b c first second => by simp only [decide_eq_true_eq] at *; omega)
      (fun a b => by simp only [Bool.or_eq_true, decide_eq_true_eq]; omega)
      (calls.filter (isChild address))
    exact sortedChildren.imp fun kept => by simpa using kept
  refine perm.eq_of_pairwise (fun a b memA memB below above => ?_) increasing byPosition
  obtain ⟨memA, childA⟩ := List.mem_filter.mp memA
  obtain ⟨memB, childB⟩ := List.mem_filter.mp (List.mem_mergeSort.mp memB)
  refine eq_of_traceAddress well ((List.reverse_perm _).trans (sorted_perm calls) |>.subset memA)
    memB ?_
  rw [address_of_isChild childA, address_of_isChild childB, Nat.le_antisymm below above]

/-- Every child of an entry is sorted after it, so the children of a popped entry were all
popped before it. -/
theorem filter_popped_eq_children {before popped : List Call} {call : Call}
    (split : before ++ call :: popped = sorted calls) :
    popped.reverse.filter (isChild call.traceAddress) = children calls call.traceAddress := by
  have order := pairwise_sorted calls
  rw [← split, List.pairwise_append] at order
  have notChild : ∀ other ∈ call :: before, isChild call.traceAddress other = false := by
    intro other mem
    rcases List.mem_cons.mp mem with rfl | mem
    · by_contra child
      have longer := length_of_isChild (Bool.not_eq_false _ ▸ child)
      omega
    · by_contra child
      have longer := length_of_isChild (Bool.not_eq_false _ ▸ child)
      have shorter := (before_of_sorted (order.2.2 other mem call List.mem_cons_self)).1
      omega
  have rest : (call :: before.reverse).filter (isChild call.traceAddress) = [] :=
    List.filter_eq_nil_iff.mpr fun other mem => by simp [notChild other (by simpa using mem)]
  rw [← filter_sorted_eq_children well, ← split, List.reverse_append, List.reverse_cons,
    List.append_assoc, List.filter_append, List.singleton_append, rest, List.append_nil]

/-- Every prefix of an entry's address is an entry's address. -/
theorem take_mem_addresses : ∀ (length : Nat) (call : Call), call ∈ calls →
    call.traceAddress.length = length →
    ∀ j ≤ length, call.traceAddress.take j ∈ calls.map Call.traceAddress := by
  intro length
  induction length with
  | zero =>
    intro call mem empty j _
    rw [List.take_of_length_le (by omega)]
    exact List.mem_map_of_mem mem
  | succ length ih =>
    intro call mem nonzero j bound
    by_cases whole : j = length + 1
    · rw [List.take_of_length_le (by omega)]
      exact List.mem_map_of_mem mem
    · obtain ⟨parent, memParent, address⟩ :=
        well.parent call mem (List.ne_nil_of_length_pos (by omega))
      have prefixes := ih parent memParent (by simp [address, nonzero]) j (by omega)
      rwa [address, List.dropLast_eq_take, List.take_take, Nat.min_eq_left (by omega)]
        at prefixes

/-- An entry lies fewer levels deep than the map has entries: its address and all its
prefixes are distinct addresses of the map. -/
theorem length_lt_of_mem {call : Call} (mem : call ∈ calls) :
    call.traceAddress.length < calls.length := by
  have prefixes : ((List.range (call.traceAddress.length + 1)).map
      fun j => call.traceAddress.take j).Nodup := by
    refine List.nodup_range.map_on fun i memI j memJ same => ?_
    have lengths := congrArg List.length same
    simp only [List.length_take, List.mem_range] at lengths memI memJ
    omega
  have within := (prefixes.subperm fun address memAddress => by
    obtain ⟨j, memJ, rfl⟩ := List.mem_map.mp memAddress
    exact take_mem_addresses well _ call mem rfl j (by simpa [Nat.lt_succ_iff] using memJ))
    |>.length_le
  simp only [List.length_map, List.length_range] at within
  omega

end WellAddressed

/-! ## The pop-and-push loop -/

/-- The tree of an entry, as deep as a map of this size lets the entries below it nest. -/
def tree (calls : List Call) (call : Call) : CallTracerCall :=
  nested calls (calls.length - call.traceAddress.length) call

/-- A call of the working list once the entries of `popped` have been popped: the entry's call,
holding the trees of its popped children in the order they were popped. -/
def node (calls popped : List Call) (call : Call) : CallTracerCall :=
  { callTracerCall call with
    calls := (popped.reverse.filter (isChild call.traceAddress)).map (tree calls) }

@[simp]
theorem addressOf_node (calls popped : List Call) (call : Call) :
    addressOf (node calls popped call) = call.traceAddress := rfl

/-- Popping one more entry adds its tree to the calls of its parent only. -/
theorem node_cons (calls popped : List Call) (last call : Call) :
    node calls (last :: popped) call =
      if isChild call.traceAddress last then
        { node calls popped call with calls := (node calls popped call).calls ++ [tree calls last] }
      else node calls popped call := by
  unfold node
  rw [List.reverse_cons, List.filter_append]
  split <;> simp [*]

section WellAddressed

variable {calls : List Call} (well : WellAddressed calls)
include well

/-- The tree of an entry is the entry's call holding the trees of its children. -/
theorem tree_eq {call : Call} (mem : call ∈ calls) :
    tree calls call =
      { callTracerCall call with
        traceAddress := none, calls := (children calls call.traceAddress).map (tree calls) } := by
  obtain ⟨depth, remaining⟩ : ∃ depth, calls.length - call.traceAddress.length = depth + 1 :=
    ⟨_, (Nat.succ_pred_eq_of_pos (by have := length_lt_of_mem well mem; omega)).symm⟩
  unfold tree
  rw [remaining, nested]
  congr 1
  refine List.map_congr_left fun child memChild => ?_
  obtain ⟨-, isChildOf⟩ := List.mem_filter.mp (List.mem_mergeSort.mp memChild)
  rw [length_of_isChild isChildOf]
  congr 1
  omega

/-- When an entry is popped, all its children have been, and it holds its whole tree. -/
theorem node_complete {before popped : List Call} {call : Call}
    (split : before ++ call :: popped = sorted calls) :
    { node calls popped call with traceAddress := none } = tree calls call := by
  have mem : call ∈ calls := (sorted_perm calls).subset (split ▸ by simp)
  rw [tree_eq well mem, node, filter_popped_eq_children well split]

/-- Pushing a popped entry into its parent pops it from every call of the working list. -/
theorem pushToParent_node {before popped : List Call} {call : Call}
    (split : before ++ call :: popped = sorted calls) (nonroot : call.traceAddress ≠ []) :
    pushToParent (before.map (node calls popped)) (node calls popped call) =
      before.map (node calls (call :: popped)) := by
  have distinct : (before.map Call.traceAddress).Nodup := by
    have sortedDistinct := nodup_sorted well
    rw [← split, List.map_append] at sortedDistinct
    exact (List.nodup_append.mp sortedDistinct).1
  have atMostOne : ((before.map (node calls popped)).filter
      fun current => addressOf current == call.traceAddress.dropLast).length ≤ 1 :=
    filter_key_length_le (by simpa [List.map_map, Function.comp_def] using distinct) _
  unfold pushToParent
  rw [modifyFirst_eq_map _ (by simpa using atMostOne), List.map_map]
  refine List.map_congr_left fun other _ => ?_
  have parent : isChild other.traceAddress call =
      (other.traceAddress == call.traceAddress.dropLast) := by
    simp [isChild, nonroot, eq_comm]
  simp only [Function.comp_apply, addressOf_node, node_cons, parent, node_complete well split]
  rfl

/-- The loop pops the sorted entries from the end until the root is left alone, holding its
whole tree but for its address. -/
theorem popAndPush_nodes {root : Call} (rootAddress : root.traceAddress = []) (rest : List Call) :
    ∀ popped : List Call, root :: rest ++ popped = sorted calls →
      popAndPush ((root :: rest).map (node calls popped)) = some [node calls (rest ++ popped) root] := by
  induction rest using List.reverseRecOn with
  | nil =>
    intro popped _
    rw [popAndPush]
    simp
  | append_singleton rest last ih =>
    intro popped split
    have split' : (root :: rest) ++ last :: popped = sorted calls := by simpa using split
    have nonroot : last.traceAddress ≠ [] := by
      intro empty
      have distinct := nodup_sorted well
      rw [← split'] at distinct
      simp [rootAddress, empty] at distinct
    have working : (root :: (rest ++ [last])).map (node calls popped) =
        (root :: rest).map (node calls popped) ++ [node calls popped last] := by simp
    rw [popAndPush, dif_pos (by simp)]
    simp only [working, List.getLast_append_singleton, List.dropLast_concat, addressOf_node,
      nonroot, if_false, pushToParent_node well split' nonroot]
    rw [ih (last :: popped) (by simpa using split')]
    simp

/-- The sort puts the root first: no address is shorter than the empty one. -/
theorem sorted_eq_cons : ∃ root rest, sorted calls = root :: rest ∧ root.traceAddress = [] := by
  obtain ⟨root, mem, rootAddress⟩ := well.root
  cases order : sorted calls with
  | nil => simp [← (sorted_perm calls).mem_iff, order] at mem
  | cons first rest =>
    refine ⟨first, rest, rfl, ?_⟩
    have sortedMem : root ∈ first :: rest := order ▸ (sorted_perm calls).mem_iff.mpr mem
    rcases List.mem_cons.mp sortedMem with rfl | later
    · exact rootAddress
    · have kept := pairwise_sorted calls
      rw [order, List.pairwise_cons] at kept
      have shorter := (before_of_sorted (kept.1 root later)).1
      rw [rootAddress, List.length_nil, Nat.le_zero, List.length_eq_zero_iff] at shorter
      exact shorter

/-- The tree of a map is the tree of its root. -/
theorem callTree_eq {root : Call} (mem : root ∈ calls) (rootAddress : root.traceAddress = []) :
    callTree calls = some (tree calls root) := by
  cases found : calls.find? fun call => call.traceAddress.isEmpty with
  | none =>
    rw [List.find?_eq_none] at found
    exact absurd (by simp [rootAddress]) (found root mem)
  | some first =>
    have firstAddress : first.traceAddress = [] := by
      simpa using List.find?_some found
    have same := eq_of_traceAddress well (List.mem_of_find?_eq_some found) mem
      (firstAddress.trans rootAddress.symm)
    rw [callTree, found, Option.map_some, same, tree, rootAddress, List.length_nil,
      Nat.sub_zero]

/-- The traces of a well-addressed map are its tree. -/
theorem formatEntry_eq {entry : OrdMap Nat Call} (entries : entry.toList.map Prod.snd = calls) :
    formatEntry entry = some (callTree calls).toList := by
  obtain ⟨root, rest, order, rootAddress⟩ := sorted_eq_cons well
  have mem : root ∈ calls := (sorted_perm calls).subset (by simp [order])
  have converted : (entry.toList.map fun binding => callTracerCall binding.2) =
      calls.map callTracerCall := by
    rw [← entries, List.map_map]
    rfl
  have start : (sorted calls).map callTracerCall = (root :: rest).map (node calls []) := by
    rw [order]
    rfl
  have run : popAndPush (sortBy compare (calls.map callTracerCall)) =
      some [node calls rest root] := by
    rw [sortBy_callTracerCall, start]
    simpa using popAndPush_nodes well rootAddress rest [] (by simp [order])
  have short : (calls.map callTracerCall).length ≤ 1 →
      calls.map callTracerCall = [node calls rest root] := by
    intro atMostOne
    have single : calls.length = 1 := by
      have := List.length_pos_of_mem mem
      simp only [List.length_map] at *
      omega
    obtain ⟨only, rfl⟩ := List.length_eq_one_iff.mp single
    obtain rfl : only = root := (List.mem_singleton.mp mem).symm
    have alone : sorted [only] = [only] := sortBy_singleton _ _
    rw [order, List.cons.injEq] at alone
    rw [alone.2]
    rfl
  have complete : { node calls rest root with traceAddress := none } = tree calls root :=
    node_complete well (by rw [List.nil_append, order])
  unfold formatEntry
  simp only [converted]
  split
  · rw [run]
    simp [complete, callTree_eq well mem rootAddress]
  · rw [short (by omega)]
    simp [complete, callTree_eq well mem rootAddress]

end WellAddressed

/-! ## The formatter -/

/-- Formatting maps that each give their traces gives the traces of each, in order. -/
theorem mapM_formatEntry {entries : List (OrdMap Nat Call)}
    {traces : OrdMap Nat Call → List CallTracerCall}
    (each : ∀ entry ∈ entries, formatEntry entry = some (traces entry)) :
    entries.mapM formatEntry = some (entries.map traces) := by
  induction entries with
  | nil => rfl
  | cons entry entries ih =>
    rw [List.mapM_cons, each entry List.mem_cons_self,
      ih fun other mem => each other (List.mem_cons_of_mem _ mem)]
    rfl

/-- The trees of the non-empty maps are the trees of all maps: an empty map has none. -/
theorem filterMap_callTree_nonempty (entries : List (OrdMap Nat Call)) :
    ((entries.filter fun entry => !entry.isEmpty).map
        fun entry => (callTree (entry.toList.map Prod.snd)).toList).flatten =
      entries.filterMap fun entry => callTree (entry.toList.map Prod.snd) := by
  rw [← List.flatMap_def, ← List.filterMap_eq_flatMap_toList, List.filterMap_filter]
  refine List.filterMap_congr fun entry _ => ?_
  cases empty : entry.isEmpty
  · rfl
  · have none : entry.toList = [] := List.isEmpty_iff.mp empty
    simp [none, callTree]

/-- For every listener whose non-empty maps are well addressed, the callTracer formatter
returns, in order, the call tree of every non-empty map, and nothing when there is none. -/
theorem callTracer_format_nested (l : CallList.Listener)
    (wellAddressed : ∀ entry ∈ l.entries, entry.toList ≠ [] →
      WellAddressed (entry.toList.map Prod.snd)) :
    format l = some (expectedTraces l) := by
  have each : ∀ entry ∈ l.entries.filter (fun entry => !entry.isEmpty),
      formatEntry entry = some (callTree (entry.toList.map Prod.snd)).toList := by
    intro entry mem
    obtain ⟨mem, nonempty⟩ := List.mem_filter.mp mem
    have nonempty : entry.toList ≠ [] := by
      simpa [OrdMap.isEmpty, List.isEmpty_iff] using nonempty
    exact formatEntry_eq (wellAddressed entry mem nonempty) rfl
  simp only [format, mapM_formatEntry each, Option.bind_eq_bind, Option.bind_some,
    filterMap_callTree_nonempty, expectedTraces]

/-- A map of a call and the one call it made. -/
def pairMap : OrdMap Nat Call :=
  ⟨[(0, { «from» := 1, traceAddress := [], subtraces := 1, value := 0, gas := 100, gasUsed := 10,
          inner := .call .call 2 [] (.output []) }),
    (1, { «from» := 2, traceAddress := [0], subtraces := 0, value := 0, gas := 50, gasUsed := 5,
          inner := .call .staticCall 3 [] (.output []) })], by decide⟩

theorem callTracer_format_nested_pair :
    let l : CallList.Listener := { CallList.Listener.default with entries := [pairMap] }
    (∀ entry ∈ l.entries, entry.toList ≠ [] → WellAddressed (entry.toList.map Prod.snd)) ∧
      format l = some (expectedTraces l) := by
  intro l
  have well : ∀ entry ∈ l.entries, entry.toList ≠ [] →
      WellAddressed (entry.toList.map Prod.snd) := by
    intro entry mem _
    obtain rfl : entry = pairMap := List.mem_singleton.mp mem
    exact ⟨by decide, ⟨_, List.mem_cons_self, rfl⟩, by decide⟩
  exact ⟨well, callTracer_format_nested l well⟩

end Edgeware.Tracing.CallTracer
