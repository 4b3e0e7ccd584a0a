import Mathlib.Order.Basic
import Mathlib.Data.List.Sort

/-!
# Stable sorting with a comparator

Rust's `slice::sort_by` is a stable sort driven by a comparator returning an `Ordering`; only
whether the comparator answers `Less` matters to it. It is modelled by the stable merge sort of
the core library, which keeps `a` before `b` unless `b` compares less than `a`. When the strict
order the comparator describes is a strict weak order, asymmetric and with incomparability
transitive, the result is sorted: no element compares less than one before it.
-/

namespace SortBy

variable {α β : Type}

/-- `slice::sort_by`: the stable sort of `values`, `b` placed before `a` only when it compares
less. -/
def sortBy (compare : α → α → Ordering) (values : List α) : List α :=
  values.mergeSort fun a b => compare b a != .lt

/-- A comparator whose `Less` answers form a strict weak order. -/
structure StrictWeak (compare : α → α → Ordering) : Prop where
  /-- No two elements compare less than each other. -/
  asymm : ∀ a b, compare a b = .lt → compare b a ≠ .lt
  /-- An element between two others in the order compares with one of them. -/
  negTrans : ∀ a b c, compare a c = .lt → compare a b = .lt ∨ compare b c = .lt

/-- A strict weak comparator pulled back along a function is strict weak. -/
theorem StrictWeak.comap {compare : β → β → Ordering} (weak : StrictWeak compare) (f : α → β) :
    StrictWeak fun a b => compare (f a) (f b) :=
  ⟨fun a b => weak.asymm (f a) (f b), fun a b c => weak.negTrans (f a) (f b) (f c)⟩

theorem sortBy_perm (compare : α → α → Ordering) (values : List α) :
    (sortBy compare values).Perm values :=
  List.mergeSort_perm _ _

@[simp]
theorem mem_sortBy {compare : α → α → Ordering} {values : List α} {a : α} :
    a ∈ sortBy compare values ↔ a ∈ values :=
  List.mem_mergeSort

@[simp]
theorem length_sortBy (compare : α → α → Ordering) (values : List α) :
    (sortBy compare values).length = values.length :=
  List.length_mergeSort _

/-- Sorting with a strict weak comparator leaves no element less than one before it. -/
theorem pairwise_sortBy {compare : α → α → Ordering} (weak : StrictWeak compare)
    (values : List α) : (sortBy compare values).Pairwise fun a b => compare b a ≠ .lt := by
  have sorted : (values.mergeSort fun a b => compare b a != .lt).Pairwise
      fun a b => compare b a != .lt := List.pairwise_mergeSort
    (fun a b c first second => by
      simp only [bne_iff_ne, ne_eq] at first second ⊢
      intro below
      rcases weak.negTrans c b a below with left | right
      · exact second left
      · exact first right)
    (fun a b => by
      by_cases below : compare b a = .lt
      · simp [weak.asymm b a below]
      · simp [below])
    values
  exact sorted.imp fun kept => by simpa using kept

/-- Sorting the images of values sorts the values by the comparison of their images. -/
theorem sortBy_map (f : α → β) (compare : β → β → Ordering) (values : List α) :
    sortBy compare (values.map f) = (sortBy (fun a b => compare (f a) (f b)) values).map f := by
  unfold sortBy
  exact (List.map_mergeSort (f := f) (s := fun a b => compare b a != .lt)
    fun _ _ _ _ => rfl).symm

@[simp]
theorem sortBy_singleton (compare : α → α → Ordering) (a : α) : sortBy compare [a] = [a] :=
  List.mergeSort_singleton a

@[simp]
theorem sortBy_nil (compare : α → α → Ordering) : sortBy compare ([] : List α) = [] :=
  List.mergeSort_nil

end SortBy
