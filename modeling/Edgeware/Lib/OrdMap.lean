import Mathlib.Data.List.Sort
import Mathlib.Order.Basic

/-!
# Finite maps in key order

An ordered map is a list of bindings whose keys increase strictly along the list, the
representation an ordered search tree has when read in order. Insertion replaces the value
of a key already bound and otherwise places the binding at its position; iteration is the
list itself. The laws here are the ones a program over such a map needs: what a lookup
returns after an insertion, that inserting a fresh key permutes a binding into the list,
and that a map is determined by its bindings up to order, which turns any order of
insertions into one statement about the bindings.
-/

/-- Bindings in strictly increasing key order. -/
structure OrdMap (κ : Type) [LinearOrder κ] (α : Type) where
  /-- The bindings, in increasing key order. -/
  toList : List (κ × α)
  /-- Keys increase strictly along the list. -/
  sorted : toList.Pairwise (fun a b => a.1 < b.1)

namespace OrdMap

variable {κ α β : Type} [LinearOrder κ]

/-- Two maps with the same bindings are equal. -/
@[ext]
theorem ext {m n : OrdMap κ α} (h : m.toList = n.toList) : m = n := by
  cases m
  cases n
  cases h
  rfl

instance [DecidableEq α] : DecidableEq (OrdMap κ α) := fun m n =>
  decidable_of_iff (m.toList = n.toList) ⟨ext, congrArg toList⟩

/-- The map without bindings. -/
def empty : OrdMap κ α := ⟨[], List.Pairwise.nil⟩

instance : EmptyCollection (OrdMap κ α) := ⟨empty⟩

@[simp]
theorem toList_empty : (∅ : OrdMap κ α).toList = [] := rfl

/-- The keys of the map, in increasing order. -/
def keys (m : OrdMap κ α) : List κ := m.toList.map Prod.fst

/-- Whether the map has no binding. -/
def isEmpty (m : OrdMap κ α) : Bool := m.toList.isEmpty

@[simp]
theorem isEmpty_empty : (∅ : OrdMap κ α).isEmpty = true := rfl

/-- The value bound to a key. -/
def get? (m : OrdMap κ α) (k : κ) : Option α := m.toList.lookup k

/-- The map binding each key to the image of its value. -/
def map (f : α → β) (m : OrdMap κ α) : OrdMap κ β :=
  ⟨m.toList.map fun binding => (binding.1, f binding.2),
    List.pairwise_map.mpr (m.sorted.imp id)⟩

@[simp]
theorem toList_map (f : α → β) (m : OrdMap κ α) :
    (m.map f).toList = m.toList.map fun binding => (binding.1, f binding.2) := rfl

@[simp]
theorem keys_map (f : α → β) (m : OrdMap κ α) : (m.map f).keys = m.keys := by
  simp [keys, Function.comp_def]

/-- The map binding each key to the image of the key and its value. -/
def mapWithKey (f : κ → α → β) (m : OrdMap κ α) : OrdMap κ β :=
  ⟨m.toList.map fun binding => (binding.1, f binding.1 binding.2),
    List.pairwise_map.mpr (m.sorted.imp id)⟩

@[simp]
theorem toList_mapWithKey (f : κ → α → β) (m : OrdMap κ α) :
    (m.mapWithKey f).toList = m.toList.map fun binding => (binding.1, f binding.1 binding.2) :=
  rfl

/-- Insertion into a sorted list of bindings, replacing an equal key. -/
def insertList (k : κ) (v : α) : List (κ × α) → List (κ × α)
  | [] => [(k, v)]
  | (k', v') :: rest =>
    if k < k' then (k, v) :: (k', v') :: rest
    else if k = k' then (k, v) :: rest
    else (k', v') :: insertList k v rest

theorem mem_insertList {k : κ} {v : α} {l : List (κ × α)} {b : κ × α}
    (h : b ∈ insertList k v l) : b = (k, v) ∨ b ∈ l := by
  induction l with
  | nil => simpa [insertList] using h
  | cons head rest ih =>
    obtain ⟨k', v'⟩ := head
    simp only [insertList] at h
    split_ifs at h with hlt heq
    · simpa using h
    · simp only [List.mem_cons] at h
      rcases h with h | h
      · exact .inl h
      · exact .inr (List.mem_cons_of_mem _ h)
    · simp only [List.mem_cons] at h
      rcases h with h | h
      · exact .inr (h ▸ List.mem_cons_self)
      · rcases ih h with h | h
        · exact .inl h
        · exact .inr (List.mem_cons_of_mem _ h)

theorem pairwise_insertList (k : κ) (v : α) {l : List (κ × α)}
    (sorted : l.Pairwise (fun a b => a.1 < b.1)) :
    (insertList k v l).Pairwise (fun a b => a.1 < b.1) := by
  induction l with
  | nil => simp [insertList]
  | cons head rest ih =>
    obtain ⟨k', v'⟩ := head
    obtain ⟨above, restSorted⟩ := List.pairwise_cons.mp sorted
    simp only [insertList]
    split_ifs with hlt heq
    · refine List.Pairwise.cons (fun b hb => ?_) sorted
      rcases List.mem_cons.mp hb with rfl | hb
      · exact hlt
      · exact lt_trans hlt (above b hb)
    · subst heq
      exact List.Pairwise.cons above restSorted
    · refine List.Pairwise.cons (fun b hb => ?_) (ih restSorted)
      rcases mem_insertList hb with rfl | hb
      · exact lt_of_le_of_ne (not_lt.mp hlt) (Ne.symm heq)
      · exact above b hb

/-- Bind a key, replacing its previous value. -/
def insert (m : OrdMap κ α) (k : κ) (v : α) : OrdMap κ α :=
  ⟨insertList k v m.toList, pairwise_insertList k v m.sorted⟩

/-- Insert every binding of `other`, its value replacing the one of `m` at a shared key. -/
def append (m other : OrdMap κ α) : OrdMap κ α :=
  other.toList.foldl (fun m binding => m.insert binding.1 binding.2) m

/-- A lookup in a list of bindings reads its head first. -/
theorem lookup_cons (k' : κ) (v' : α) (rest : List (κ × α)) (key : κ) :
    ((k', v') :: rest).lookup key = if key = k' then some v' else rest.lookup key := by
  change (match key == k' with | true => some v' | false => rest.lookup key) = _
  by_cases same : key = k'
  · simp [same]
  · simp [same, beq_eq_false_iff_ne.mpr same]

/-- A lookup in no bindings finds nothing. -/
theorem lookup_nil (key : κ) : ([] : List (κ × α)).lookup key = none := rfl

/-- A lookup after an insertion finds the inserted value at its key and the old one elsewhere. -/
theorem lookup_insertList (k : κ) (v : α) (l : List (κ × α)) (key : κ) :
    (insertList k v l).lookup key = if key = k then some v else l.lookup key := by
  induction l with
  | nil => simp only [insertList, lookup_cons, lookup_nil]
  | cons head rest ih =>
    obtain ⟨k', v'⟩ := head
    simp only [insertList]
    split_ifs with below equal <;> simp only [lookup_cons, ih] <;> grind

@[simp]
theorem get?_insert (m : OrdMap κ α) (k : κ) (v : α) (key : κ) :
    (m.insert k v).get? key = if key = k then some v else m.get? key :=
  lookup_insertList k v m.toList key

@[simp]
theorem get?_empty (key : κ) : (∅ : OrdMap κ α).get? key = none := rfl

/-- A key is bound exactly when a lookup finds a value for it. -/
theorem mem_keys_iff_isSome {m : OrdMap κ α} {key : κ} :
    key ∈ m.keys ↔ (m.get? key).isSome := by
  simp only [keys, get?, List.lookup_isSome_iff, List.mem_map, beq_iff_eq]
  constructor
  · rintro ⟨binding, mem, rfl⟩
    exact ⟨binding, mem, rfl⟩
  · rintro ⟨binding, mem, rfl⟩
    exact ⟨binding, mem, rfl⟩

/-- Mapping the values of the bindings commutes with an insertion. -/
theorem insertList_map (f : α → β) (k : κ) (v : α) (l : List (κ × α)) :
    (insertList k v l).map (fun binding => (binding.1, f binding.2)) =
      insertList k (f v) (l.map fun binding => (binding.1, f binding.2)) := by
  induction l with
  | nil => rfl
  | cons head rest ih =>
    obtain ⟨k', v'⟩ := head
    simp only [insertList, List.map_cons]
    split_ifs <;> simp [ih]

@[simp]
theorem map_insert (f : α → β) (m : OrdMap κ α) (k : κ) (v : α) :
    (m.insert k v).map f = (m.map f).insert k (f v) :=
  ext (insertList_map f k v m.toList)

@[simp]
theorem map_empty (f : α → β) : (∅ : OrdMap κ α).map f = ∅ := rfl

/-- A lookup in mapped bindings finds the image of the value. -/
theorem lookup_map (f : α → β) (l : List (κ × α)) (key : κ) :
    (l.map fun binding => (binding.1, f binding.2)).lookup key = (l.lookup key).map f := by
  induction l with
  | nil => rfl
  | cons head rest ih =>
    obtain ⟨k', v'⟩ := head
    simp only [List.map_cons, lookup_cons, ih]
    split <;> rfl

@[simp]
theorem get?_map (f : α → β) (m : OrdMap κ α) (key : κ) :
    (m.map f).get? key = (m.get? key).map f :=
  lookup_map f m.toList key

/-- The map without the binding of `k`. -/
def erase (m : OrdMap κ α) (k : κ) : OrdMap κ α :=
  ⟨m.toList.filter fun binding => binding.1 ≠ k, m.sorted.filter _⟩

/-- A lookup in the bindings without those of `k` finds nothing at `k` and the old value
elsewhere. -/
theorem lookup_filter_ne (k : κ) (l : List (κ × α)) (key : κ) :
    (l.filter fun binding => binding.1 ≠ k).lookup key = if key = k then none else l.lookup key := by
  induction l with
  | nil => simp only [List.filter_nil, lookup_nil, ite_self]
  | cons head rest ih =>
    obtain ⟨k', v'⟩ := head
    by_cases bound : k' = k
    · simp only [List.filter_cons, bound, ne_eq, not_true_eq_false, decide_false]
      grind [lookup_cons]
    · simp only [List.filter_cons, bound, ne_eq, not_false_eq_true, decide_true, lookup_cons, ih,
        if_true]
      grind

@[simp]
theorem get?_erase (m : OrdMap κ α) (k key : κ) :
    (m.erase k).get? key = if key = k then none else m.get? key :=
  lookup_filter_ne k m.toList key

/-- A key of a map after an insertion is the inserted key or a key from before. -/
theorem mem_keys_insert {m : OrdMap κ α} {k key : κ} {v : α} (h : key ∈ (m.insert k v).keys) :
    key = k ∨ key ∈ m.keys := by
  obtain ⟨binding, mem, rfl⟩ := List.mem_map.mp h
  rcases mem_insertList mem with rfl | mem
  · exact .inl rfl
  · exact .inr (List.mem_map_of_mem mem)

/-- Inserting a key not yet bound adds exactly its binding. -/
theorem insertList_perm_of_not_mem {k : κ} (v : α) {l : List (κ × α)}
    (fresh : k ∉ l.map Prod.fst) : (insertList k v l).Perm ((k, v) :: l) := by
  induction l with
  | nil => simp [insertList]
  | cons head rest ih =>
    obtain ⟨k', v'⟩ := head
    simp only [List.map_cons, List.mem_cons, not_or] at fresh
    simp only [insertList, if_neg fresh.1]
    split_ifs
    · exact List.Perm.refl _
    · exact (List.Perm.cons _ (ih fresh.2)).trans (List.Perm.swap _ _ _)

theorem toList_insert_perm {m : OrdMap κ α} {k : κ} (v : α) (fresh : k ∉ m.keys) :
    (m.insert k v).toList.Perm ((k, v) :: m.toList) :=
  insertList_perm_of_not_mem v fresh

/-- A map is determined by its bindings up to their order. -/
theorem toList_eq_of_perm {m : OrdMap κ α} {l : List (κ × α)} (perm : m.toList.Perm l)
    (sorted : l.Pairwise (fun a b => a.1 < b.1)) : m.toList = l :=
  perm.eq_of_pairwise (fun _ _ _ _ below above => absurd (lt_trans below above) (lt_irrefl _))
    m.sorted sorted

/-! ## Weights -/

/-- The sum of a weight over the values of a list of bindings. -/
def weightList (f : α → Nat) : List (κ × α) → Nat
  | [] => 0
  | binding :: rest => f binding.2 + weightList f rest

/-- The sum of a weight over the values of a map. -/
def weight (f : α → Nat) (m : OrdMap κ α) : Nat := weightList f m.toList

/-- A key below the first of sorted bindings is not bound. -/
theorem lookup_eq_none_of_lt {k k' : κ} {v' : α} {rest : List (κ × α)}
    (sorted : ((k', v') :: rest).Pairwise (fun a b => a.1 < b.1)) (below : k < k') :
    ((k', v') :: rest).lookup k = none := by
  rw [List.lookup_eq_none_iff]
  intro binding mem
  have above : k' ≤ binding.1 := by
    rcases List.mem_cons.mp mem with rfl | later
    · exact le_refl _
    · exact le_of_lt (List.rel_of_pairwise_cons sorted later)
  simpa using ne_of_lt (lt_of_lt_of_le below above)

/-- An insertion adds the weight of its value and takes away that of the value it replaces. -/
theorem weightList_insertList (f : α → Nat) (k : κ) (v : α) {l : List (κ × α)}
    (sorted : l.Pairwise (fun a b => a.1 < b.1)) :
    weightList f (insertList k v l) + ((l.lookup k).map f).getD 0 = weightList f l + f v := by
  induction l with
  | nil => simp [insertList, weightList]
  | cons head rest ih =>
    obtain ⟨k', v'⟩ := head
    simp only [insertList]
    split_ifs with below same
    · rw [lookup_eq_none_of_lt sorted below]
      simp only [weightList, Option.map_none, Option.getD_none]
      omega
    · subst same
      simp only [weightList, lookup_cons, ↓reduceIte, Option.map_some, Option.getD_some]
      omega
    · have later := ih (List.Pairwise.of_cons sorted)
      simp only [weightList, lookup_cons, if_neg same]
      omega

theorem weight_insert (f : α → Nat) (m : OrdMap κ α) (k : κ) (v : α) :
    weight f (m.insert k v) + ((m.get? k).map f).getD 0 = weight f m + f v :=
  weightList_insertList f k v m.sorted

/-! ## Replacing a binding -/

/-- Bindings whose keys are all above `k` have none of `k` to lose. -/
theorem filter_ne_of_lt {k : κ} {l : List (κ × α)} (above : ∀ binding ∈ l, k < binding.1) :
    (l.filter fun binding => binding.1 ≠ k) = l :=
  List.filter_eq_self.mpr fun binding mem => by simpa using (ne_of_lt (above binding mem)).symm

/-- Leaving out the binding of `k` from sorted bindings led by it leaves the rest. -/
theorem filter_ne_cons_self {k : κ} {v : α} {rest : List (κ × α)}
    (above : ∀ binding ∈ rest, k < binding.1) :
    (((k, v) :: rest).filter fun binding => binding.1 ≠ k) = rest := by
  simp only [List.filter_cons, ne_eq, not_true_eq_false, decide_false, Bool.false_eq_true,
    if_false]
  exact filter_ne_of_lt above

/-- Sorted bindings are the binding of a bound key and the bindings of the other keys. -/
theorem perm_filter_of_lookup {k : κ} {v : α} {l : List (κ × α)}
    (sorted : l.Pairwise (fun a b => a.1 < b.1)) (found : l.lookup k = some v) :
    l.Perm ((k, v) :: l.filter fun binding => binding.1 ≠ k) := by
  induction l with
  | nil => cases found
  | cons head rest ih =>
    obtain ⟨k', v'⟩ := head
    obtain ⟨restAbove, restSorted⟩ := List.pairwise_cons.mp sorted
    rw [lookup_cons] at found
    by_cases same : k = k'
    · subst same
      rw [if_pos rfl, Option.some.injEq] at found
      subst found
      rw [filter_ne_cons_self restAbove]
    · rw [if_neg same] at found
      have differ : k' ≠ k := Ne.symm same
      simp only [List.filter_cons, ne_eq, differ, not_false_eq_true, decide_true, if_true]
      exact (List.Perm.cons _ (ih restSorted found)).trans (List.Perm.swap _ _ _)

/-- The bindings of a map: the binding of a bound key and those of the other keys. -/
theorem toList_perm_erase {m : OrdMap κ α} {k : κ} {v : α} (found : m.get? k = some v) :
    m.toList.Perm ((k, v) :: (m.erase k).toList) :=
  perm_filter_of_lookup m.sorted found

/-- An insertion adds one binding at most. -/
theorem length_insertList_le (k : κ) (v : α) (l : List (κ × α)) :
    (insertList k v l).length ≤ l.length + 1 := by
  induction l with
  | nil => simp [insertList]
  | cons head rest ih =>
    simp only [insertList]
    split_ifs <;> simp only [List.length_cons] <;> omega

end OrdMap
