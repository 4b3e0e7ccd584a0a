import Mathlib.Data.List.Basic

/-!
# Updating the first element a predicate selects

A loop that finds an element by its position (`iter().position`) and then updates it in place
(`get_mut`) updates the first element the predicate selects. When the predicate selects at most
one element, as a search by a key that no two elements share does, this is the same as updating
every selected element, which is how proofs about such loops state it.
-/

namespace ListUpdate

variable {α κ : Type}

/-- Apply `f` to the first element `select` picks; a list with no such element is unchanged. -/
def modifyFirst (select : α → Bool) (f : α → α) (l : List α) : List α :=
  match l.findIdx? select with
  | some index => l.modify index f
  | none => l

@[simp]
theorem modifyFirst_nil (select : α → Bool) (f : α → α) : modifyFirst select f [] = [] := rfl

theorem modifyFirst_cons (select : α → Bool) (f : α → α) (a : α) (l : List α) :
    modifyFirst select f (a :: l) =
      if select a then f a :: l else a :: modifyFirst select f l := by
  unfold modifyFirst
  rw [List.findIdx?_cons]
  by_cases picked : select a
  · simp [picked]
  · cases l.findIdx? select <;> simp [picked]

@[simp]
theorem length_modifyFirst (select : α → Bool) (f : α → α) (l : List α) :
    (modifyFirst select f l).length = l.length := by
  induction l with
  | nil => rfl
  | cons a l ih =>
    rw [modifyFirst_cons]
    split <;> simp [ih]

/-- When at most one element is selected, updating the first one updates all of them. -/
theorem modifyFirst_eq_map {select : α → Bool} (f : α → α) {l : List α}
    (atMostOne : (l.filter select).length ≤ 1) :
    modifyFirst select f l = l.map fun a => if select a then f a else a := by
  induction l with
  | nil => rfl
  | cons a l ih =>
    rw [modifyFirst_cons, List.map_cons]
    by_cases picked : select a
    · have none : l.filter select = [] := by
        simp only [List.filter_cons, picked, ite_true, List.length_cons] at atMostOne
        exact List.length_eq_zero_iff.mp (by omega)
      have unpicked : ∀ b ∈ l, select b = false := by
        intro b mem
        simpa using List.filter_eq_nil_iff.mp none b mem
      simp only [picked, ite_true, List.cons.injEq, true_and]
      rw [List.map_congr_left (g := id) fun b mem => by simp [unpicked b mem], List.map_id]
    · simp only [List.filter_cons, picked] at atMostOne
      simp [picked, ih atMostOne]

/-- A search by a key that no two elements share selects at most one element. -/
theorem filter_key_length_le {key : α → κ} [BEq κ] [LawfulBEq κ] {l : List α}
    (distinct : (l.map key).Nodup) (k : κ) : (l.filter fun a => key a == k).length ≤ 1 := by
  induction l with
  | nil => simp
  | cons a l ih =>
    simp only [List.map_cons, List.nodup_cons, List.mem_map, not_exists, not_and] at distinct
    by_cases same : key a = k
    · have none : l.filter (fun b => key b == k) = [] := by
        refine List.filter_eq_nil_iff.mpr fun b mem equal => ?_
        exact distinct.1 b mem ((beq_iff_eq.mp equal).trans same.symm)
      simp [same, none]
    · simpa [same] using ih distinct.2

end ListUpdate
