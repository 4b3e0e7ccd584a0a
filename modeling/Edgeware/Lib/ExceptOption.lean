import Mathlib.Logic.Basic

/-!
# Computations that end

A computation of `ExceptT ε Option` panics (`none`), fails with an error, or returns a value.
`Returns x post` says that `x` does not panic and that every value it returns satisfies `post`:
an error is an end as a value is. The rules follow a `do` block from its first bind to its ends:
a value that satisfies the postcondition, a throw, an `Except` lifted into the block, and a bind
whose first part returns only values from which the rest returns. A computation that can return
no value at all satisfies the postcondition `False`: it fails, with an error and without a panic
(`returns_false_iff`). For a plain `Except`, whose blocks cannot panic, the rules are the bind of a
value (`bind_eq_ok`) and a throw that returns nothing (`throw_ne_ok`).
-/

namespace ExceptOption

variable {ε α β : Type}

/-- `x` does not panic, and every value it returns satisfies `post`. -/
def Returns (x : ExceptT ε Option α) (post : α → Prop) : Prop :=
  ∃ result, x.run = some result ∧ ∀ a, result = .ok a → post a

variable {post : α → Prop}

theorem returns_pure {a : α} (holds : post a) : Returns (pure a : ExceptT ε Option α) post :=
  ⟨.ok a, rfl, fun _ returned => by cases returned; exact holds⟩

theorem returns_throw (e : ε) : Returns (throw e : ExceptT ε Option α) post :=
  ⟨.error e, rfl, fun _ returned => nomatch returned⟩

/-- An `Except` lifted into the block ends: with its error, or with its value. -/
theorem returns_ofExcept {x : Except ε α} (holds : ∀ a, x = .ok a → post a) :
    Returns (MonadExcept.ofExcept x : ExceptT ε Option α) post := by
  cases x with
  | error e => exact returns_throw e
  | ok a => exact returns_pure (holds a rfl)

/-- A bind ends when its first part ends and the rest ends from every value the first part
returns. -/
theorem Returns.bind {mid : α → Prop} {post : β → Prop} {x : ExceptT ε Option α}
    {f : α → ExceptT ε Option β} (first : Returns x mid) (rest : ∀ a, mid a → Returns (f a) post) :
    Returns (x >>= f) post := by
  obtain ⟨result, ran, returned⟩ := first
  cases result with
  | error e =>
    refine ⟨.error e, ?_, fun _ failed => nomatch failed⟩
    simp only [ExceptT.run_bind, ran, Option.bind_eq_bind, Option.bind_some]
    rfl
  | ok a =>
    obtain ⟨later, ranLater, returnedLater⟩ := rest a (returned a rfl)
    refine ⟨later, ?_, returnedLater⟩
    simp only [ExceptT.run_bind, ran, Option.bind_eq_bind, Option.bind_some, ranLater]

/-- An `Except` that fails ends the block with its error, whatever follows it. -/
theorem returns_ofExcept_bind_error {x : Except ε α} {e : ε} {f : α → ExceptT ε Option β}
    {post : β → Prop} (failed : x = .error e) : Returns (MonadExcept.ofExcept x >>= f) post := by
  subst failed
  have ends : Returns (throw e : ExceptT ε Option α) fun _ => False := returns_throw e
  exact ends.bind fun _ => False.elim

/-- A computation that returns no value fails. -/
theorem returns_false_iff {x : ExceptT ε Option α} :
    Returns x (fun _ => False) ↔ ∃ e, x.run = some (.error e) := by
  constructor
  · rintro ⟨result, ran, returned⟩
    cases result with
    | error e => exact ⟨e, ran⟩
    | ok a => exact (returned a rfl).elim
  · rintro ⟨e, ran⟩
    exact ⟨.error e, ran, fun _ failed => nomatch failed⟩

/-- A bind returns a value exactly when its first part returns one from which the rest does. -/
theorem bind_eq_ok {x : Except ε α} {f : α → Except ε β} {b : β} :
    x >>= f = .ok b ↔ ∃ a, x = .ok a ∧ f a = .ok b := by
  cases x with
  | error e => exact ⟨nofun, fun ⟨_, failed, _⟩ => nomatch failed⟩
  | ok a => exact ⟨fun ran => ⟨a, rfl, ran⟩, fun ⟨_, same, ran⟩ => by cases same; exact ran⟩

theorem throw_ne_ok (e : ε) (a : α) : (throw e : Except ε α) ≠ .ok a := nofun

end ExceptOption
