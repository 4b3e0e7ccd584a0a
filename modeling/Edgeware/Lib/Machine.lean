import Mathlib.Logic.Basic

/-!
# Machines with outputs

A deterministic machine reads one input at a time; each input moves it to a new state and
emits a list of outputs. A run over a list of inputs threads the state through and collects
the outputs in order. The law here is the induction rule that reasoning over whole runs needs:
a property every step keeps holds after every run, and so of every state the machine can
reach. A protocol that asks its parties to send an input only in some states restricts the
runs: `Allowed` says that every input of a run is allowed in the state it is read in, and the
same rule holds for the runs it admits, from a property that every allowed step keeps.
-/

namespace Machine

variable {σ ι ω : Type}

/-- The final state and the outputs, in order, of a run over `inputs` from `s`. -/
def run (step : σ → ι → σ × List ω) (s : σ) : List ι → σ × List ω
  | [] => (s, [])
  | input :: rest =>
    let next := step s input
    let later := run step next.1 rest
    (later.1, next.2 ++ later.2)

variable {step : σ → ι → σ × List ω}

/-- The states a machine reaches from `init`. -/
def Reachable (step : σ → ι → σ × List ω) (init s : σ) : Prop :=
  ∃ inputs, (run step init inputs).1 = s

section Invariant

variable (invariant : σ → Prop) (keeps : ∀ s input, invariant s → invariant (step s input).1)
include keeps

/-- A property that every step keeps holds after every run. -/
theorem run_invariant {s : σ} (holds : invariant s) (inputs : List ι) :
    invariant (run step s inputs).1 := by
  induction inputs generalizing s with
  | nil => exact holds
  | cons input rest ih => exact ih (keeps s input holds)

/-- A property that every step keeps holds of every reachable state. -/
theorem reachable_invariant {init s : σ} (initially : invariant init)
    (reachable : Reachable step init s) : invariant s := by
  obtain ⟨inputs, rfl⟩ := reachable
  exact run_invariant invariant keeps initially inputs

end Invariant

/-- Every input of a run is allowed in the state it is read in. -/
def Allowed (step : σ → ι → σ × List ω) (allowed : σ → ι → Prop) : σ → List ι → Prop
  | _, [] => True
  | s, input :: rest => allowed s input ∧ Allowed step allowed (step s input).1 rest

/-- The states a machine reaches from `init` by runs whose every input is allowed. -/
def ReachableBy (step : σ → ι → σ × List ω) (allowed : σ → ι → Prop) (init s : σ) : Prop :=
  ∃ inputs, Allowed step allowed init inputs ∧ (run step init inputs).1 = s

section Guarded

variable (invariant : σ → Prop) (allowed : σ → ι → Prop)
  (keeps : ∀ s input, invariant s → allowed s input → invariant (step s input).1)
include keeps

/-- A property that every allowed step keeps holds after every allowed run. -/
theorem run_invariant_of_allowed {s : σ} (holds : invariant s) {inputs : List ι}
    (obeys : Allowed step allowed s inputs) : invariant (run step s inputs).1 := by
  induction inputs generalizing s with
  | nil => exact holds
  | cons input rest ih => exact ih (keeps s input holds obeys.1) obeys.2

/-- A property that every allowed step keeps holds of every state allowed runs reach. -/
theorem reachableBy_invariant {init s : σ} (initially : invariant init)
    (reachable : ReachableBy step allowed init s) : invariant s := by
  obtain ⟨inputs, obeys, rfl⟩ := reachable
  exact run_invariant_of_allowed invariant allowed keeps initially obeys

end Guarded

end Machine
