import Edgeware.Spec.Minting

/-!
# The treasury reward pallet mints what its settings say

Over every run in which the interval stays non-zero, and with the balances pallet crediting a
deposit in full, the pallet's run meets `Spec.minted` and `Spec.mintingEvents` over the
finalizations of the run. `step_mints` says what one command does, in the terms of the spec for
that command alone; the run theorem is an induction on the commands that cites it and the append
laws of the spec.
-/

namespace Edgeware.Pallets.TreasuryReward

open Spec

/-- The finalization of `blockNumber` under the settings of `s`. -/
def State.finalization (s : State) (blockNumber : Nat) : Finalization :=
  ⟨blockNumber, s.mintingInterval, s.currentPayout⟩

section Calls

variable (depositCreating : Nat → Nat → Nat) (treasuryAccount : AccountId)

/-- `set_current_payout` takes effect for the root origin and leaves the storage as it was for
any other. -/
theorem step_setCurrentPayout (s : State) (origin : Origin) (payout : Nat) :
    step depositCreating treasuryAccount s (.setCurrentPayout origin payout) =
      some { s with currentPayout := if origin = .root then payout else s.currentPayout } := by
  cases origin <;> simp [step, setCurrentPayout]

/-- `set_minting_interval` takes effect for the root origin and leaves the storage as it was for
any other. -/
theorem step_setMintingInterval (s : State) (origin : Origin) (interval : Nat) :
    step depositCreating treasuryAccount s (.setMintingInterval origin interval) =
      some { s with mintingInterval := if origin = .root then interval else s.mintingInterval } := by
  cases origin <;> simp [step, setMintingInterval]

end Calls

section Minting

variable {depositCreating : Nat → Nat → Nat} (treasuryAccount : AccountId)

/-- With the deposit crediting in full, finalizing a block from a non-zero interval adds what
the finalization mints and records its events. -/
theorem step_finalize (credits : ∀ balance reward, depositCreating balance reward = balance + reward)
    {s : State} (positive : 0 < s.mintingInterval) (blockNumber : Nat) :
    step depositCreating treasuryAccount s (.finalize blockNumber) =
      some { s with
        treasuryBalance := s.treasuryBalance + (s.finalization blockNumber).reward
        events := s.events ++
          mintingEvents treasuryAccount s.treasuryBalance [s.finalization blockNumber] } := by
  change onFinalize depositCreating treasuryAccount blockNumber s = _
  unfold onFinalize
  rw [if_neg (Nat.pos_iff_ne_zero.mp positive)]
  by_cases due : blockNumber % s.mintingInterval = 0
  · by_cases unpaid : s.currentPayout = 0
    · have idle : (s.finalization blockNumber).mints = false := by
        simp [Finalization.mints, State.finalization, unpaid]
      rw [if_pos due, if_pos unpaid, mintingEvents_cons_of_not_mints _ _ idle,
        Finalization.reward_eq_zero_of_not_mints idle]
      simp
    · have minting : (s.finalization blockNumber).mints = true := by
        simp [Finalization.mints, Finalization.due, State.finalization, due, unpaid]
      rw [if_pos due, if_neg unpaid, mintingEvents_cons_of_mints _ _ minting,
        Finalization.reward_of_mints minting, credits]
      rfl
  · have idle : (s.finalization blockNumber).mints = false := by
      simp [Finalization.mints, Finalization.due, State.finalization, due]
    rw [if_neg due, mintingEvents_cons_of_not_mints _ _ idle,
      Finalization.reward_eq_zero_of_not_mints idle]
    simp

/-- What one command does, in the terms of the spec: from a non-zero interval, and when the
command keeps the interval, it does not panic and leaves a non-zero interval; the finalizations of
a run starting with it are its own, then those of the rest under the settings it leaves; and the
treasury gains what its finalizations mint and records their events. -/
theorem step_mints (credits : ∀ balance reward, depositCreating balance reward = balance + reward)
    {s : State} (positive : 0 < s.mintingInterval) {command : Command}
    (keeps : command.keepsInterval) (rest : List Command) :
    ∃ s', step depositCreating treasuryAccount s command = some s' ∧ 0 < s'.mintingInterval ∧
      finalizations s.mintingInterval s.currentPayout (command :: rest) =
        finalizations s.mintingInterval s.currentPayout [command] ++
          finalizations s'.mintingInterval s'.currentPayout rest ∧
      s'.treasuryBalance =
        s.treasuryBalance + minted (finalizations s.mintingInterval s.currentPayout [command]) ∧
      s'.events = s.events ++ mintingEvents treasuryAccount s.treasuryBalance
        (finalizations s.mintingInterval s.currentPayout [command]) := by
  cases command with
  | finalize blockNumber =>
    refine ⟨_, step_finalize treasuryAccount credits positive blockNumber, positive, rfl, ?_, rfl⟩
    show _ = s.treasuryBalance + minted [s.finalization blockNumber]
    rw [minted_cons, minted_nil, Nat.add_zero]
  | setCurrentPayout origin payout =>
    exact ⟨_, step_setCurrentPayout depositCreating treasuryAccount s origin payout, positive, rfl,
      rfl, by simp [finalizations]⟩
  | setMintingInterval origin interval =>
    have positive' : 0 < if origin = .root then interval else s.mintingInterval := by
      cases origin with
      | root =>
        simp only [Command.keepsInterval, bne_iff_ne, ne_eq] at keeps
        simpa using Nat.pos_of_ne_zero keeps
      | signed account => simpa using positive
      | none => simpa using positive
    exact ⟨_, step_setMintingInterval depositCreating treasuryAccount s origin interval, positive',
      rfl, rfl, by simp [finalizations]⟩

/-- Treasury minting over any run: from a non-zero interval, over every run in which no root
call sets the interval to zero, and with the deposit crediting in full, the run does not panic;
the treasury ends with its balance plus the payouts of the due finalizations, each with the
settings in force at it; and the run records exactly the `TreasuryMinting` events of the
finalizations with a non-zero payout, in order, each with the balance after it. -/
theorem run_mints_due_payouts
    (credits : ∀ balance reward, depositCreating balance reward = balance + reward)
    {s : State} (positive : 0 < s.mintingInterval) {commands : List Command}
    (keeps : ∀ command ∈ commands, command.keepsInterval) :
    ∃ s', run depositCreating treasuryAccount s commands = some s' ∧
      s'.treasuryBalance =
        s.treasuryBalance + minted (finalizations s.mintingInterval s.currentPayout commands) ∧
      s'.events = s.events ++ mintingEvents treasuryAccount s.treasuryBalance
        (finalizations s.mintingInterval s.currentPayout commands) := by
  induction commands generalizing s with
  | nil => exact ⟨s, rfl, rfl, by simp [finalizations]⟩
  | cons command rest ih =>
    obtain ⟨s₁, stepped, positive₁, split, balance₁, events₁⟩ :=
      step_mints treasuryAccount credits positive (keeps command List.mem_cons_self) rest
    obtain ⟨s', ran, balance, events⟩ :=
      ih positive₁ fun other mem => keeps other (List.mem_cons_of_mem _ mem)
    refine ⟨s', ?_, ?_, ?_⟩
    · rw [run, stepped, Option.bind_some]
      exact ran
    · rw [balance, balance₁, split, minted_append, Nat.add_assoc]
    · rw [events, events₁, split, mintingEvents_append, balance₁, List.append_assoc]

/-- From a genesis minting every second block, with the payout set to zero and back by root
and the interval moved to three, the run mints the payouts of blocks 2 and 6 and records them. -/
theorem run_mints_from_interval_two :
    ∃ s', run (· + ·) 7 (GenesisConfig.build ⟨2, 95⟩ 10)
        [.finalize 1, .finalize 2, .setCurrentPayout .root 0, .finalize 4,
          .setMintingInterval .root 3, .setCurrentPayout .root 5, .finalize 5, .finalize 6] =
        some s' ∧
      s'.treasuryBalance = 10 + minted (finalizations 2 95
        [.finalize 1, .finalize 2, .setCurrentPayout .root 0, .finalize 4,
          .setMintingInterval .root 3, .setCurrentPayout .root 5, .finalize 5, .finalize 6]) ∧
      s'.events = [] ++ mintingEvents 7 10 (finalizations 2 95
        [.finalize 1, .finalize 2, .setCurrentPayout .root 0, .finalize 4,
          .setMintingInterval .root 3, .setCurrentPayout .root 5, .finalize 5, .finalize 6]) :=
  run_mints_due_payouts 7 (fun _ _ => rfl) (by decide) (by decide)

end Minting

end Edgeware.Pallets.TreasuryReward
