import Mathlib.Data.List.Basic

/-!
# The treasury reward pallet

`edge-treasury-reward`: at the end of every block whose number the minting interval divides, the
pallet mints the current payout into the treasury account and records a `TreasuryMinting`
event; the root origin may set the payout and the interval. Block numbers are `u32` and
balances `u128` in the runtime; the pallet does no arithmetic on them that could overflow, and
they are natural numbers here. The balances pallet, which credits the treasury, is not part of
this repository: `depositCreating` stands for it, the free balance of the treasury after
`deposit_creating` credits an amount to a free balance.

A panic of the source is `none`.
-/

namespace Edgeware.Pallets.TreasuryReward

/-- An account, by its numeric value. -/
abbrev AccountId := Nat

/-- The origin of a call. -/
inductive Origin where
  | root
  | signed (account : AccountId)
  | none
  deriving DecidableEq, Repr

/-- `DispatchError::BadOrigin`, the only way a call of the pallet fails. -/
inductive DispatchError where
  | badOrigin
  deriving DecidableEq, Repr

/-- `Event::TreasuryMinting`: the treasury's free balance after a minting, the block number and
the treasury account. -/
inductive Event where
  | treasuryMinting (balance : Nat) (blockNumber : Nat) (account : AccountId)
  deriving DecidableEq, Repr

/-- The storage of the pallet, with the treasury's free balance and the events of the run. -/
structure State where
  mintingInterval : Nat
  currentPayout : Nat
  treasuryBalance : Nat
  events : List Event
  deriving DecidableEq, Repr

/-- `GenesisConfig`. -/
structure GenesisConfig where
  mintingInterval : Nat
  currentPayout : Nat
  deriving DecidableEq, Repr

/-- `GenesisConfig::default`: a zero interval and a zero payout. -/
def GenesisConfig.default : GenesisConfig := ⟨0, 0⟩

/-- `GenesisBuild::build`, with the treasury holding `treasuryBalance`. -/
def GenesisConfig.build (config : GenesisConfig) (treasuryBalance : Nat) : State :=
  ⟨config.mintingInterval, config.currentPayout, treasuryBalance, []⟩

section Hooks

variable (depositCreating : Nat → Nat → Nat) (treasuryAccount : AccountId)

/-- `on_finalize`: when the interval divides the block number, mint a non-zero payout into the
treasury and record it. The remainder by a zero interval panics. -/
def onFinalize (blockNumber : Nat) (s : State) : Option State :=
  if s.mintingInterval = 0 then none
  else if blockNumber % s.mintingInterval = 0 then
    let reward := s.currentPayout
    if reward = 0 then some s
    else
      let balance := depositCreating s.treasuryBalance reward
      some { s with
        treasuryBalance := balance
        events := s.events ++ [.treasuryMinting balance blockNumber treasuryAccount] }
  else some s

end Hooks

/-- `set_current_payout`. -/
def setCurrentPayout (origin : Origin) (payout : Nat) (s : State) : Except DispatchError State :=
  match origin with
  | .root => .ok { s with currentPayout := payout }
  | _ => .error .badOrigin

/-- `set_minting_interval`. -/
def setMintingInterval (origin : Origin) (interval : Nat) (s : State) :
    Except DispatchError State :=
  match origin with
  | .root => .ok { s with mintingInterval := interval }
  | _ => .error .badOrigin

/-- What the chain does to the pallet: finalize a block, or dispatch one of its calls. -/
inductive Command where
  | finalize (blockNumber : Nat)
  | setCurrentPayout (origin : Origin) (payout : Nat)
  | setMintingInterval (origin : Origin) (interval : Nat)
  deriving DecidableEq, Repr

section Run

variable (depositCreating : Nat → Nat → Nat) (treasuryAccount : AccountId)

/-- One command. A call that fails leaves the storage as it was. -/
def step (s : State) : Command → Option State
  | .finalize blockNumber => onFinalize depositCreating treasuryAccount blockNumber s
  | .setCurrentPayout origin payout =>
    match setCurrentPayout origin payout s with
    | .ok s' => some s'
    | .error _ => some s
  | .setMintingInterval origin interval =>
    match setMintingInterval origin interval s with
    | .ok s' => some s'
    | .error _ => some s

/-- A run of commands, `none` when one of them panics. -/
def run (s : State) : List Command → Option State
  | [] => some s
  | command :: rest => (step depositCreating treasuryAccount s command).bind fun s' =>
    run s' rest

/-- From the default genesis, finalizing the first block panics; from a genesis with a
non-zero interval, so does finalizing a block after root has set the interval to zero. -/
theorem run_panics_at_zero_interval :
    run (· + ·) 7 (GenesisConfig.default.build 0) [.finalize 1] = none ∧
      run (· + ·) 7 (GenesisConfig.build ⟨1, 95⟩ 0)
        [.finalize 1, .setMintingInterval .root 0, .finalize 2] = none := by
  decide

/-- A command that cannot make the interval zero: any but a root call setting it to zero. -/
def Command.keepsInterval : Command → Bool
  | .setMintingInterval .root interval => interval != 0
  | _ => true

/-- A step from a non-zero interval does not panic, and a command that keeps the interval
leaves it non-zero. -/
theorem step_keeps_interval {s : State} (positive : 0 < s.mintingInterval) {command : Command}
    (keeps : command.keepsInterval) :
    ∃ s', step depositCreating treasuryAccount s command = some s' ∧ 0 < s'.mintingInterval := by
  cases command with
  | finalize blockNumber =>
    show ∃ s', onFinalize depositCreating treasuryAccount blockNumber s = some s' ∧ _
    unfold onFinalize
    rw [if_neg (Nat.pos_iff_ne_zero.mp positive)]
    by_cases divides : blockNumber % s.mintingInterval = 0
    · by_cases unpaid : s.currentPayout = 0
      · exact ⟨s, by simp [divides, unpaid], positive⟩
      · let balance := depositCreating s.treasuryBalance s.currentPayout
        refine ⟨{ s with
          treasuryBalance := balance
          events := s.events ++ [.treasuryMinting balance blockNumber treasuryAccount] },
          by simp [divides, unpaid, balance], positive⟩
    · exact ⟨s, by simp [divides], positive⟩
  | setCurrentPayout origin payout =>
    cases origin <;> exact ⟨_, rfl, positive⟩
  | setMintingInterval origin interval =>
    cases origin with
    | root =>
      simp only [Command.keepsInterval, bne_iff_ne, ne_eq] at keeps
      exact ⟨_, rfl, Nat.pos_of_ne_zero keeps⟩
    | signed account => exact ⟨s, rfl, positive⟩
    | none => exact ⟨s, rfl, positive⟩

/-- A run from a non-zero interval in which no root call sets the interval to zero never
panics. -/
theorem run_isSome_of_keepsInterval {s : State} (positive : 0 < s.mintingInterval)
    {commands : List Command} (keeps : ∀ command ∈ commands, command.keepsInterval) :
    (run depositCreating treasuryAccount s commands).isSome := by
  induction commands generalizing s with
  | nil => rfl
  | cons command rest ih =>
    obtain ⟨s', stepped, positive'⟩ :=
      step_keeps_interval depositCreating treasuryAccount positive (keeps command (by simp))
    rw [run, stepped, Option.bind_some]
    exact ih positive' fun other mem => keeps other (List.mem_cons_of_mem _ mem)

/-- From a genesis minting every second block, a run that sets the interval to three by root
between finalizations does not panic. -/
theorem run_isSome_from_interval_two :
    (run (· + ·) 7 (GenesisConfig.build ⟨2, 95⟩ 0)
      [.finalize 1, .finalize 2, .setMintingInterval .root 3, .finalize 3]).isSome :=
  run_isSome_of_keepsInterval (· + ·) 7 (by decide) (by decide)

end Run

end Edgeware.Pallets.TreasuryReward
