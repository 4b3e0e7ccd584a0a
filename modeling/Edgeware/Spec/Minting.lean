import Mathlib.Algebra.GroupWithZero.Nat
import Edgeware.Pallets.TreasuryReward

/-!
# What the treasury reward pallet mints over a run

What the pallet is for, stated over a whole run of commands: each finalization takes the
interval and the payout that the last root calls before it left in force, as calls of any other
origin change nothing; the treasury gains the payout of every finalization whose block number the
interval divides; and each such finalization with a non-zero payout reports, in order, a
`TreasuryMinting` event with the treasury's balance after it.

The events are stated without recursion on the run: the `j`-th event carries the starting balance
plus the payouts of the first `j + 1` finalizations that mint. The laws at the end split a run in
two, the second part starting from the balance the first leaves; that is how the pallet's run is
compared with this one, one command at a time.
-/

namespace Edgeware.Spec

open Pallets.TreasuryReward

/-- A finalization of a run, with the interval and the payout in force at it. -/
structure Finalization where
  blockNumber : Nat
  interval : Nat
  payout : Nat
  deriving DecidableEq, Repr

namespace Finalization

/-- The interval divides the block number. -/
def due (f : Finalization) : Bool := f.blockNumber % f.interval == 0

/-- The finalization is due and its payout is not zero. -/
def mints (f : Finalization) : Bool := f.due && f.payout != 0

/-- What the finalization adds to the treasury: its payout when it is due. -/
def reward (f : Finalization) : Nat := if f.due then f.payout else 0

/-- A finalization that does not mint adds nothing. -/
theorem reward_eq_zero_of_not_mints {f : Finalization} (idle : f.mints = false) : f.reward = 0 := by
  unfold mints at idle
  unfold reward
  split_ifs with due
  · simpa [due] using idle
  · rfl

/-- A finalization that mints adds its payout. -/
theorem reward_of_mints {f : Finalization} (minting : f.mints = true) : f.reward = f.payout := by
  unfold mints at minting
  simp only [Bool.and_eq_true] at minting
  simp [reward, minting.1]

end Finalization

/-- The finalizations of a run from the settings given, each with the settings that the root
calls before it left in force. -/
def finalizations (interval payout : Nat) : List Command → List Finalization
  | [] => []
  | .finalize blockNumber :: rest =>
    ⟨blockNumber, interval, payout⟩ :: finalizations interval payout rest
  | .setCurrentPayout origin newPayout :: rest =>
    finalizations interval (if origin = .root then newPayout else payout) rest
  | .setMintingInterval origin newInterval :: rest =>
    finalizations (if origin = .root then newInterval else interval) payout rest

/-- The total the treasury gains: the payouts of the due finalizations. -/
def minted (fs : List Finalization) : Nat :=
  ((fs.filter Finalization.due).map Finalization.payout).sum

/-- The events a run records from a treasury balance `balance`: one for each finalization that
mints, in order, each with `balance` plus the payouts minted up to and including it. -/
def mintingEvents (account : AccountId) (balance : Nat) (fs : List Finalization) : List Event :=
  let mints := fs.filter Finalization.mints
  mints.mapIdx fun index f =>
    .treasuryMinting (balance + ((mints.take (index + 1)).map Finalization.payout).sum)
      f.blockNumber account

@[simp]
theorem minted_nil : minted [] = 0 := rfl

/-- A run's total is what its first finalization adds, then the total of the rest. -/
theorem minted_cons (f : Finalization) (fs : List Finalization) :
    minted (f :: fs) = f.reward + minted fs := by
  unfold minted Finalization.reward
  by_cases due : f.due = true
  · rw [List.filter_cons_of_pos due, List.map_cons, List.sum_cons, if_pos due]
  · rw [List.filter_cons_of_neg due, if_neg due, Nat.zero_add]

@[simp]
theorem mintingEvents_nil (account : AccountId) (balance : Nat) :
    mintingEvents account balance [] = [] := rfl

/-- A finalization that mints reports the balance after its payout, and the events of the rest
start from there. -/
theorem mintingEvents_cons_of_mints (account : AccountId) (balance : Nat) {f : Finalization}
    (minting : f.mints = true) (fs : List Finalization) :
    mintingEvents account balance (f :: fs) =
      .treasuryMinting (balance + f.payout) f.blockNumber account ::
        mintingEvents account (balance + f.payout) fs := by
  unfold mintingEvents
  rw [List.filter_cons_of_pos minting, List.mapIdx_cons]
  simp only [List.take_succ_cons, List.take_zero, List.map_cons, List.map_nil, List.sum_cons,
    List.sum_nil, Nat.add_zero, Nat.add_assoc]

/-- A finalization that does not mint records nothing. -/
theorem mintingEvents_cons_of_not_mints (account : AccountId) (balance : Nat) {f : Finalization}
    (idle : f.mints = false) (fs : List Finalization) :
    mintingEvents account balance (f :: fs) = mintingEvents account balance fs := by
  unfold mintingEvents
  rw [List.filter_cons_of_neg (by simp [idle])]

/-- The events of a run are those of its first finalization, then those of the rest from the
balance after it. -/
theorem mintingEvents_cons (account : AccountId) (balance : Nat) (f : Finalization)
    (fs : List Finalization) :
    mintingEvents account balance (f :: fs) =
      mintingEvents account balance [f] ++ mintingEvents account (balance + f.reward) fs := by
  cases minting : f.mints with
  | true =>
    rw [mintingEvents_cons_of_mints account balance minting, mintingEvents_cons_of_mints account
      balance minting, Finalization.reward_of_mints minting, mintingEvents_nil, List.singleton_append]
  | false =>
    rw [mintingEvents_cons_of_not_mints account balance minting,
      mintingEvents_cons_of_not_mints account balance minting, mintingEvents_nil,
      Finalization.reward_eq_zero_of_not_mints minting, Nat.add_zero, List.nil_append]

/-- The total of two runs is the sum of their totals. -/
theorem minted_append (fs gs : List Finalization) : minted (fs ++ gs) = minted fs + minted gs := by
  simp only [minted, List.filter_append, List.map_append, List.sum_append]

/-- The events of two runs are those of the first, then those of the second from the balance the
first leaves. -/
theorem mintingEvents_append (account : AccountId) (balance : Nat) (fs gs : List Finalization) :
    mintingEvents account balance (fs ++ gs) =
      mintingEvents account balance fs ++ mintingEvents account (balance + minted fs) gs := by
  induction fs generalizing balance with
  | nil => simp
  | cons f fs ih =>
    rw [List.cons_append, mintingEvents_cons, ih, mintingEvents_cons account balance f fs,
      minted_cons, List.append_assoc, Nat.add_assoc]

end Edgeware.Spec
