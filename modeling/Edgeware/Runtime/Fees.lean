import Edgeware.Lib.Saturating
import Edgeware.Runtime.Migrations

/-!
# Transaction fees

`DealWithFees` (`lib.rs`), the runtime's `OnUnbalanced` handler for what a transaction pays: the
fee and then the tip, each a `NegativeImbalance` of the balances pallet, an amount taken off the
payer and not yet put anywhere. Each is rationed 80 to 20; the first parts, merged, go to the
treasury and the second parts to the block author (`Author`, `impls.rs`).

`merge`, `ration` and `ration_merge_into` are those of `frame_support`'s `Imbalance` on the
balances pallet's `NegativeImbalance`, which are not in this repository: they are a parameter
(`Imbalance`), by the amount of an imbalance, and what the handler relies on of them is a
predicate of it (`Imbalance.Lawful`). With lawful operations the handler shares out the fee and
the tip whole (`dealWithFees_conserves`).

The weight an EVM transaction is charged comes from its gas through the runtime's gas and weight
mapping, modelled last.
-/

namespace Edgeware.Runtime.Fees

open Migrations (Balance)

/-- The operations of `Imbalance` that `DealWithFees` uses, by the amounts of the imbalances. -/
structure Imbalance where
  /-- `Imbalance::merge`. -/
  merge : Balance → Balance → Balance
  /-- `Imbalance::ration`: the imbalance in two parts, in about the ratio `first` to `second`. -/
  ration : Balance → BitVec 32 → BitVec 32 → Balance × Balance
  /-- `Imbalance::ration_merge_into`: the two parts of the imbalance merged into `others`. -/
  rationMergeInto : Balance → BitVec 32 → BitVec 32 → Balance × Balance → Balance × Balance

/-- What the handler relies on of the operations: a ration with a positive first share keeps the
whole imbalance, a merge that does not overflow adds, and `ration_merge_into` merges the parts
of the ration into the others. -/
structure Imbalance.Lawful (imbalance : Imbalance) : Prop where
  ration_add : ∀ self first second, 0 < first.toNat →
    (imbalance.ration self first second).1.toNat + (imbalance.ration self first second).2.toNat =
      self.toNat
  merge_add : ∀ self other : Balance, self.toNat + other.toNat < 2 ^ 128 →
    (imbalance.merge self other).toNat = self.toNat + other.toNat
  rationMergeInto_eq : ∀ self first second others,
    imbalance.rationMergeInto self first second others =
      (imbalance.merge others.1 (imbalance.ration self first second).1,
        imbalance.merge others.2 (imbalance.ration self first second).2)

/-- `DealWithFees::on_unbalanceds`, as the amounts it hands to `Treasury` and to `Author`, in
that order; `none` when there are no fees and it does nothing. -/
def dealWithFees (imbalance : Imbalance) (feesThenTips : List Balance) :
    Option (Balance × Balance) :=
  match feesThenTips with
  | [] => none
  | fees :: rest =>
    let split := imbalance.ration fees 80 20
    some (match rest with
      | tips :: _ => imbalance.rationMergeInto tips 80 20 split
      | [] => split)

/-- With lawful operations the fee and the tip of a transaction are shared out whole between the
treasury and the block author. The bound holds of every transaction, as the fee and the tip are
withdrawn together from one account. -/
theorem dealWithFees_conserves {imbalance : Imbalance} (lawful : imbalance.Lawful)
    (fees tips : Balance) (fit : fees.toNat + tips.toNat < 2 ^ 128) :
    ∃ treasury author, dealWithFees imbalance [fees, tips] = some (treasury, author) ∧
      treasury.toNat + author.toNat = fees.toNat + tips.toNat := by
  have feesParts := lawful.ration_add fees 80 20 (by decide)
  have tipsParts := lawful.ration_add tips 80 20 (by decide)
  have toTreasury : (imbalance.ration fees 80 20).1.toNat +
      (imbalance.ration tips 80 20).1.toNat < 2 ^ 128 := by
    omega
  have toAuthor : (imbalance.ration fees 80 20).2.toNat +
      (imbalance.ration tips 80 20).2.toNat < 2 ^ 128 := by
    omega
  have handled : dealWithFees imbalance [fees, tips] =
      some (imbalance.merge (imbalance.ration fees 80 20).1 (imbalance.ration tips 80 20).1,
        imbalance.merge (imbalance.ration fees 80 20).2 (imbalance.ration tips 80 20).2) := by
    rw [← lawful.rationMergeInto_eq]
    rfl
  refine ⟨_, _, handled, ?_⟩
  rw [lawful.merge_add _ _ toTreasury, lawful.merge_add _ _ toAuthor]
  omega

/-! ## EVM gas and weight

`EdgewareGasWeightMapping` (`lib.rs`), through which the EVM pallet charges the gas limit of a
transaction as weight and turns the weight left to it into gas. One gas is `WEIGHT_PER_GAS` units
of weight: `WEIGHT_PER_SECOND` of `frame_support` over the gas the runtime expects to execute in a
second, which the `beresheet-runtime` feature raises. A conversion to weight saturates; one to gas
truncates. -/

/-- `Weight`: a `u64`. -/
abbrev Weight := BitVec 64

/-- `WEIGHT_PER_SECOND` of `frame_support`. -/
def weightPerSecond : Weight := 1000000000000

/-- `GAS_PER_SECOND`, with the `beresheet-runtime` feature or without it. -/
def gasPerSecond (beresheet : Bool) : BitVec 64 := if beresheet then 150000000 else 8000000

/-- `WEIGHT_PER_GAS`. -/
def weightPerGas (beresheet : Bool) : BitVec 64 := weightPerSecond / gasPerSecond beresheet

/-- `GasWeightMapping::gas_to_weight`. -/
def gasToWeight (beresheet : Bool) (gas : BitVec 64) : Weight :=
  Saturating.mul gas (weightPerGas beresheet)

/-- `GasWeightMapping::weight_to_gas`. The quotient is a `u64` already, so `u64::try_from` cannot
fail and its fallback, `u32::MAX`, is never taken. -/
def weightToGas (beresheet : Bool) (weight : Weight) : BitVec 64 :=
  weight / weightPerGas beresheet

section GasWeight

variable (beresheet : Bool)

/-- One gas is 125,000 units of weight, or 6,666 with `beresheet-runtime`, whose division
truncates. -/
theorem toNat_weightPerGas :
    (weightPerGas beresheet).toNat = if beresheet then 6666 else 125000 := by
  cases beresheet <;> rfl

theorem weightPerGas_pos : 0 < (weightPerGas beresheet).toNat := by
  rw [toNat_weightPerGas]
  split <;> decide

theorem toNat_gasToWeight (gas : BitVec 64) :
    (gasToWeight beresheet gas).toNat =
      min (gas.toNat * (weightPerGas beresheet).toNat) (2 ^ 64 - 1) :=
  Saturating.toNat_mul gas (weightPerGas beresheet)

theorem toNat_weightToGas (weight : Weight) :
    (weightToGas beresheet weight).toNat = weight.toNat / (weightPerGas beresheet).toNat :=
  BitVec.toNat_udiv

/-- Gas converted to weight and back is the same gas, or, for gas whose weight saturates, the most
gas the largest weight holds. -/
theorem weightToGas_gasToWeight (gas : BitVec 64) :
    (weightToGas beresheet (gasToWeight beresheet gas)).toNat =
      min gas.toNat ((2 ^ 64 - 1) / (weightPerGas beresheet).toNat) := by
  have positive := weightPerGas_pos beresheet
  rw [toNat_weightToGas, toNat_gasToWeight]
  by_cases fits : gas.toNat * (weightPerGas beresheet).toNat ≤ 2 ^ 64 - 1
  · have held : gas.toNat ≤ (2 ^ 64 - 1) / (weightPerGas beresheet).toNat :=
      (Nat.le_div_iff_mul_le positive).mpr fits
    rw [Nat.min_eq_left fits, Nat.mul_div_cancel _ positive, Nat.min_eq_left held]
  · have fewer : (2 ^ 64 - 1) / (weightPerGas beresheet).toNat < gas.toNat :=
      (Nat.div_lt_iff_lt_mul positive).mpr (by omega)
    rw [Nat.min_eq_right (by omega), Nat.min_eq_right (Nat.le_of_lt fewer)]

/-- The gas a weight converts to weighs at most that weight, and less than one gas below it: the
EVM is never given gas the weight does not pay for, and loses less than one gas of it. -/
theorem gasToWeight_weightToGas (weight : Weight) :
    (gasToWeight beresheet (weightToGas beresheet weight)).toNat ≤ weight.toNat ∧
      weight.toNat < (gasToWeight beresheet (weightToGas beresheet weight)).toNat +
        (weightPerGas beresheet).toNat := by
  have positive := weightPerGas_pos beresheet
  have below : weight.toNat / (weightPerGas beresheet).toNat * (weightPerGas beresheet).toNat ≤
      weight.toNat := Nat.div_mul_le_self _ _
  have fits : weight.toNat / (weightPerGas beresheet).toNat * (weightPerGas beresheet).toNat ≤
      2 ^ 64 - 1 := by
    have := weight.isLt
    omega
  rw [toNat_gasToWeight, toNat_weightToGas, Nat.min_eq_left fits]
  exact ⟨below, Nat.lt_div_mul_add positive⟩

end GasWeight

end Edgeware.Runtime.Fees
