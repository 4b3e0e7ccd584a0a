import Mathlib.Logic.Basic

/-!
# Proxy types

`ProxyType` of the runtime (`lib.rs`): the kinds of proxy an account may appoint, with the two
functions of `InstanceFilter<Call>` that `pallet_proxy` relies on. `filter` says which calls a
proxy of a type may make; `is_superset` says which type may stand in for another, as when a proxy
adds or removes proxies of its own.

A runtime `Call` is one constructor per pallet of `construct_runtime!` that has calls. The
filters read only the pallet of a call and, for `Vesting` and `Indices`, which call of the pallet
it is; the arguments of a call, nested calls included, are left out.
-/

namespace Edgeware.Runtime

/-- `ProxyType`. -/
inductive ProxyType where
  | any
  | nonTransfer
  | governance
  | staking
  deriving DecidableEq, Repr

/-- `ProxyType::default`. -/
def ProxyType.default : ProxyType := .any

/-- The calls of `pallet_indices`. -/
inductive IndicesCall where
  | claim
  | transfer
  | free
  | forceTransfer
  | freeze
  deriving DecidableEq, Repr

/-- The calls of `pallet_vesting`. -/
inductive VestingCall where
  | vest
  | vestOther
  | vestedTransfer
  | forceVestedTransfer
  | mergeSchedules
  deriving DecidableEq, Repr

/-- `Call`: the calls of the runtime, by pallet, in the order of `construct_runtime!`. -/
inductive Call where
  | system
  | utility
  | timestamp
  | authorship
  | indices (call : IndicesCall)
  | balances
  | staking
  | session
  | democracy
  | council
  | phragmenElection
  | grandpa
  | treasury
  | contracts
  | sudo
  | imOnline
  | identity
  | recovery
  | vesting (call : VestingCall)
  | scheduler
  | proxy
  | multisig
  | assets
  | treasuryReward
  | ethereum
  | evm
  | bounties
  | tips
  | electionProviderMultiPhase
  | dynamicFee
  | baseFee
  | bagsList
  | preimage
  deriving DecidableEq, Repr

namespace ProxyType

/-- `InstanceFilter::filter`. -/
def filter (self : ProxyType) (c : Call) : Bool :=
  match self with
  | .any => true
  | .nonTransfer => !(match c with
    | .balances | .vesting .vestedTransfer | .indices .transfer => true
    | _ => false)
  | .governance => match c with
    | .democracy | .council | .phragmenElection | .treasury => true
    | _ => false
  | .staking => match c with
    | .staking => true
    | _ => false

/-- `InstanceFilter::is_superset`: its arms in order, the first a guard. -/
def isSuperset (self o : ProxyType) : Bool :=
  if self = o then true
  else match self, o with
    | .any, _ => true
    | _, .any => false
    | .nonTransfer, _ => true
    | _, _ => false

/-- What `is_superset` can say: a type stands in for itself, `Any` for every type, and
`NonTransfer` for every type but `Any`. -/
theorem isSuperset_iff {p q : ProxyType} :
    p.isSuperset q = true ↔ p = q ∨ p = .any ∨ (p = .nonTransfer ∧ q ≠ .any) := by
  cases p <;> cases q <;> decide

/-- Only `Any` stands in for `Any`. -/
theorem isSuperset_any_iff (p : ProxyType) : p.isSuperset .any = true ↔ p = .any := by
  rw [isSuperset_iff]
  cases p <;> simp

/-- A governance call moves no balance, so a `NonTransfer` proxy may make it. -/
theorem nonTransfer_filter_of_governance {c : Call} (admitted : governance.filter c = true) :
    nonTransfer.filter c = true := by
  cases c <;> simp_all [filter]

/-- A staking call moves no balance, so a `NonTransfer` proxy may make it. -/
theorem nonTransfer_filter_of_staking {c : Call} (admitted : staking.filter c = true) :
    nonTransfer.filter c = true := by
  cases c <;> simp_all [filter]

/-- A type that stands in for another may make every call the other may make. -/
theorem filter_of_isSuperset {p q : ProxyType} (superset : p.isSuperset q = true) {c : Call}
    (admitted : q.filter c = true) : p.filter c = true := by
  rcases isSuperset_iff.mp superset with rfl | rfl | ⟨rfl, notAny⟩
  · exact admitted
  · rfl
  · cases q with
    | any => exact absurd rfl notAny
    | nonTransfer => exact admitted
    | governance => exact nonTransfer_filter_of_governance admitted
    | staking => exact nonTransfer_filter_of_staking admitted

/-- The ordering of proxy types is sound for the call filter: a type that is a superset of
another admits every call the other admits; in particular `NonTransfer` admits every call that
`Governance` or `Staking` admits; and only `Any` is a superset of `Any`. -/
theorem isSuperset_sound :
    (∀ p q : ProxyType, p.isSuperset q = true → ∀ c, q.filter c = true → p.filter c = true) ∧
      (∀ c, governance.filter c = true → nonTransfer.filter c = true) ∧
      (∀ c, staking.filter c = true → nonTransfer.filter c = true) ∧
      (∀ p : ProxyType, p.isSuperset .any = true ↔ p = .any) :=
  ⟨fun _ _ superset _ admitted => filter_of_isSuperset superset admitted,
    fun _ admitted => nonTransfer_filter_of_governance admitted,
    fun _ admitted => nonTransfer_filter_of_staking admitted,
    isSuperset_any_iff⟩

end ProxyType

end Edgeware.Runtime
