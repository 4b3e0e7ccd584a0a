import Edgeware.Events

/-!
# The precompile set

`precompiles.rs`: the precompiles of the runtime, each at the address `hash(n)`, the address
whose low eight bytes are `n`. `execute` dispatches an address through a chain of guarded arms;
`is_precompile` looks the address up in `used_addresses`. The EVM uses the second to tell a
precompile from a contract and to warm the precompile addresses, and the first to run it.

What a precompile computes is not part of this repository: `execute` yields the precompile it
runs on the input, and it runs on every input.
-/

namespace Edgeware.Runtime.Precompiles

open Events

/-- The precompiles the runtime links. -/
inductive Precompile where
  | ecRecover
  | sha256
  | ripemd160
  | identity
  | modexp
  | bn128Add
  | bn128Mul
  | bn128Pairing
  | blake2F
  | sha3FIPS256
  | ecRecoverPublicKey
  | ed25519Verify
  | curve25519Add
  | curve25519ScalarMul
  deriving DecidableEq, Repr

/-- `hash`: `H160::from_low_u64_be(a)`. -/
def hash (a : UInt64) : H160 := a.toNat

/-- `EdgewarePrecompiles::used_addresses`. -/
def usedAddresses : List H160 := [1, 2, 3, 4, 5, 1024, 1025, 1026, 1027, 1028].map hash

/-- `PrecompileSet::execute`: the precompile of the first arm whose guard the address meets. -/
def execute (address : H160) : Option Precompile :=
  if address = hash 1 then some .ecRecover
  else if address = hash 2 then some .sha256
  else if address = hash 3 then some .ripemd160
  else if address = hash 4 then some .identity
  else if address = hash 5 then some .modexp
  else if address = hash 6 then some .bn128Add
  else if address = hash 7 then some .bn128Mul
  else if address = hash 8 then some .bn128Pairing
  else if address = hash 9 then some .blake2F
  else if address = hash 1024 then some .sha3FIPS256
  else if address = hash 1025 then some .ecRecoverPublicKey
  else if address = hash 1026 then some .ed25519Verify
  else if address = hash 1027 then some .curve25519Add
  else if address = hash 1028 then some .curve25519ScalarMul
  else none

/-- `PrecompileSet::is_precompile`. -/
def isPrecompile (address : H160) : Bool := usedAddresses.contains address

/-- The addresses `execute` has an arm for. -/
def executedAddresses : List H160 :=
  [1, 2, 3, 4, 5, 6, 7, 8, 9, 1024, 1025, 1026, 1027, 1028].map hash

/-- `execute` runs a precompile at each address it has an arm for. -/
theorem execute_isSome_of_mem {address : H160} (listed : address ∈ executedAddresses) :
    (execute address).isSome := by
  simp only [executedAddresses, hash, List.map_cons, List.map_nil, UInt64.reduceToNat] at listed
  revert address
  decide

/-- Every guard fails at an address without an arm. -/
theorem execute_eq_none {address : H160} (absent : address ∉ executedAddresses) :
    execute address = none := by
  simp only [executedAddresses, hash, List.map_cons, List.map_nil, List.mem_cons, List.not_mem_nil,
    or_false, UInt64.reduceToNat, not_or] at absent
  obtain ⟨h1, h2, h3, h4, h5, h6, h7, h8, h9, h1024, h1025, h1026, h1027, h1028⟩ := absent
  simp only [execute, hash, UInt64.reduceToNat, h1, h2, h3, h4, h5, h6, h7, h8, h9, h1024, h1025,
    h1026, h1027, h1028, if_false]

/-- `execute` runs a precompile exactly at the addresses it has an arm for. -/
theorem execute_isSome_iff (address : H160) :
    (execute address).isSome ↔ address ∈ executedAddresses := by
  constructor
  · intro dispatched
    by_cases listed : address ∈ executedAddresses
    · exact listed
    · rw [execute_eq_none listed] at dispatched
      simp at dispatched
  · exact execute_isSome_of_mem

/-- `is_precompile` holds exactly at the addresses in `used_addresses`. -/
theorem isPrecompile_iff (address : H160) : isPrecompile address = true ↔ address ∈ usedAddresses :=
  List.contains_iff_mem

/-- `is_precompile` holds exactly at the addresses that `execute` runs, except the four of the
`bn128` and `blake2` precompiles, which `used_addresses` leaves out. -/
theorem isPrecompile_iff_execute (address : H160) :
    isPrecompile address = true ↔
      (execute address).isSome ∧ address ∉ ([6, 7, 8, 9] : List UInt64).map hash := by
  rw [isPrecompile_iff, execute_isSome_iff]
  simp only [usedAddresses, executedAddresses, List.map_cons, List.map_nil, List.mem_cons,
    List.not_mem_nil, or_false, hash, UInt64.reduceToNat]
  unfold H160 at address ⊢
  omega

/-- At the addresses of `Bn128Add`, `Bn128Mul`, `Bn128Pairing` and `Blake2F`, `execute` runs the
precompile while `is_precompile` says there is none. -/
theorem bn128_blake2_not_precompiles :
    (isPrecompile (hash 6) = false ∧ execute (hash 6) = some .bn128Add) ∧
      (isPrecompile (hash 7) = false ∧ execute (hash 7) = some .bn128Mul) ∧
      (isPrecompile (hash 8) = false ∧ execute (hash 8) = some .bn128Pairing) ∧
      (isPrecompile (hash 9) = false ∧ execute (hash 9) = some .blake2F) := by
  decide

end Edgeware.Runtime.Precompiles
