import Edgeware.Runtime.Migrations

/-!
# What the Web3 credit migration does to the account

The migration reads and writes the account as a `[u128; 5]`, while the system pallet reads it as
an `AccountInfo`. The two views of the same 80 bytes meet in `AccountInfo.words`: the four `u32`
counters, little-endian one after the other, are the first `u128` word, and the four balances are
the other words. So adding to the second word adds to the free balance, and the array the
migration writes for a missing account, `[2^64, to_credit, 0, 0, 0]`, is an account with one
provider, the credit as its free balance and every other field zero.

From the raw storage's side the migration is one `put` at the account's key: every other entry,
`Balances::TotalIssuance` among them, is left as it was.
-/

namespace Edgeware.Runtime.Migrations

open Scale

namespace AccountInfo

/-- The account as a `[u128; 5]`: its four counters packed little-endian into the first word,
then its four balances. -/
def words (info : AccountInfo) : List Balance :=
  [BitVec.ofNat 128 (info.nonce.toNat + 256 ^ 4 * info.consumers.toNat +
      256 ^ 8 * info.providers.toNat + 256 ^ 12 * info.sufficients.toNat),
    info.data.free, info.data.reserved, info.data.miscFrozen, info.data.feeFrozen]

/-- The account with `amount` more free balance, wrapping as a `u128` does. -/
def credit (info : AccountInfo) (amount : Balance) : AccountInfo :=
  { info with data := { info.data with free := info.data.free + amount } }

/-- A new account holding `free`: one provider, and every other field zero. -/
def created (free : Balance) : AccountInfo := ⟨0, 0, 1, 0, ⟨free, 0, 0, 0⟩⟩

/-- The four counters, one after the other, are the bytes of one `u128`. -/
theorem encode_counters (nonce consumers providers sufficients : UInt32) :
    encodeU32 nonce ++ encodeU32 consumers ++ encodeU32 providers ++ encodeU32 sufficients =
      encodeU128 (BitVec.ofNat 128 (nonce.toNat + 256 ^ 4 * consumers.toNat +
        256 ^ 8 * providers.toNat + 256 ^ 12 * sufficients.toNat)) := by
  have fit : ∀ counter : UInt32, counter.toNat % 256 ^ 4 = counter.toNat := fun counter =>
    Nat.mod_eq_of_lt (lt_of_lt_of_eq counter.toNat_lt (by decide))
  have packed : (BitVec.ofNat 128 (nonce.toNat + 256 ^ 4 * consumers.toNat +
      256 ^ 8 * providers.toNat + 256 ^ 12 * sufficients.toNat)).toNat =
      nonce.toNat + 256 ^ 4 * consumers.toNat + 256 ^ 8 * providers.toNat +
        256 ^ 12 * sufficients.toNat := by
    rw [BitVec.toNat_ofNat]
    apply Nat.mod_eq_of_lt
    have := nonce.toNat_lt
    have := consumers.toNat_lt
    have := providers.toNat_lt
    have := sufficients.toNat_lt
    simp only [Nat.reducePow] at *
    omega
  have length : (encodeU32 nonce ++ encodeU32 consumers ++ encodeU32 providers ++
      encodeU32 sufficients).length = 16 := by
    simp [encodeU32]
  have decoded : LittleEndian.decode (encodeU32 nonce ++ encodeU32 consumers ++
      encodeU32 providers ++ encodeU32 sufficients) = nonce.toNat + 256 ^ 4 * consumers.toNat +
      256 ^ 8 * providers.toNat + 256 ^ 12 * sufficients.toNat := by
    simp only [encodeU32, List.length_append, LittleEndian.length_encode,
      LittleEndian.decode_append, LittleEndian.decode_encode, fit, Nat.reduceAdd]
  rw [encodeU128, packed, ← decoded, LittleEndian.encode_decode_of_length length]

/-- An account's bytes are those of its `[u128; 5]`. -/
theorem encode_eq_encodeWords (info : AccountInfo) : info.encode = encodeWords info.words := by
  rw [encode, encode_counters]
  simp only [encodeWords, words, List.flatMap_cons, List.flatMap_nil, List.append_nil,
    List.append_assoc]

/-- Crediting an account adds to the second word of its array. -/
theorem words_credit (info : AccountInfo) (amount : Balance) :
    (info.credit amount).words = info.words.modify 1 (· + amount) :=
  rfl

/-- The array the migration writes for a missing account is a new account's: `2^64` packs one
provider. -/
theorem words_created (free : Balance) :
    (created free).words = [BitVec.ofNat 128 18446744073709551616, free, 0, 0, 0] := by
  simp [created, words]

end AccountInfo

/-- The key is the prefix, the hash and the 32 bytes of the account. -/
theorem length_storageKey (blake2_128 : List UInt8 → List UInt8) :
    (storageKey blake2_128).length = 64 + (blake2_128 web3Id).length := by
  simp only [storageKey, List.length_append, pfx, web3Id, List.length_cons, List.length_nil]
  omega

/-- An array put at a key reads back at its length. -/
theorem get_decodeWords_put (storage : Storage) (key : List UInt8) {words : List Balance} {n : Nat}
    (length : words.length = n) :
    Unhashed.get (decodeWords n) (Unhashed.put storage key (encodeWords words)) key = some words := by
  rw [Unhashed.get_put_self, ← List.append_nil (encodeWords words), ← length,
    decodeWords_encodeWords]
  rfl

/-- What reads as a `[u128; n]` has `n` words. -/
theorem length_of_get_decodeWords {storage : Storage} {key : List UInt8} {n : Nat}
    {words : List Balance} (read : Unhashed.get (decodeWords n) storage key = some words) :
    words.length = n := by
  simp only [Unhashed.get, Option.bind_eq_some_iff, Option.map_eq_some_iff] at read
  obtain ⟨bytes, -, ⟨words', rest⟩, decoded, rfl⟩ := read
  exact length_of_decodeWords decoded

/-- The migration is one `put` at the account's key: of the array it read with the credit added
to its second word, or of a new account's array when it read none. Its final `unwrap` never
panics. -/
theorem web3AccountCreditMigration_eq (blake2_128 : List UInt8 → List UInt8) (storage : Storage) :
    web3AccountCreditMigration blake2_128 storage =
      some (Unhashed.put storage (storageKey blake2_128) (encodeWords
        ((Unhashed.get (decodeWords 5) storage (storageKey blake2_128)).elim
          [BitVec.ofNat 128 18446744073709551616, toCredit, 0, 0, 0]
          (·.modify 1 (· + toCredit))))) := by
  unfold web3AccountCreditMigration Unhashed.take
  cases read : Unhashed.get (decodeWords 5) storage (storageKey blake2_128) with
  | none =>
    simp only [read, Option.isSome_none, Bool.false_eq_true, if_false, Option.elim]
    rw [get_decodeWords_put (n := 5) storage _ rfl]
    rfl
  | some a =>
    simp only [read, Option.isSome_some, if_true, Unhashed.put_kill, Option.elim]
    rw [get_decodeWords_put storage _ (by rw [List.length_modify, length_of_get_decodeWords read])]
    rfl

section Account

variable {blake2_128 : List UInt8 → List UInt8} {storage : Storage} {prior : Option AccountInfo}

/-- An account stored in its layout reads as its array. -/
theorem get_words_of_stored (stored : storage (storageKey blake2_128) = prior.map AccountInfo.encode) :
    Unhashed.get (decodeWords 5) storage (storageKey blake2_128) = prior.map AccountInfo.words := by
  cases prior with
  | none => simp [Unhashed.get, stored]
  | some info =>
    rw [Unhashed.get, stored, Option.map_some, Option.bind_some,
      AccountInfo.encode_eq_encodeWords, ← List.append_nil (encodeWords info.words)]
    rw [show (5 : Nat) = info.words.length from rfl, decodeWords_encodeWords]
    rfl

/-- On an account stored in its layout, or on no account, the migration puts at the account's
key the credited account, or a new account holding the credit. -/
theorem web3AccountCreditMigration_of_stored
    (stored : storage (storageKey blake2_128) = prior.map AccountInfo.encode) :
    web3AccountCreditMigration blake2_128 storage =
      some (Unhashed.put storage (storageKey blake2_128)
        (prior.elim (AccountInfo.created toCredit) (·.credit toCredit)).encode) := by
  have written : (prior.map AccountInfo.words).elim
      [BitVec.ofNat 128 18446744073709551616, toCredit, 0, 0, 0] (·.modify 1 (· + toCredit)) =
      (prior.elim (AccountInfo.created toCredit) (·.credit toCredit)).words := by
    cases prior with
    | none => exact (AccountInfo.words_created toCredit).symm
    | some info => exact (AccountInfo.words_credit info toCredit).symm
  rw [web3AccountCreditMigration_eq, get_words_of_stored stored, written,
    ← AccountInfo.encode_eq_encodeWords]

/-- The account put at a key reads back. -/
theorem get_decode_put (key : List UInt8) (info : AccountInfo) :
    Unhashed.get AccountInfo.decode (Unhashed.put storage key info.encode) key = some info := by
  rw [Unhashed.get_put_self, ← List.append_nil info.encode, AccountInfo.decode_encode]
  rfl

/-- The Web3 credit migration over every prior value of the account's entry, absent or any
`AccountInfo` in its SCALE layout: it does not panic; afterwards the entry reads as the account
with every field as it was but the free balance, which has the credit added modulo `2^128`, or,
for an absent account, as a new account with one provider, the credit as its free balance and
every other field zero; and every other entry of the storage is as it was. -/
theorem web3AccountCreditMigration_credits
    (stored : storage (storageKey blake2_128) = prior.map AccountInfo.encode) :
    ∃ storage', web3AccountCreditMigration blake2_128 storage = some storage' ∧
      Unhashed.get AccountInfo.decode storage' (storageKey blake2_128) =
        some (prior.elim (AccountInfo.created toCredit) (·.credit toCredit)) ∧
      ∀ key, key ≠ storageKey blake2_128 → storage' key = storage key :=
  ⟨_, web3AccountCreditMigration_of_stored stored, get_decode_put _ _,
    fun _ ne => Unhashed.put_apply_of_ne storage _ ne⟩

end Account

/-- An account with three transactions sent, one consumer and one provider, holding 500 free and
20 reserved. -/
def storedAccount : AccountInfo := ⟨3, 1, 1, 0, ⟨500, 20, 0, 0⟩⟩

/-- A storage holding that account at the Web3 account's key, and nothing else. -/
def storageWithAccount : Storage := fun key =>
  if key = storageKey (fun _ => []) then some storedAccount.encode else none

/-- The stored account is credited, its counters and other balances kept. -/
theorem web3AccountCreditMigration_credits_stored :
    ∃ storage', web3AccountCreditMigration (fun _ => []) storageWithAccount = some storage' ∧
      Unhashed.get AccountInfo.decode storage' (storageKey fun _ => []) =
        some (storedAccount.credit toCredit) ∧
      ∀ key, key ≠ storageKey (fun _ => []) → storage' key = storageWithAccount key :=
  have stored : storageWithAccount (storageKey fun _ => []) =
      (some storedAccount).map AccountInfo.encode := if_pos rfl
  web3AccountCreditMigration_credits stored

/-- The account of the largest free balance: one provider, and nothing reserved or frozen. -/
def fullAccount : AccountInfo := ⟨0, 0, 1, 0, ⟨BitVec.allOnes 128, 0, 0, 0⟩⟩

/-- The migration neither keeps the free balance from wrapping nor touches the total issuance:
over every prior value of the account's entry, absent or any `AccountInfo` in its layout, every
32-byte key, such as the one of `Balances::TotalIssuance`, keeps its value; and at an account
holding the largest `u128` the free balance wraps around to one less than the credit. -/
theorem web3AccountCreditMigration_wraps_free (blake2_128 : List UInt8 → List UInt8)
    (storage : Storage) (prior : Option AccountInfo)
    (stored : storage (storageKey blake2_128) = prior.map AccountInfo.encode) :
    ∃ storage', web3AccountCreditMigration blake2_128 storage = some storage' ∧
      (prior = some fullAccount →
        (Unhashed.get AccountInfo.decode storage' (storageKey blake2_128)).map (·.data.free) =
          some (toCredit - 1)) ∧
      ∀ key : List UInt8, key.length = 32 → storage' key = storage key := by
  have shorter : ∀ key : List UInt8, key.length = 32 → key ≠ storageKey blake2_128 := by
    intro key length same
    have := length_storageKey blake2_128
    rw [← same, length] at this
    omega
  refine ⟨_, web3AccountCreditMigration_of_stored stored, fun full => ?_,
    fun key length => Unhashed.put_apply_of_ne storage _ (shorter key length)⟩
  subst full
  rw [get_decode_put]
  show some (BitVec.allOnes 128 + toCredit) = some (toCredit - 1)
  decide

/-- A 32-byte key, as that of `Balances::TotalIssuance` is: two Twox-128 hashes. -/
def issuanceKey : List UInt8 := List.replicate 32 7

/-- A storage without the Web3 account, whose total issuance is one EDG. -/
def storageWithIssuance : Storage := fun key =>
  if key = issuanceKey then some (encodeU128 (BitVec.ofNat 128 dollars)) else none

/-- The migration creates the account holding the credit, and the issuance stays one EDG. -/
theorem web3AccountCreditMigration_keeps_issuance :
    ∃ storage', web3AccountCreditMigration (fun _ => []) storageWithIssuance = some storage' ∧
      storage' issuanceKey = some (encodeU128 (BitVec.ofNat 128 dollars)) := by
  have absent : storageWithIssuance (storageKey fun _ => []) = (none : Option AccountInfo).map
      AccountInfo.encode := if_neg (by decide)
  obtain ⟨storage', migrated, -, kept⟩ :=
    web3AccountCreditMigration_wraps_free (fun _ => []) storageWithIssuance none absent
  exact ⟨storage', migrated, kept issuanceKey rfl⟩

end Edgeware.Runtime.Migrations
