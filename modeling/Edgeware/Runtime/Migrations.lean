import Edgeware.Lib.LittleEndian

/-!
# The Web3 credit migration

`Web3AccountCreditMigration` (`migrations.rs`), the last of `AllEdgewareMigrations`: the runtime
upgrade that credits 150 million EDG to the account of the Web3 Foundation. It does not go
through the balances pallet. It takes the account's `System::Account` entry off the raw storage
as a `[u128; 5]`, at a key it builds by hand, adds the credit to the second word and writes the
array back; when there is no entry, it writes a new one.

The raw storage maps byte-string keys to SCALE-encoded values. SCALE writes an integer as its
little-endian bytes, a struct as its fields in order and a fixed-size array as its items in
order; decoding reads them back and leaves trailing bytes unread. An `AccountInfo` is four `u32`
counters and four `u128` balances, 80 bytes, so that as a `[u128; 5]` its first word packs the
four counters and the others are the balances (`AccountInfo.words`). The runtime is built in
release mode, where `+=` on a `u128` wraps. `blake2_128` is a parameter: the hash is not part of
this repository.
-/

namespace Edgeware.Runtime.Migrations

/-- `Balance`: a `u128`. -/
abbrev Balance := BitVec 128

/-- `currency::MILLICENTS`. -/
def millicents : Nat := 10000000000000

/-- `currency::CENTS`. -/
def cents : Nat := 1000 * millicents

/-- `currency::DOLLARS`: one EDG. -/
def dollars : Nat := 100 * cents

/-- `AccountData` of the balances pallet. -/
structure AccountData where
  free : Balance
  reserved : Balance
  miscFrozen : Balance
  feeFrozen : Balance
  deriving DecidableEq, Repr

/-- `AccountInfo` of the system pallet, with the runtime's `u32` nonce and reference counts. -/
structure AccountInfo where
  nonce : UInt32
  consumers : UInt32
  providers : UInt32
  sufficients : UInt32
  data : AccountData
  deriving DecidableEq, Repr

/-! ## SCALE -/

namespace Scale

/-- A `u32`: its four bytes. -/
def encodeU32 (value : UInt32) : List UInt8 := LittleEndian.encode 4 value.toNat

/-- A `u128`: its sixteen bytes. -/
def encodeU128 (value : Balance) : List UInt8 := LittleEndian.encode 16 value.toNat

/-- A `u32` off the front of the input. -/
def decodeU32 (input : List UInt8) : Option (UInt32 × List UInt8) :=
  (LittleEndian.read 4 input).map fun read => (UInt32.ofNat read.1, read.2)

/-- A `u128` off the front of the input. -/
def decodeU128 (input : List UInt8) : Option (Balance × List UInt8) :=
  (LittleEndian.read 16 input).map fun read => (BitVec.ofNat 128 read.1, read.2)

/-- An array of `u128`: its items in order. -/
def encodeWords (words : List Balance) : List UInt8 := words.flatMap encodeU128

/-- A `[u128; n]` off the front of the input. -/
def decodeWords : Nat → List UInt8 → Option (List Balance × List UInt8)
  | 0, input => some ([], input)
  | n + 1, input => do
    let (word, input) ← decodeU128 input
    let (words, input) ← decodeWords n input
    pure (word :: words, input)

/-- Decoding an encoded `u32` gives it back and leaves the rest alone. -/
@[simp]
theorem decodeU32_encodeU32 (value : UInt32) (rest : List UInt8) :
    decodeU32 (encodeU32 value ++ rest) = some (value, rest) := by
  have fits : value.toNat % 256 ^ 4 = value.toNat :=
    Nat.mod_eq_of_lt (lt_of_lt_of_eq value.toNat_lt (by decide))
  simp only [decodeU32, encodeU32, LittleEndian.read_encode_append, Option.map_some, fits,
    UInt32.ofNat_toNat]

/-- Decoding an encoded `u128` gives it back and leaves the rest alone. -/
@[simp]
theorem decodeU128_encodeU128 (value : Balance) (rest : List UInt8) :
    decodeU128 (encodeU128 value ++ rest) = some (value, rest) := by
  have fits : value.toNat % 256 ^ 16 = value.toNat :=
    Nat.mod_eq_of_lt (lt_of_lt_of_eq value.isLt (by decide))
  simp only [decodeU128, encodeU128, LittleEndian.read_encode_append, Option.map_some, fits,
    BitVec.ofNat_toNat, BitVec.setWidth_eq]

theorem encodeWords_cons (word : Balance) (words : List Balance) :
    encodeWords (word :: words) = encodeU128 word ++ encodeWords words :=
  List.flatMap_cons

/-- Decoding an encoded array at its length gives it back and leaves the rest alone. -/
theorem decodeWords_encodeWords (words : List Balance) (rest : List UInt8) :
    decodeWords words.length (encodeWords words ++ rest) = some (words, rest) := by
  induction words with
  | nil => rfl
  | cons word words ih =>
    rw [List.length_cons, encodeWords_cons, List.append_assoc, decodeWords, decodeU128_encodeU128]
    simp [ih]

/-- A `[u128; n]` decodes to `n` words. -/
theorem length_of_decodeWords {n : Nat} {input : List UInt8} {words : List Balance}
    {rest : List UInt8} (decoded : decodeWords n input = some (words, rest)) : words.length = n := by
  induction n generalizing input words rest with
  | zero =>
    simp [decodeWords] at decoded
    rw [decoded.1]
    rfl
  | succ n ih =>
    simp only [decodeWords, bind, Option.bind_eq_some_iff, pure, Option.some.injEq,
      Prod.mk.injEq] at decoded
    obtain ⟨word, -, others, decodedRest, rfl, -⟩ := decoded
    rw [List.length_cons, ih decodedRest]

end Scale

namespace AccountInfo

open Scale

/-- The SCALE encoding of an account: its fields in order. -/
def encode (info : AccountInfo) : List UInt8 :=
  encodeU32 info.nonce ++ encodeU32 info.consumers ++ encodeU32 info.providers ++
    encodeU32 info.sufficients ++ encodeU128 info.data.free ++ encodeU128 info.data.reserved ++
    encodeU128 info.data.miscFrozen ++ encodeU128 info.data.feeFrozen

/-- The SCALE decoding of an account. -/
def decode (input : List UInt8) : Option (AccountInfo × List UInt8) := do
  let (nonce, input) ← decodeU32 input
  let (consumers, input) ← decodeU32 input
  let (providers, input) ← decodeU32 input
  let (sufficients, input) ← decodeU32 input
  let (free, input) ← decodeU128 input
  let (reserved, input) ← decodeU128 input
  let (miscFrozen, input) ← decodeU128 input
  let (feeFrozen, input) ← decodeU128 input
  pure (⟨nonce, consumers, providers, sufficients, ⟨free, reserved, miscFrozen, feeFrozen⟩⟩, input)

/-- Decoding an encoded account gives it back and leaves the rest alone. -/
theorem decode_encode (info : AccountInfo) (rest : List UInt8) :
    decode (info.encode ++ rest) = some (info, rest) := by
  simp only [encode, List.append_assoc, decode, decodeU32_encodeU32, decodeU128_encodeU128,
    bind, Option.bind_some, pure]

end AccountInfo

/-! ## Raw storage -/

/-- The raw storage: the bytes at each key. -/
abbrev Storage := List UInt8 → Option (List UInt8)

namespace Unhashed

/-- `unhashed::get`: the value at `key`, `none` when there is none or it does not decode. -/
def get {α : Type} (decode : List UInt8 → Option (α × List UInt8)) (storage : Storage)
    (key : List UInt8) : Option α :=
  (storage key).bind fun bytes => (decode bytes).map Prod.fst

/-- `unhashed::kill`. -/
def kill (storage : Storage) (key : List UInt8) : Storage :=
  fun other => if other = key then none else storage other

/-- `unhashed::put`, of the encoded value. -/
def put (storage : Storage) (key bytes : List UInt8) : Storage :=
  fun other => if other = key then some bytes else storage other

/-- `unhashed::take`: the value, and the storage without it when there was one. -/
def take {α : Type} (decode : List UInt8 → Option (α × List UInt8)) (storage : Storage)
    (key : List UInt8) : Option α × Storage :=
  let value := get decode storage key
  (value, if value.isSome then kill storage key else storage)

/-- Reading back what was put. -/
@[simp]
theorem get_put_self {α : Type} (decode : List UInt8 → Option (α × List UInt8)) (storage : Storage)
    (key bytes : List UInt8) :
    get decode (put storage key bytes) key = (decode bytes).map Prod.fst := by
  simp [get, put]

/-- A put leaves every other key alone. -/
theorem put_apply_of_ne (storage : Storage) {key other : List UInt8} (bytes : List UInt8)
    (ne : other ≠ key) : put storage key bytes other = storage other := by
  simp [put, ne]

/-- A put over a kill of the same key is the put alone. -/
theorem put_kill (storage : Storage) (key bytes : List UInt8) :
    put (kill storage key) key bytes = put storage key bytes := by
  funext other
  by_cases same : other = key <;> simp [put, kill, same]

end Unhashed

/-! ## The migration -/

/-- The hand-built prefix `pfx` of the key. -/
def pfx : List UInt8 :=
  [38, 170, 57, 78, 234, 86, 48, 224, 124, 72, 174, 12, 149, 88, 206, 247,
    185, 157, 136, 14, 198, 129, 121, 156, 12, 243, 14, 136, 134, 55, 29, 169]

/-- `web3_id`, the public key of the account to credit. -/
def web3Id : List UInt8 :=
  [0xd9, 0x6f, 0xd7, 0x61, 0x3d, 0x51, 0x50, 0x8e, 0xed, 0xc4, 0x0c, 0xc8, 0x48, 0x10, 0x82, 0x90,
    0x17, 0x9f, 0xea, 0x6f, 0xfe, 0x8c, 0xc1, 0xd1, 0xf8, 0x66, 0x31, 0xa1, 0x8e, 0x0a, 0xc5, 0x5f]

/-- `to_credit`: 150 million EDG. -/
def toCredit : Balance := BitVec.ofNat 128 (150000000 * dollars)

/-- The key `sk`: the prefix, then the `blake2_128` hash of the account, then the account. -/
def storageKey (blake2_128 : List UInt8 → List UInt8) : List UInt8 :=
  pfx ++ blake2_128 web3Id ++ web3Id

/-- `Web3AccountCreditMigration::on_runtime_upgrade`, `none` when its final `unwrap` panics. -/
def web3AccountCreditMigration (blake2_128 : List UInt8 → List UInt8) (storage : Storage) :
    Option Storage :=
  let sk := storageKey blake2_128
  let (sv, storage) := Unhashed.take (Scale.decodeWords 5) storage sk
  let storage := match sv with
    | some a => Unhashed.put storage sk (Scale.encodeWords (a.modify 1 (· + toCredit)))
    | none => Unhashed.put storage sk
        (Scale.encodeWords [BitVec.ofNat 128 18446744073709551616, toCredit, 0, 0, 0])
  (Unhashed.get (Scale.decodeWords 5) storage sk).map fun _ => storage

end Edgeware.Runtime.Migrations
