import Mathlib.Algebra.Group.Nat.Defs

/-!
# Little-endian integers

Fixed-width unsigned integers as byte strings, least significant byte first: `encode width
value` is the low `width` bytes of `value`, `decode` the value of a byte string, and `read width`
takes a fixed-width integer off the front of an input, failing on a short one. The laws are the
round trips both ways and how a value splits over an append of byte strings.
-/

namespace LittleEndian

/-- The low `width` bytes of `value`, least significant first. -/
def encode : Nat → Nat → List UInt8
  | 0, _ => []
  | width + 1, value => UInt8.ofNat value :: encode width (value / 256)

/-- The value of a byte string, least significant byte first. -/
def decode : List UInt8 → Nat
  | [] => 0
  | byte :: rest => byte.toNat + 256 * decode rest

/-- A `width`-byte integer off the front of `input`, and the rest of the input; `none` when the
input is too short. -/
def read (width : Nat) (input : List UInt8) : Option (Nat × List UInt8) :=
  if width ≤ input.length then some (decode (input.take width), input.drop width) else none

@[simp]
theorem length_encode (width value : Nat) : (encode width value).length = width := by
  induction width generalizing value with
  | zero => rfl
  | succ width ih => simp [encode, ih]

@[simp]
theorem decode_nil : decode [] = 0 := rfl

@[simp]
theorem decode_cons (byte : UInt8) (rest : List UInt8) :
    decode (byte :: rest) = byte.toNat + 256 * decode rest :=
  rfl

/-- Decoding the encoding keeps the value modulo the width. -/
theorem decode_encode (width value : Nat) : decode (encode width value) = value % 256 ^ width := by
  induction width generalizing value with
  | zero => simp [encode, Nat.mod_one]
  | succ width ih =>
    have low : (UInt8.ofNat value).toNat = value % 256 := UInt8.toNat_ofNat'
    rw [encode, decode_cons, ih, low, pow_succ', Nat.mod_mul]

/-- The value of an append: the first part, then the second above it. -/
theorem decode_append (front back : List UInt8) :
    decode (front ++ back) = decode front + 256 ^ front.length * decode back := by
  induction front with
  | nil => simp
  | cons byte rest ih =>
    rw [List.cons_append, decode_cons, decode_cons, ih, List.length_cons, pow_succ',
      Nat.mul_add, Nat.mul_assoc, Nat.add_assoc]

/-- Encoding the value of a byte string at its length gives it back. -/
theorem encode_decode (bytes : List UInt8) : encode bytes.length (decode bytes) = bytes := by
  induction bytes with
  | nil => rfl
  | cons byte rest ih =>
    have low := byte.toNat_lt
    have lowByte : UInt8.ofNat (byte.toNat + 256 * decode rest) = byte := by
      apply UInt8.toNat_inj.mp
      rw [UInt8.toNat_ofNat']
      omega
    have high : (byte.toNat + 256 * decode rest) / 256 = decode rest := by omega
    rw [List.length_cons, encode, decode_cons, lowByte, high, ih]

/-- A byte string of a given width is the encoding of its value at that width. -/
theorem encode_decode_of_length {bytes : List UInt8} {width : Nat} (length : bytes.length = width) :
    encode width (decode bytes) = bytes := by
  rw [← length, encode_decode]

/-- Reading an encoded integer gives its value modulo the width, and the input after it. -/
theorem read_encode_append (width value : Nat) (rest : List UInt8) :
    read width (encode width value ++ rest) = some (value % 256 ^ width, rest) := by
  have fits : width ≤ (encode width value ++ rest).length := by simp
  rw [read, if_pos fits, List.take_left' (length_encode width value),
    List.drop_left' (length_encode width value), decode_encode]

end LittleEndian
