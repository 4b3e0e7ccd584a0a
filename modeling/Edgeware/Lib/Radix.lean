import Mathlib.Algebra.Group.Nat.Defs

/-!
# Reading unsigned integers in a radix

Rust's `from_str_radix` for an unsigned integer type of `w` bits, with `char::to_digit`, which it
reads each digit with. A `+` may lead; a digit is a decimal digit, or a letter in either case,
below the radix; the value is accumulated from the most significant digit on, and a product or a
sum that leaves the type is an overflow, found at the digit that causes it. The source iterates
over the UTF-8 bytes of the text and reads each as a character: the bytes of a non-ASCII character
are rejected as digits just as the character is, and `+` and `-` are one byte each, so reading the
characters gives the same outcome.

The law is the round trip: the digits `Nat.toDigits` writes of a value of the type read back as
that value, in every radix from 2 to 16.
-/

namespace Radix

/-- `IntErrorKind`, the kinds of failure of an unsigned read. -/
inductive IntErrorKind where
  | empty
  | invalidDigit
  | posOverflow
  deriving DecidableEq, Repr

/-- `char::to_digit` for a radix from 2 to 36, in its wrapping and saturating `u32` arithmetic:
setting the sixth bit of a letter makes it lower case. -/
def toDigit (c : Char) (radix : UInt32) : Option UInt32 :=
  let digit := c.val - 48
  if radix > 10 ∧ digit < 10 then some digit
  else
    let digit :=
      if radix > 10 then
        let letter := (c.val ||| 32) - 97
        if letter ≤ 0xFFFFFFFF - 10 then letter + 10 else 0xFFFFFFFF
      else digit
    if digit < radix then some digit else none

/-- The loop of `from_str_radix` over the digits, with the value so far: each digit is a
`checked_mul` by the radix, then a `checked_add` of the digit. -/
def digitsLoop (w : Nat) (radix : UInt32) : Nat → List Char → Except IntErrorKind Nat
  | result, [] => .ok result
  | result, c :: rest =>
    match toDigit c radix with
    | none => .error .invalidDigit
    | some x =>
      if result * radix.toNat < 2 ^ w then
        if result * radix.toNat + x.toNat < 2 ^ w then
          digitsLoop w radix (result * radix.toNat + x.toNat) rest
        else .error .posOverflow
      else .error .posOverflow

/-- `from_str_radix` for an unsigned type of `w` bits. -/
def fromStrRadix (w : Nat) (radix : UInt32) (src : List Char) : Except IntErrorKind Nat :=
  match src with
  | [] => .error .empty
  | ['+'] | ['-'] => .error .invalidDigit
  | '+' :: digits => digitsLoop w radix 0 digits
  | digits => digitsLoop w radix 0 digits

section RoundTrip

variable {w : Nat} {radix : UInt32}

/-- Every digit `Nat.digitChar` writes below a radix up to 16 reads back. -/
theorem toDigit_digitChar (low : 2 ≤ radix.toNat) (high : radix.toNat ≤ 16) {d : Nat}
    (below : d < radix.toNat) : toDigit (Nat.digitChar d) radix = some (UInt32.ofNat d) := by
  have all : ∀ r < 17, 2 ≤ r → ∀ d < r,
      toDigit (Nat.digitChar d) (UInt32.ofNat r) = some (UInt32.ofNat d) := by
    decide +kernel
  have := all radix.toNat (by omega) low d below
  rwa [UInt32.ofNat_toNat] at this

/-- A read with a leading character that is no sign reads every character as a digit. -/
theorem fromStrRadix_of_unsigned {c : Char} (rest : List Char) (plus : c ≠ '+') (minus : c ≠ '-') :
    fromStrRadix w radix (c :: rest) = digitsLoop w radix 0 (c :: rest) := by
  unfold fromStrRadix
  split <;> simp_all

/-- Reading one more digit reads the digits before it, then it. -/
theorem digitsLoop_append (result : Nat) (digits : List Char) (c : Char) :
    digitsLoop w radix result (digits ++ [c]) =
      (digitsLoop w radix result digits).bind fun read => digitsLoop w radix read [c] := by
  induction digits generalizing result with
  | nil => rfl
  | cons d rest ih =>
    simp only [List.cons_append, digitsLoop]
    split
    · rfl
    · split
      · split
        · exact ih _
        · rfl
      · rfl

/-- Every character `Nat.toDigits` writes is the digit of a value below the base. -/
theorem mem_toDigits {b n : Nat} (hb : 1 < b) {c : Char} (mem : c ∈ Nat.toDigits b n) :
    ∃ d < b, c = Nat.digitChar d := by
  induction n using Nat.base_induction b hb with
  | single m below =>
    rw [Nat.toDigits_of_lt_base below, List.mem_singleton] at mem
    exact ⟨m, below, mem⟩
  | digit m k below positive ih =>
    rw [← Nat.toDigits_append_toDigits hb positive below, Nat.toDigits_of_lt_base below,
      List.mem_append, List.mem_singleton] at mem
    rcases mem with earlier | last
    · exact ih earlier
    · exact ⟨k, below, last⟩

/-- The digits of a value of the type read back as the value. -/
theorem digitsLoop_toDigits (low : 2 ≤ radix.toNat) (high : radix.toNat ≤ 16) (n : Nat)
    (fits : n < 2 ^ w) : digitsLoop w radix 0 (Nat.toDigits radix.toNat n) = .ok n := by
  induction n using Nat.base_induction radix.toNat (by omega) with
  | single m below =>
    have small : (UInt32.ofNat m).toNat = m :=
      UInt32.toNat_ofNat_of_lt' (Nat.lt_of_lt_of_le below (Nat.le_trans high (by decide)))
    rw [Nat.toDigits_of_lt_base below]
    simp only [digitsLoop, toDigit_digitChar low high below, Nat.zero_mul, Nat.zero_add, small,
      if_pos (Nat.two_pow_pos w), if_pos fits]
  | digit m k below positive ih =>
    have small : (UInt32.ofNat k).toNat = k :=
      UInt32.toNat_ofNat_of_lt' (Nat.lt_of_lt_of_le below (Nat.le_trans high (by decide)))
    have earlier : m < 2 ^ w := by
      have : m ≤ radix.toNat * m := Nat.le_mul_of_pos_left m (by omega)
      omega
    have product : m * radix.toNat < 2 ^ w := by
      rw [Nat.mul_comm]
      omega
    have sum : m * radix.toNat + k < 2 ^ w := by
      rw [Nat.mul_comm]
      exact fits
    rw [← Nat.toDigits_append_toDigits (by omega) positive below, Nat.toDigits_of_lt_base below,
      digitsLoop_append, ih earlier, Nat.mul_comm radix.toNat m]
    simp [Except.bind, digitsLoop, toDigit_digitChar low high below, small, product, sum]

/-- The round trip: `from_str_radix` reads the digits of a value of the type as the value. -/
theorem fromStrRadix_toDigits (low : 2 ≤ radix.toNat) (high : radix.toNat ≤ 16) (n : Nat)
    (fits : n < 2 ^ w) : fromStrRadix w radix (Nat.toDigits radix.toNat n) = .ok n := by
  obtain ⟨c, rest, digits⟩ := List.exists_cons_of_ne_nil (Nat.toDigits_ne_nil (b := radix.toNat)
    (n := n))
  obtain ⟨d, below, rfl⟩ := mem_toDigits (by omega) (digits ▸ List.mem_cons_self)
  have unsigned : ∀ d < 16, Nat.digitChar d ≠ '+' ∧ Nat.digitChar d ≠ '-' := by decide
  have sign := unsigned d (by omega)
  rw [digits, fromStrRadix_of_unsigned rest sign.1 sign.2, ← digits]
  exact digitsLoop_toDigits low high n fits

end RoundTrip

end Radix
