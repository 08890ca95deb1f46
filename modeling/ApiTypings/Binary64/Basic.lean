/-! # Finite binary64 numbers

A finite double is an integer of at most 53 bits times a power of two, and the power is kept in
units of `2 ^ -1074`, the least positive double. Every number has one representation, so equality
of representations is equality of the numbers, the two zeros apart. Bounds on the significand are
written in hexadecimal: a one and thirteen zeros is `2 ^ 52`, twice that `2 ^ 53`.
-/

namespace ApiTypings

/-- A finite double, `± significand * 2 ^ exponent / 2 ^ 1074`. -/
structure Binary64 where
  negative : Bool
  significand : Nat
  exponent : Nat
  significand_lt : significand < 0x20000000000000
  normalized : 0x10000000000000 ≤ significand ∨ exponent = 0
  exponent_le : exponent ≤ 2045
  deriving DecidableEq, Repr

namespace Binary64

def zero : Binary64 :=
  ⟨false, 0, 0, by decide, by decide, by decide⟩

instance : Inhabited Binary64 := ⟨zero⟩

/-- Reverses the sign, also of a zero. -/
def neg (x : Binary64) : Binary64 :=
  { x with negative := !x.negative }

/-- Whether the number is one of the two zeros. -/
def isZero (x : Binary64) : Bool :=
  x.significand = 0

/-- The numerator of the magnitude over `2 ^ 1074`. -/
def units (x : Binary64) : Nat :=
  x.significand <<< x.exponent

/-- The positive number with these parts, if they are in range. -/
def ofParts? (significand exponent : Nat) : Option Binary64 :=
  if h : significand < 0x20000000000000 ∧ (0x10000000000000 ≤ significand ∨ exponent = 0) ∧
      exponent ≤ 2045 then
    some ⟨false, significand, exponent, h.1, h.2.1, h.2.2⟩
  else
    none

/-- A quotient rounded to the nearest integer, a half to the even neighbour. -/
def roundDiv (num den : Nat) : Nat :=
  let q := num / den
  let r := num % den
  if 2 * r < den || (2 * r == den && q % 2 == 0) then q else q + 1

/-- The double nearest to a ratio, a tie going to the even significand; `none` when the ratio
lies beyond the largest finite double. -/
def ofRatio? (num den : Nat) : Option Binary64 :=
  let scaled := num <<< 1074
  let exponent := (scaled / den).log2 - 52
  let significand := roundDiv scaled (den <<< exponent)
  if significand = 0x20000000000000 then
    ofParts? 0x10000000000000 (exponent + 1)
  else
    ofParts? significand exponent

/-- The double nearest to a natural number. -/
def ofNat? (n : Nat) : Option Binary64 :=
  ofRatio? n 1

/-- The double nearest to `10 ^ n`. -/
def pow10? (n : Nat) : Option Binary64 :=
  ofNat? (Nat.pow 10 n)

/-- The double nearest to the product of two positive doubles. -/
def mul? (x y : Binary64) : Option Binary64 :=
  ofRatio? (x.units * y.units) (1 <<< 2148)

/-- The double nearest to the quotient of two positive doubles. -/
def div? (x y : Binary64) : Option Binary64 :=
  ofRatio? x.units y.units

end Binary64

end ApiTypings
