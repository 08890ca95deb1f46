import ApiTypings.Binary64.Basic

/-! # Shortest decimals

A decimal names a double when it lies in the interval of reals that round to it. The interval
ends half a step below and half a step above the number, and contains its ends when the
significand is even. The shortest decimal is a multiple of the greatest power of ten that has a
multiple in that interval. Where two such multiples are equally near, a rule for ties decides.
-/

namespace ApiTypings

namespace Binary64

/-- A decimal, `coefficient * 10 ^ exponent`. -/
structure Decimal where
  coefficient : Nat
  exponent : Int
  deriving DecidableEq, Repr

/-- Which of two neighbouring multiples is taken for a number halfway between them. -/
inductive Tie where
  | greater
  | even
  deriving DecidableEq, Repr

/-- Whether a tie goes to the multiple above the given one. -/
def Tie.goesAbove (tie : Tie) (below : Nat) : Bool :=
  match tie with
  | .greater => true
  | .even => below % 2 == 1

/-- Quarters of the last place between a number and the lower end of its rounding interval: the
step below a power of two is half as wide. -/
def lowerQuarters (x : Binary64) : Nat :=
  if x.significand = 0x10000000000000 ∧ x.exponent ≠ 0 then 1 else 2

/-- The nearer of the two multiples of `10 ^ exponent` around a number among those that round to
it. -/
def decimalAt? (x : Binary64) (tie : Tie) (exponent : Int) : Option Decimal :=
  let unit := Nat.pow 10 exponent.toNat <<< 1076
  let quarter := Nat.pow 10 (-exponent).toNat <<< x.exponent
  let value := 4 * x.significand * quarter
  let low := value - x.lowerQuarters * quarter
  let high := value + 2 * quarter
  let closed := x.significand % 2 == 0
  let below := value / unit
  let above := below + 1
  let belowRounds := low < below * unit || (closed && low == below * unit)
  let aboveRounds := above * unit < high || (closed && above * unit == high)
  let middle := (below + above) * unit
  let aboveIsNearer := middle < 2 * value || (middle == 2 * value && tie.goesAbove below)
  if belowRounds && !(aboveRounds && aboveIsNearer) then
    some ⟨below, exponent⟩
  else if aboveRounds then
    some ⟨above, exponent⟩
  else
    none

/-- The first decimal that rounds to a number on ever finer grids of powers of ten. -/
def decimalBelow (x : Binary64) (tie : Tie) : Nat → Int → Decimal
  | 0, exponent =>
      ⟨x.units * Nat.pow 10 (-exponent).toNat / (Nat.pow 10 exponent.toNat <<< 1074), exponent⟩
  | grids + 1, exponent =>
      match x.decimalAt? tie exponent with
      | some decimal => decimal
      | none => decimalBelow x tie grids (exponent - 1)

/-- A power of ten not below the magnitude of a nonzero number, at most one power too great. -/
def magnitude (x : Binary64) : Int :=
  let whole := x.units >>> 1074
  if whole = 0 then
    1 - ((Nat.toDigits 10 ((1 <<< 1074) / x.units)).length : Int) + 1
  else
    ((Nat.toDigits 10 whole).length : Int)

/-- The decimal with the fewest digits that reads back as the number, and the nearest of those.
Seventeen digits always suffice. -/
def shortest (x : Binary64) (tie : Tie) : Decimal :=
  if x.isZero then ⟨0, 0⟩ else x.decimalBelow tie 20 x.magnitude

/-- The decimal in positional notation, without an exponent. -/
def Decimal.positional (d : Decimal) : String :=
  let digits := Nat.toDigits 10 d.coefficient
  match d.exponent with
  | .ofNat zeros => String.ofList (digits ++ List.replicate zeros '0')
  | .negSucc n =>
      let places := n + 1
      let padded := List.replicate (places + 1 - digits.length) '0' ++ digits
      let point := padded.length - places
      String.ofList (padded.take point ++ '.' :: padded.drop point)

def signText (x : Binary64) : String :=
  if x.negative then "-" else ""

/-- The shortest text that reads back as the number: positional at every magnitude, and without
a fraction for whole numbers. Of two texts equally near the number the greater is taken. -/
def render (x : Binary64) : String :=
  x.signText ++ (x.shortest .greater).positional

/-- The decimal with one digit before the point and a power of ten, which always has a sign. -/
def Decimal.scientific (d : Decimal) : String :=
  let digits := Nat.toDigits 10 d.coefficient
  let power := d.exponent + (digits.length - 1 : Nat)
  let fraction := digits.drop 1
  let mantissa := digits.take 1 ++ if fraction.isEmpty then [] else '.' :: fraction
  let sign := if power < 0 then '-' else '+'
  String.ofList (mantissa ++ 'e' :: sign :: Nat.toDigits 10 power.natAbs)

/-- The shortest text that reads back as the number and shows that it is no integer: whole
numbers end in `.0`, and a number with its point more than 16 places to the right or more than 4
zeros after the point has an exponent. Of two texts equally near the number the one with the even
last digit is taken. -/
def renderPointed (x : Binary64) : String :=
  let d := x.shortest .even
  let place := d.exponent + (Nat.toDigits 10 d.coefficient).length
  x.signText ++
    if place ≤ 16 && 0 ≤ d.exponent then d.positional ++ ".0"
    else if -5 < place && place ≤ 16 then d.positional
    else d.scientific

end Binary64

end ApiTypings
