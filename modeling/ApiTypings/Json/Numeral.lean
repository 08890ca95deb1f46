import ApiTypings.Json.Basic

/-! # Reading numbers

A number is an optional minus sign, digits without a leading zero, and optionally a fraction and
an exponent. Integers that fit in 64 bits stay exact. Any other number becomes a double in two
rounded steps: the leading digits, as many as fit in 64 bits, are one integer, and that integer
is scaled by a power of ten.
-/

namespace ApiTypings

namespace Json

/-- The digits of a number as written. -/
structure Numeral where
  negative : Bool
  whole : List Char
  fraction : Option (List Char)
  /-- Whether the exponent is negative, and its digits. -/
  exponent : Option (Bool × List Char)

namespace Numeral

/-- Splits off a nonempty run of digits. -/
def digits? (cs : List Char) : Option (List Char × List Char) :=
  match cs.span Char.isDigit with
  | ([], _) => none
  | (digits, rest) => some (digits, rest)

/-- Splits off the digits before the point: a single zero, or a run that starts with none. -/
def whole? : List Char → Option (List Char × List Char)
  | '0' :: rest => if rest.head?.any Char.isDigit then none else some (['0'], rest)
  | cs => digits? cs

/-- Splits off the fraction, if a point follows. -/
def fraction? : List Char → Option (Option (List Char) × List Char)
  | '.' :: rest => (digits? rest).map fun (digits, rest) => (some digits, rest)
  | cs => some (none, cs)

/-- Splits off the exponent, if its mark follows. -/
def exponent? : List Char → Option (Option (Bool × List Char) × List Char)
  | 'e' :: rest | 'E' :: rest =>
      let (negative, rest) : Bool × List Char :=
        match rest with
        | '-' :: rest => (true, rest)
        | '+' :: rest => (false, rest)
        | rest => (false, rest)
      (digits? rest).map fun (digits, rest) => (some (negative, digits), rest)
  | cs => some (none, cs)

/-- Splits off a number. -/
def read? (cs : List Char) : Option (Numeral × List Char) := do
  let (negative, cs) : Bool × List Char :=
    match cs with
    | '-' :: rest => (true, rest)
    | cs => (false, cs)
  let (whole, cs) ← whole? cs
  let (fraction, cs) ← fraction? cs
  let (exponent, cs) ← exponent? cs
  return ({ negative, whole, fraction, exponent }, cs)

def digitValue (c : Char) : Nat :=
  c.toNat - '0'.toNat

def natValue (digits : List Char) : Nat :=
  digits.foldl (fun n c => 10 * n + digitValue c) 0

/-- Appends digits to an integer until one no longer fits in 64 bits; the digits from there on
are returned. -/
def absorb (n : Nat) : List Char → Nat × List Char
  | [] => (n, [])
  | c :: cs =>
      let next := 10 * n + digitValue c
      if next < 0x10000000000000000 then absorb next cs else (n, c :: cs)

/-- The leading digits as one integer, and the power of ten that puts them in their place. -/
def leading (x : Numeral) : Nat × Int :=
  let (whole, dropped) := absorb 0 x.whole
  let fraction := x.fraction.getD []
  let (all, rest) := absorb whole fraction
  (all, (dropped.length : Int) - (fraction.length - rest.length : Nat))

/-- A natural number, rounded and scaled by a power of ten; `none` beyond the doubles. The
scaling divides by at most `10 ^ 308` at a time. -/
def scale? (n : Nat) (exponent : Int) : Option Binary64 := do
  let base ← Binary64.ofNat? n
  if base.isZero then
    return base
  match exponent with
  | .ofNat power =>
      if power ≤ 308 then base.mul? (← Binary64.pow10? power) else none
  | .negSucc k =>
      let power := k + 1
      if power ≤ 308 then
        base.div? (← Binary64.pow10? power)
      else if power ≤ 616 then
        let reduced ← base.div? (← Binary64.pow10? 308)
        reduced.div? (← Binary64.pow10? (power - 308))
      else
        return Binary64.zero

/-- The magnitude of a number as a double; `none` beyond the doubles. Exponents of more than 31
bits count as infinite. -/
def magnitude? (x : Numeral) : Option Binary64 :=
  let (n, place) := x.leading
  match x.exponent with
  | none => scale? n place
  | some (negative, digits) =>
      let power := natValue digits
      if power < 0x80000000 then
        scale? n (if negative then place - power else place + power)
      else if n = 0 || negative then
        some Binary64.zero
      else
        none

def double? (x : Numeral) : Option Binary64 :=
  x.magnitude?.map fun d => if x.negative then d.neg else d

/-- The number denoted. An integer within 64 bits stays an integer, but a negative zero is a
double. -/
def number? (x : Numeral) : Option Number :=
  let n := natValue x.whole
  let isInteger := x.fraction.isNone && x.exponent.isNone
  if isInteger && !x.negative && n < 0x10000000000000000 then
    some (.integer n)
  else if isInteger && x.negative && 0 < n && n ≤ 0x8000000000000000 then
    some (.integer (-n))
  else
    x.double?.map .double

end Numeral

end Json

end ApiTypings
