import ImportResolution.Text

/-!
Binary floating-point numbers of 64 bits as exact values. A finite number is a sign, a significand
below `2 ^ 53` and a power of two, so reading a decimal is one rounding of a quotient of natural
numbers, and nothing depends on the processor.
-/
namespace ImportResolution

/-- A binary number of 64 bits; `finite negative m q` has the magnitude `m * 2 ^ q`. -/
inductive Binary64 where
  | nan
  | infinity (negative : Bool)
  | finite (negative : Bool) (significand : Nat) (exponent : Int)
  deriving DecidableEq, Repr

namespace Binary64

/-- The exponent of the least positive number, which is also that of zero. -/
def leastExponent : Int := -1074

/-- The exponent of the greatest finite number. -/
def greatestExponent : Int := 971

/-- The least significand of a number that has the full precision of 53 bits. -/
def twoPow52 : Nat := 4503599627370496

/-- The least number that no significand reaches. -/
def twoPow53 : Nat := 9007199254740992

/-- Zero with a sign. -/
def zero (negative : Bool) : Binary64 := finite negative 0 leastExponent

/-- A number counts as true unless it is one of the two zeros. -/
def isZero : Binary64 → Bool
  | finite _ 0 _ => true
  | _ => false

/-- The quotient to the nearest natural number, a half to the even neighbour. -/
def roundDiv (num den : Nat) : Nat :=
  let quotient := num / den
  let remainder := num % den
  if den < 2 * remainder ∨ (den = 2 * remainder ∧ quotient % 2 = 1) then quotient + 1
  else quotient

/-- The fraction divided by a power of two, again as a fraction. -/
def divPow2 (num den : Nat) (exponent : Int) : Nat × Nat :=
  if exponent < 0 then (num * Nat.pow 2 (-exponent).toNat, den)
  else (num, den * Nat.pow 2 exponent.toNat)

/-- The number nearest to a positive fraction, a half to the even significand. The exponent is the
one that leaves 53 bits before the point, or the least one. -/
def ofFraction (negative : Bool) (num den : Nat) : Binary64 :=
  if num = 0 then zero negative
  else
    let low : Int := (num.log2 : Int) - den.log2 - 53
    let (n, d) := divPow2 num den low
    let exponent := max (if n < twoPow53 * d then low else low + 1) leastExponent
    let (n, d) := divPow2 num den exponent
    let significand := roundDiv n d
    let (significand, exponent) :=
      if significand = twoPow53 then (twoPow52, exponent + 1) else (significand, exponent)
    if greatestExponent < exponent then infinity negative
    else finite negative significand exponent

/-- The number nearest to the decimal `digits * 10 ^ exponent`. A decimal whose first digit stands
far outside the range of the format is settled without computing its power of ten. -/
def ofDecimal (negative : Bool) (digits : Text) (exponent : Int) : Binary64 :=
  let digits := digits.dropWhile (· = '0')
  let magnitude := (digits.length : Int) + exponent
  if digits.isEmpty then zero negative
  else if 310 < magnitude then infinity negative
  else if magnitude < -330 then zero negative
  else
    let value := Text.digitsValue digits
    if exponent < 0 then ofFraction negative value (Nat.pow 10 (-exponent).toNat)
    else ofFraction negative (value * Nat.pow 10 exponent.toNat) 1

end Binary64
end ImportResolution
