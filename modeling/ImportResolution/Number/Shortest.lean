import ImportResolution.Number.Binary64

/-!
The shortest decimal of a binary number: the fewest digits that read back as the number, and of
those the digits nearest to it. For one digit, two digits and so on, the two neighbours of the
value on the decimal grid are tested against the interval of reals that round to the value; the
first grid with a hit wins.
-/
namespace ImportResolution.Binary64

/-- The numerators, over one denominator, of a positive value and of the ends of the interval that
rounds to it; the ends belong to the interval if `closed`. -/
structure Interval where
  low : Nat
  value : Nat
  high : Nat
  den : Nat
  closed : Bool

/-- The neighbour below a power of two is only half as far away as the one above. -/
def interval (significand : Nat) (exponent : Int) : Interval :=
  let below := if significand = twoPow52 ∧ leastExponent < exponent then 1 else 2
  let quarter := exponent - 2
  let scale := Nat.pow 2 quarter.toNat
  { low := (4 * significand - below) * scale
    value := 4 * significand * scale
    high := (4 * significand + 2) * scale
    den := Nat.pow 2 (-quarter).toNat
    closed := significand % 2 = 0 }

/-- Whether the fraction `num / den` lies in the interval. -/
def Interval.holds (i : Interval) (num den : Nat) : Bool :=
  let low := i.low * den
  let high := i.high * den
  let middle := num * i.den
  if i.closed then low ≤ middle && middle ≤ high else low < middle && middle < high

/-- How many decimal digits stand before the point, or, as a negative number, how many zeros stand
between the point and the first digit. -/
def decimalPoint (num den : Nat) : Int :=
  if den ≤ num then (Nat.toDigits 10 (num / den)).length
  else
    let n := (den - 1) / num
    1 - (if n = 0 then 0 else (Nat.toDigits 10 n).length : Nat)

/-- The grid neighbour of the value with the given number of digits that reads back, if there is
one; of two the nearer, and of two equally near the even one. `point` is the decimal point. -/
def gridHit? (i : Interval) (point : Int) (count : Nat) : Option Nat :=
  let step := point - count
  let up := Nat.pow 10 step.toNat
  let down := Nat.pow 10 (-step).toNat
  let scaled := i.value * down
  let unit := i.den * up
  let floor := scaled / unit
  let rest := scaled % unit
  let holds := fun n => i.holds (n * up) down
  match holds floor, holds (floor + 1) with
  | true, true =>
    if 2 * rest < unit ∨ (2 * rest = unit ∧ floor % 2 = 0) then some floor else some (floor + 1)
  | true, false => some floor
  | false, true => some (floor + 1)
  | false, false => none

/-- A decimal as its digits, without zeros at the end, and the place of the point after the first
of them. -/
structure Decimal where
  digits : Text
  point : Int
  deriving DecidableEq, Repr

/-- The shortest decimal among the grids of `count` digits and more, `tries` of them. -/
def shortestFrom (i : Interval) (point : Int) (count : Nat) : Nat → Decimal
  | 0 => ⟨['0'], 1⟩
  | tries + 1 =>
    match gridHit? i point count with
    | some n =>
      let digits := Text.ofNat n
      ⟨(digits.reverse.dropWhile (· = '0')).reverse, point + (digits.length - count : Int)⟩
    | none => shortestFrom i point (count + 1) tries

/-- The shortest decimal of a finite number; seventeen digits always suffice. -/
def shortest (significand : Nat) (exponent : Int) : Decimal :=
  if significand = 0 then ⟨['0'], 1⟩
  else
    let i := interval significand exponent
    shortestFrom i (decimalPoint i.value i.den) 1 17

/-- Notation of a number: positional for decimal exponents from -4 to 15, always with a point, and
otherwise one digit before the point and a signed exponent of at least two digits. -/
def Decimal.toText (d : Decimal) : Text :=
  if -4 < d.point ∧ d.point ≤ 16 then
    if d.point ≤ 0 then
      '0' :: '.' :: (List.replicate (-d.point).toNat '0' ++ d.digits)
    else
      let whole := d.point.toNat
      let digits := d.digits ++ List.replicate (whole + 1 - d.digits.length) '0'
      digits.take whole ++ '.' :: digits.drop whole
  else
    let exponent := d.point - 1
    let size := Text.ofNat exponent.natAbs
    let mantissa := match d.digits with
      | first :: second :: more => first :: '.' :: second :: more
      | short => short
    mantissa ++ 'e' :: (if exponent < 0 then '-' else '+')
      :: (List.replicate (2 - size.length) '0' ++ size)

/-- The text of a number in messages and answers. -/
def toText : Binary64 → Text
  | nan => "nan".toList
  | infinity negative => if negative then "-inf".toList else "inf".toList
  | finite negative m q =>
    let text := (shortest m q).toText
    if negative then '-' :: text else text

end ImportResolution.Binary64
