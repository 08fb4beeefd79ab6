import FlowParity.Number.Binary64
/-!
# The shortest decimal of a double

A double is shown with the fewest digits that read back as the same double, and
among those with the nearest ones. The decimals that read back fill an interval
around the double, half way to either neighbour, with its ends when the
magnitude is even. For each number of digits only the two points of the decimal
grid next to the value can be nearest, so only these are tried. Both may be equally
near, and then the kind of text decides (`Tie`).
-/

namespace FlowParity

/-- A positive decimal `0.d₁d₂… * 10 ^ point`: its first and last digits are not zero. -/
structure Decimal where
  /-- The digits, each below ten. -/
  digits : List Nat
  /-- How many digits stand before the decimal point. -/
  point : Int
  deriving DecidableEq, Repr

namespace Decimal

/-- The digits of a number, most significant first, in front of `acc`. -/
def digitsOf (fuel n : Nat) (acc : List Nat) : List Nat :=
  match fuel with
  | 0 => acc
  | fuel + 1 => if n < 10 then n :: acc else digitsOf fuel (n / 10) (n % 10 :: acc)

/-- The decimal digits of a number. -/
def ofNatDigits (n : Nat) : List Nat :=
  digitsOf (Nat.log2 n + 1) n []

/-- The decimal of `n * 10 ^ exponent`, without its trailing zeros. -/
def ofScaled (n : Nat) (exponent : Int) : Decimal :=
  let digits := ofNatDigits n
  { digits := (digits.reverse.dropWhile (· = 0)).reverse
    point := digits.length + exponent }

/-- Numerator and denominator of `10 ^ e`. -/
def powerOfTen (e : Int) : Nat × Nat :=
  if 0 ≤ e then (Nat.pow 10 e.toNat, 1) else (1, Nat.pow 10 (-e).toNat)

/-- The exponent `e` with `10 ^ (e - 1) ≤ num / den < 10 ^ e`, for a value that is no power of ten
below one. -/
def leadingExponent (num den : Nat) : Int :=
  if den ≤ num then (ofNatDigits (num / den)).length
  else 1 - ((ofNatDigits (den / num)).length : Int)

end Decimal

/-- Which of two equally near decimals is taken. -/
inductive Tie
  /-- The larger one. -/
  | up
  /-- The one whose last digit is even. -/
  | even
  deriving DecidableEq, Repr

/-- Whether the lower one of two equally near numbers is taken. -/
def Tie.takesLower (tie : Tie) (lower : Nat) : Bool :=
  match tie with
  | up => false
  | even => lower % 2 = 0

namespace Binary64

/-- The decimal with `count` digits nearest to the double of a positive magnitude, if one with that
many digits reads back. -/
def decimalOfLength? (tie : Tie) (magnitude count : Nat) : Option Decimal :=
  let here := 2 * units magnitude
  let low := units magnitude + units (magnitude - 1)
  let high := units magnitude + units (magnitude + 1)
  let one := 2 * unitsPerOne
  let exponent := Decimal.leadingExponent here one - count
  let (up, down) := Decimal.powerOfTen exponent
  let below := here * down / (one * up)
  let readsBack (n : Nat) : Bool :=
    let value := n * up * one
    if magnitude % 2 = 0 then low * down ≤ value && value ≤ high * down
    else low * down < value && value < high * down
  let farBelow := here * down - below * up * one
  let farAbove := (below + 1) * up * one - here * down
  match readsBack below, readsBack (below + 1) with
  | true, true =>
    let lower := farBelow < farAbove || (farBelow = farAbove && tie.takesLower below)
    some (Decimal.ofScaled (if lower then below else below + 1) exponent)
  | true, false => some (Decimal.ofScaled below exponent)
  | false, true => some (Decimal.ofScaled (below + 1) exponent)
  | false, false => none

/-- The shortest decimal of a positive magnitude. Seventeen digits always suffice. -/
def shortest (tie : Tie) (magnitude : Nat) : Decimal :=
  ((List.range' 1 17).findSome? (decimalOfLength? tie magnitude)).getD ⟨[0], 1⟩

end Binary64

end FlowParity
