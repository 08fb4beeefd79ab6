import FlowParity.Number.Binary64
import FlowParity.Text.Integer
/-!
# Doubles from decimal text

Two ways to turn the digits of a decimal into a double. `ofDecimal` rounds the
exact value once. `ofSignificand` rounds the significand and then scales it by a
rounded power of ten; it is quicker and may miss the nearest double by a bit.
Rule files in one format use the first and in the other the second.
-/

namespace FlowParity.Binary64

/-- The double nearest to `n * 10 ^ exponent`. Exponents far outside the range of doubles are
decided by the number of digits, without forming the power of ten. -/
def ofDecimal (negative : Bool) (n : Nat) (exponent : Int) : Binary64 :=
  let top := (Nat.log2 n : Int) + 1
  if n = 0 then signedZero negative
  else if 400 < exponent then infinite negative
  else if exponent < -(top + 400) then signedZero negative
  else if 0 ≤ exponent then ofRatio negative (n * Nat.pow 10 exponent.toNat) 1
  else ofRatio negative n (Nat.pow 10 (-exponent).toNat)

/-- Divides by `10 ^ 308` as often as the exponent asks for, then once by what is left of it. A zero
stays zero. -/
def scaleDown (x : Binary64) : Nat → Nat → Binary64
  | 0, exponent => div x (ofNat (Nat.pow 10 exponent))
  | fuel + 1, exponent =>
    if exponent ≤ 308 then div x (ofNat (Nat.pow 10 exponent))
    else if x.isZero then x
    else scaleDown (div x (ofNat (Nat.pow 10 308))) fuel (exponent - 308)

/-- The double of a significand below `2 ^ 64` times a power of ten: the significand is rounded, and
so is one product or quotient for each factor of up to `10 ^ 308`. There is none if the number is
too large. -/
def ofSignificand? (negative : Bool) (significand : Nat) (exponent : Int) : Option Binary64 :=
  let x := ofNat significand
  let scaled :=
    if exponent < 0 then some (scaleDown x 8 (-exponent).toNat)
    else if exponent ≤ 308 then some (mul x (ofNat (Nat.pow 10 exponent.toNat)))
    else if x.isZero then some x else none
  match scaled with
  | some y => if y.isFinite then some (if negative then neg y else y) else none
  | none => none

end FlowParity.Binary64
