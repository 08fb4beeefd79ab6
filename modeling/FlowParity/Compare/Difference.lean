import FlowParity.Flow.Counter
import FlowParity.Number.Binary64
/-!
# Relative difference

How far a candidate total is from a reference total: `|candidate - reference|`
over `|reference|`. Nothing is divided by zero: against an empty reference an
empty candidate is equal and any other one is wrong as a whole, which only a
tolerance of one forgives. A tolerance is a number from zero to one, and NaN is
neither a tolerance nor within one.
-/

namespace FlowParity

/-- **The relative difference of two numbers.** -/
def Binary64.relativeDifference (candidate reference : Binary64) : Binary64 :=
  if candidate.isNaN || reference.isNaN then nan
  else if reference.isZero then if candidate.isZero then zero else one
  else (candidate.distance reference).div reference.abs

/-- **The relative difference of two counters**: their exact distance and the reference are
rounded to doubles, then divided. -/
def Counter.relativeDifference (candidate reference : Counter) : Binary64 :=
  if reference.toNat = 0 then if candidate.toNat = 0 then .zero else .one
  else
    let distance := (candidate.toNat - reference.toNat : Int).natAbs
    (Binary64.ofNat distance).div (.ofNat reference.toNat)

/-- Whether a number is a tolerance: at least zero and at most one. -/
def Binary64.isTolerance (x : Binary64) : Bool :=
  zero.le x && x.le one

/-- Whether a difference is within a tolerance. -/
def Binary64.isWithin (difference tolerance : Binary64) : Bool :=
  difference.le tolerance

end FlowParity
