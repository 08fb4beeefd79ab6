import FlowParity.Compare.Difference
import FlowParity.Compare.Measure
import FlowParity.Document.Basic
import FlowParity.Number.Notation
/-!
# Metrics

A metric says how much two datasets may differ in one measure. Its tolerance is a
tolerance by construction.
-/

namespace FlowParity

/-- A measure and the largest relative difference that is still accepted. -/
structure Metric where
  /-- The measure. -/
  measure : Measure
  /-- The tolerance. -/
  tolerance : Binary64
  /-- The tolerance lies between zero and one. -/
  isTolerance : tolerance.isTolerance = true
  deriving DecidableEq

/-- A number that was given as the tolerance of a metric and is none. -/
structure ToleranceFault where
  /-- The measure. -/
  measure : Measure
  /-- The number. -/
  tolerance : Binary64
  deriving DecidableEq

/-- The text of a tolerance fault. -/
def ToleranceFault.message (fault : ToleranceFault) : String :=
  let tolerance := fault.tolerance.toText
  let measure := fault.measure.toText
  s!"tolerance {tolerance} for {measure} is outside the interval [0.0, 1.0]"

namespace Metric

/-- The metric of a measure and a number that is a tolerance. -/
def of (measure : Measure) (tolerance : Binary64) : Except ToleranceFault Metric :=
  if h : tolerance.isTolerance then .ok ⟨measure, tolerance, h⟩ else .error ⟨measure, tolerance⟩

/-- A metric as data. -/
def toDocument (m : Metric) : Document :=
  .table [("key", .string m.measure.toText), ("tolerance", .float m.tolerance)]

end Metric

end FlowParity
