import FlowParity.Compare.Metric
import FlowParity.Compare.Segment
/-!
# Outcomes

An outcome is one metric judged over one segment: the two totals, from which the
difference and the verdict follow.
-/

namespace FlowParity

/-- One metric judged over one segment. -/
structure Outcome where
  /-- The metric. -/
  metric : Metric
  /-- The segment, the whole traffic if absent. -/
  segment : Option Segment
  /-- The total of the candidate. -/
  value : Counter
  /-- The total of the reference. -/
  reference : Counter
  deriving DecidableEq

namespace Outcome

/-- The relative difference of the totals. -/
def difference (o : Outcome) : Binary64 :=
  o.value.relativeDifference o.reference

/-- **The verdict**: the difference is within the tolerance. -/
def isPassing (o : Outcome) : Bool :=
  o.difference.isWithin o.metric.tolerance

/-- The text of the segment. -/
def label? (o : Outcome) : Option String :=
  o.segment.map Segment.toText

end Outcome

end FlowParity
