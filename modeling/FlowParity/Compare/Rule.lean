import FlowParity.Compare.Metric
import FlowParity.Compare.Segment
/-!
# Rules

A rule asks for a list of metrics over one segment. Each measure may be asked for
once; a rule that repeats one can be written down but not judged.
-/

namespace FlowParity

/-- Metrics over one segment. -/
structure Rule where
  /-- The metrics, in the order of their outcomes. -/
  metrics : List Metric
  /-- The segment, the whole traffic if absent. -/
  segment : Option Segment
  /-- The name. -/
  name : Option String
  deriving DecidableEq

namespace Rule

/-- The first member of a list that has already occurred in it. -/
def firstRepeated? (measures : List Measure) : Option Measure :=
  measures.zipIdx.findSome? fun (m, i) => if m ∈ measures.take i then some m else none

/-- The first measure that the rule asks for again. -/
def repeatedMeasure? (r : Rule) : Option Measure :=
  firstRepeated? (r.metrics.map Metric.measure)

/-- What a rule is called in diagnostics, by its name or by its position from zero. -/
def label (index : Nat) (name : Option String) : String :=
  match name with
  | some name => s!"rule '{name}'"
  | none =>
    let number := index + 1
    s!"rule #{number}"

/-- A rule as data. -/
def toDocument (r : Rule) : Document :=
  .table ([
    ("metrics", .list (r.metrics.map Metric.toDocument)),
    ("segment", .orNull Segment.toDocument r.segment)]
    ++ Document.optional "name" .string r.name)

end Rule

end FlowParity
