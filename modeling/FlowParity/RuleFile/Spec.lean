import FlowParity.Compare.Measure
import FlowParity.Number.Binary64
import FlowParity.Time.Timestamp
/-!
# Rule files

A rule file says with which timeouts two datasets are reconciled and which rules
they are compared by. This is what stands in the file, before anything is checked:
tolerances may be any number, and networks and instants may be any text.
-/

namespace FlowParity

/-- The datasets whose instants count from the start time. -/
inductive OffsetScope
  /-- Both datasets. -/
  | both
  /-- Only the reference; the candidate has absolute times. -/
  | reference
  deriving DecidableEq, Repr

namespace OffsetScope

/-- The name of a scope. -/
def toText : OffsetScope → String
  | both => "both"
  | reference => "reference"

/-- The scope that a name in a rule file stands for. -/
def ofRuleText? (s : String) : Option OffsetScope :=
  [both, reference].find? fun scope => scope.toText = s

end OffsetScope

/-- An instant as it is written in a rule file. -/
inductive InstantSpec
  /-- A number of milliseconds. -/
  | millis (t : Timestamp)
  /-- A text. -/
  | text (s : String)
  deriving DecidableEq

/-- The instant that is meant. -/
def InstantSpec.resolve : InstantSpec → Except TimestampFault Timestamp
  | millis t => .ok t
  | text s => Timestamp.parse s

/-- The settings of a rule file. -/
structure ModelSpec where
  /-- The active timeout in seconds. -/
  active : Option Counter
  /-- The inactive timeout in seconds. -/
  inactive : Option Counter
  /-- The instant that relative times count from. -/
  startTime : Option InstantSpec
  /-- The datasets with relative times. -/
  scope : Option OffsetScope
  deriving DecidableEq

/-- A metric of a rule file. -/
structure MetricSpec where
  /-- The measure. -/
  measure : Measure
  /-- The tolerance, which may be any number. -/
  tolerance : Binary64
  deriving DecidableEq

/-- A segment of a rule file. -/
inductive SegmentSpec
  /-- The traffic between two networks. -/
  | subnet (source target : Option String) (bothWays : Bool)
  /-- The traffic between two instants. -/
  | time (start finish : Option InstantSpec)
  deriving DecidableEq

/-- A rule of a rule file. -/
structure RuleSpec where
  /-- The name. -/
  name : Option String
  /-- The metrics. -/
  metrics : List MetricSpec
  /-- The segment. -/
  segment : Option SegmentSpec
  deriving DecidableEq

/-- The name of a rule, or its position counted from one. -/
def RuleSpec.label (index : Nat) (rule : RuleSpec) : String :=
  match rule.name with
  | some name => name
  | none =>
    let number := index + 1
    s!"rule #{number}"

/-- What a rule file says. -/
structure RuleFile where
  /-- The settings. -/
  model : ModelSpec
  /-- The rules, in order. -/
  rules : List RuleSpec
  deriving DecidableEq

/-- The settings of a rule file that says nothing about them. -/
def ModelSpec.empty : ModelSpec := ⟨none, none, none, none⟩

end FlowParity
