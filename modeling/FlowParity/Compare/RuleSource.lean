import FlowParity.Compare.Rule
import FlowParity.RuleFile.Spec
/-!
# Rules of a rule file

Turns what stands in a rule file into rules: numbers into tolerances, texts into
networks and instants. The first thing that cannot be turned is the fault. Whether
a rule makes sense beyond that is not asked here.
-/

namespace FlowParity

/-- Why a rule cannot be built or judged. -/
inductive RuleFault
  /-- A measure occurs twice. -/
  | repeatedMeasure (measure : Measure)
  /-- A number is no tolerance. -/
  | tolerance (fault : ToleranceFault)
  /-- The segment cannot be built. -/
  | segment (fault : SegmentFault)
  deriving DecidableEq

/-- The text of a rule fault. -/
def RuleFault.message : RuleFault → String
  | repeatedMeasure measure =>
    let name := measure.toText
    s!"metric {name} used more than once"
  | tolerance fault => fault.message
  | segment fault => fault.message

/-- A fault of the rule at a position counted from zero. -/
structure RuleListFault where
  /-- The position. -/
  index : Nat
  /-- What the rule is called. -/
  rule : String
  /-- What is wrong with it. -/
  fault : RuleFault
  deriving DecidableEq

/-- The text of a fault in a list of rules. -/
def RuleListFault.message (f : RuleListFault) : String :=
  f.rule ++ ": " ++ f.fault.message

namespace Rule

/-- The metric of a rule file. -/
def metricOf (spec : MetricSpec) : Except RuleFault Metric :=
  match Metric.of spec.measure spec.tolerance with
  | .ok m => .ok m
  | .error fault => .error (.tolerance fault)

/-- The instant that is written at a bound. -/
def boundOf : Option InstantSpec → Except RuleFault (Option Timestamp)
  | none => .ok none
  | some spec =>
    match spec.resolve with
    | .ok t => .ok (some t)
    | .error fault => .error (.segment (.timeBound fault))

/-- The segment of a rule file. -/
def segmentOf : SegmentSpec → Except RuleFault Segment
  | .subnet source target bothWays =>
    match SubnetPair.parse source target bothWays with
    | .ok pair => .ok (.subnet pair)
    | .error fault => .error (.segment fault)
  | .time start finish => do
    let start ← boundOf start
    let finish ← boundOf finish
    return .time ⟨start, finish⟩

/-- The segment of a rule file that may be absent. -/
def segmentOf? : Option SegmentSpec → Except RuleFault (Option Segment)
  | none => .ok none
  | some spec => do
    let segment ← segmentOf spec
    return some segment

/-- **The rule of a rule file**: its metrics first, then its segment. -/
def ofSpec (spec : RuleSpec) : Except RuleFault Rule := do
  let metrics ← spec.metrics.mapM metricOf
  let segment ← segmentOf? spec.segment
  return ⟨metrics, segment, spec.name⟩

/-- The rules from a position on. -/
def ofSpecs (index : Nat) : List RuleSpec → Except RuleListFault (List Rule)
  | [] => .ok []
  | spec :: rest => do
    let rule ← match ofSpec spec with
      | .ok rule => .ok rule
      | .error fault => .error ⟨index, label index spec.name, fault⟩
    let later ← ofSpecs (index + 1) rest
    return rule :: later

/-- **The rules of a rule file**, in order. -/
def ofFile (f : RuleFile) : Except RuleListFault (List Rule) :=
  ofSpecs 0 f.rules

end Rule

end FlowParity
