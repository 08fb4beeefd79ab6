import FlowParity.Compare.Dataset
import FlowParity.Compare.Report
import FlowParity.Compare.RuleSource
import FlowParity.Settings
/-!
# Comparisons

A comparison holds two datasets that were prepared alike and judges rules about
them. All rules are looked through before any is judged, so a list with a bad rule
gives no report at all.
-/

namespace FlowParity

open Log

/-- Two datasets and how they were prepared. -/
structure Comparison where
  /-- What is tested. -/
  candidate : Dataset
  /-- What is trusted. -/
  reference : Dataset
  /-- How they were prepared. -/
  settings : Settings
  deriving DecidableEq

/-- Why there is no comparison or no report. -/
inductive ComparisonFault
  /-- A dataset cannot be built. -/
  | dataset (role : Role) (fault : DatasetFault)
  /-- The settings make no sense. -/
  | settings (fault : RuleFileFault)
  /-- A rule cannot be built or judged. -/
  | rule (fault : RuleListFault)
  deriving DecidableEq

/-- The text of a comparison fault. -/
def ComparisonFault.message : ComparisonFault → String
  | dataset role fault => role.toText ++ " dataset: " ++ fault.message
  | settings fault => "model settings: " ++ fault.message
  | rule fault => fault.message

namespace Comparison

/-- **The comparison of two lists of records.** -/
def ofRecords (settings : Settings) (candidate reference : List Record) :
    Except ComparisonFault Comparison := do
  settings.check.mapError .settings
  let timeouts := settings.timeouts
  let candidate ←
    (Dataset.ofRecords .candidate timeouts settings.candidateOffset candidate).mapError
      fun fault => .dataset .candidate (.reversed fault)
  let reference ←
    (Dataset.ofRecords .reference timeouts settings.referenceOffset reference).mapError
      fun fault => .dataset .reference (.reversed fault)
  return ⟨candidate, reference, settings⟩

/-- **The comparison of two sources.** The candidate is built before the reference is looked at. -/
def ofSources (files : Files) (settings : Settings) (candidate reference : Source) :
    Logged ComparisonFault Comparison := do
  .ofExcept (settings.check.mapError .settings)
  let timeouts := settings.timeouts
  let candidate ← (Dataset.ofSource files .candidate timeouts settings.candidateOffset
    candidate).mapError (.dataset .candidate)
  let reference ← (Dataset.ofSource files .reference timeouts settings.referenceOffset
    reference).mapError (.dataset .reference)
  return ⟨candidate, reference, settings⟩

/-- The dataset on a side. -/
def dataset (c : Comparison) : Role → Dataset
  | .candidate => c.candidate
  | .reference => c.reference

/-- The outcome of a metric over a segment. -/
def outcome (c : Comparison) (segment : Option Segment) (metric : Metric) : Outcome where
  metric := metric
  segment := segment
  value := c.candidate.total metric.measure segment
  reference := c.reference.total metric.measure segment

/-- The outcomes of a rule, in the order of its metrics. -/
def outcomes (c : Comparison) (rule : Rule) : List Outcome :=
  rule.metrics.map (c.outcome rule.segment)

/-- The first rule that asks for a measure twice. -/
def firstRepetition? (rules : List Rule) : Option RuleListFault :=
  rules.zipIdx.findSome? fun (rule, index) =>
    rule.repeatedMeasure?.map fun m => ⟨index, Rule.label index rule.name, .repeatedMeasure m⟩

/-- **The report on a list of rules**, or the first of them that asks for a measure twice. -/
def judge (c : Comparison) (rules : List Rule) : Except RuleListFault Report :=
  match firstRepetition? rules with
  | some fault => .error fault
  | none => .ok ⟨rules.flatMap c.outcomes⟩

/-- The event of an outcome. -/
def outcomeEvent (o : Outcome) : Event where
  severity := .debug
  target := Dataset.logTarget
  recorded := [
    ("message", some (.string "Computed outcome")),
    ("event", some (.string "evaluate.outcome")),
    ("stage", some (.string Stage.evaluate.toText)),
    ("metric", some (.string o.metric.measure.toText)),
    ("value", some (.nat o.value.toNat)),
    ("reference", some (.nat o.reference.toNat)),
    ("diff", some (.float o.difference)),
    ("tolerance", some (.float o.metric.tolerance)),
    ("passed", some (.bool o.isPassing))]

/-- The event of a rule that has been judged. -/
def ruleEvent (index : Nat) (rule : Rule) : Event where
  severity := .debug
  target := Dataset.logTarget
  recorded := [
    ("message", some (.string "Evaluated rule")),
    ("event", some (.string "evaluate.rule_done")),
    ("stage", some (.string Stage.evaluate.toText)),
    ("rule", some (.string (Rule.label index rule.name))),
    ("metrics", some (.nat rule.metrics.length))]

/-- The event of a finished report. -/
def reportEvent (rules : List Rule) (report : Report) : Event where
  severity := .info
  target := Dataset.logTarget
  recorded := [
    ("message", some (.string "Validation finished")),
    ("event", some (.string "evaluate.finished")),
    ("stage", some (.string Stage.evaluate.toText)),
    ("rules", some (.nat rules.length)),
    ("tests", some (.nat report.outcomes.length)),
    ("failed", some (.nat report.failed.length)),
    ("passed", some (.bool report.isPassing))]

/-- The events of judging a list of rules. -/
def judgeEvents (c : Comparison) (rules : List Rule) (report : Report) : List Event :=
  let perRule := rules.zipIdx.flatMap fun (rule, index) =>
    (c.outcomes rule).map outcomeEvent ++ [ruleEvent index rule]
  perRule ++ [reportEvent rules report]

/-- The report on a list of rules, with its events. -/
def report (c : Comparison) (rules : List Rule) : Logged ComparisonFault Report :=
  match c.judge rules with
  | .ok report => ⟨c.judgeEvents rules report, .ok report⟩
  | .error fault => ⟨[], .error (.rule fault)⟩

end Comparison

end FlowParity
