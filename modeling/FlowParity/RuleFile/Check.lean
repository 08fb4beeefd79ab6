import FlowParity.Compare.Difference
import FlowParity.Files
import FlowParity.Net.Network
import FlowParity.RuleFile.Spec
import FlowParity.Number.Notation
/-!
# Checking rule files

A rule file that can be read may still ask for what makes no sense: a tolerance
above one, a measure twice in a rule, a text that is no network, a window that
ends before it starts. Checking goes through the file from the settings down and
reports the first fault.
-/

namespace FlowParity

/-- The formats of rule files. -/
inductive RuleFormat
  /-- TOML. -/
  | toml
  /-- JSON. -/
  | json
  deriving DecidableEq, Repr

/-- The name of a format. -/
def RuleFormat.toText : RuleFormat → String
  | toml => "TOML"
  | json => "JSON"

/-- The sides of a pair of networks. -/
inductive Side
  /-- The sender. -/
  | source
  /-- The receiver. -/
  | target
  deriving DecidableEq, Repr

/-- The name of a side in a rule file. -/
def Side.toText : Side → String
  | source => "source"
  | target => "dest"

/-- The ends of a window of time. -/
inductive Bound
  /-- The first instant. -/
  | start
  /-- The last instant. -/
  | finish
  deriving DecidableEq, Repr

/-- The name of a bound in a rule file. -/
def Bound.toText : Bound → String
  | start => "start"
  | finish => "end"

/-- Why a rule file cannot be used. Rules and metrics are counted from zero. -/
inductive RuleFileFault
  /-- The file cannot be read. -/
  | unreadable (path : String) (fault : FileFault)
  /-- The text is no rule file of its format. -/
  | unparseable (format : RuleFormat)
  /-- The start time is no instant. -/
  | startTime (fault : TimestampFault)
  /-- The active timeout is zero. -/
  | zeroActiveTimeout
  /-- There is no rule. -/
  | noRules
  /-- A rule has no metric. -/
  | noMetrics (rule : String)
  /-- The tolerance of a metric is none. -/
  | tolerance (rule metric : Nat) (number : Binary64)
  /-- A rule asks for a measure twice. -/
  | repeatedMeasure (rule : String) (measure : Measure)
  /-- A text is no network. -/
  | network (rule : Nat) (side : Side) (fault : NetworkFault)
  /-- A text is no instant. -/
  | instant (rule : Nat) (bound : Bound) (fault : TimestampFault)
  /-- A window of time ends before it starts. -/
  | reversedWindow (rule : String) (start finish : Timestamp)
  deriving DecidableEq

namespace RuleFileFault

/-- The field that a fault is about and what is wrong with its value. -/
def field? : RuleFileFault → Option (String × String)
  | startTime fault => some ("model.start_time", fault.message)
  | zeroActiveTimeout => some ("model.active_timeout", "Must be positive, got 0")
  | tolerance rule metric number =>
    let text := number.toText
    some (s!"rules[{rule}].metrics[{metric}].tolerance", s!"Must be in [0, 1], got {text}")
  | network rule side fault =>
    let name := side.toText
    some (s!"rules[{rule}].segment.subnet.{name}", fault.message)
  | instant rule bound fault =>
    let name := bound.toText
    some (s!"rules[{rule}].segment.time.{name}", fault.message)
  | _ => none

/-- What a fault says of the rules as a whole. -/
def meaning? : RuleFileFault → Option String
  | noRules => some "rule file defines no rules"
  | noMetrics rule => some s!"{rule} has no metrics"
  | reversedWindow rule start finish =>
    let start := start.toText
    let finish := finish.toText
    some s!"{rule}: time segment starts after it ends ({start} > {finish})"
  | _ => none

/-- The text of a rule file fault. -/
def message (fault : RuleFileFault) : String :=
  match fault with
  | unreadable path fault =>
    let reason := fault.message
    s!"I/O error: Failed to read {path}: {reason}"
  | unparseable format =>
    let name := format.toText
    s!"Parse error: Invalid {name}"
  | repeatedMeasure rule measure =>
    let name := measure.toText
    s!"Duplicate metric {name} in {rule}"
  | _ =>
    match fault.field?, fault.meaning? with
    | some (field, problem), _ => s!"Invalid value for {field}: {problem}"
    | none, some problem => s!"Semantic validation failed: {problem}"
    | none, none => ""

/-- The code of a rule file fault. -/
def code : RuleFileFault → Nat
  | unreadable .. => 60
  | unparseable _ => 61
  | noRules | noMetrics _ | reversedWindow .. => 63
  | repeatedMeasure .. => 20
  | startTime _ | zeroActiveTimeout | tolerance .. | network .. | instant .. => 65

end RuleFileFault

namespace RuleSpec

/-- Goes through the metrics of a rule from the metric at `position` on: each tolerance is one, and
no measure has been seen before. -/
def checkMetrics (index : Nat) (label : String) (seen : List Measure) (position : Nat) :
    List MetricSpec → Except RuleFileFault Unit
  | [] => .ok ()
  | m :: rest =>
    if !m.tolerance.isTolerance then .error (.tolerance index position m.tolerance)
    else if m.measure ∈ seen then .error (.repeatedMeasure label m.measure)
    else checkMetrics index label (m.measure :: seen) (position + 1) rest

/-- Whether a text that may be absent names a network. -/
def checkNetwork (index : Nat) (side : Side) : Option String → Except RuleFileFault Unit
  | none => .ok ()
  | some text =>
    match Network.parse text with
    | .ok _ => .ok ()
    | .error fault => .error (.network index side fault)

/-- The instant that is written at a bound. -/
def checkInstant (index : Nat) (bound : Bound) :
    Option InstantSpec → Except RuleFileFault (Option Timestamp)
  | none => .ok none
  | some spec =>
    match spec.resolve with
    | .ok t => .ok (some t)
    | .error fault => .error (.instant index bound fault)

/-- Checks the segment of a rule. -/
def checkSegment (index : Nat) (label : String) : Option SegmentSpec → Except RuleFileFault Unit
  | none => .ok ()
  | some (.subnet source target _) => do
    checkNetwork index .source source
    checkNetwork index .target target
  | some (.time start finish) => do
    let start ← checkInstant index .start start
    let finish ← checkInstant index .finish finish
    match start, finish with
    | some start, some finish =>
      if finish < start then .error (.reversedWindow label start finish) else .ok ()
    | _, _ => .ok ()

/-- **Checks the rule at a position** counted from zero. -/
def check (index : Nat) (rule : RuleSpec) : Except RuleFileFault Unit := do
  let label := rule.label index
  if rule.metrics.isEmpty then .error (.noMetrics label)
  checkMetrics index label [] 0 rule.metrics
  checkSegment index label rule.segment

end RuleSpec

namespace RuleFile

/-- Checks the settings of a rule file. -/
def checkModel (m : ModelSpec) : Except RuleFileFault Unit :=
  match m.startTime.map InstantSpec.resolve with
  | some (.error fault) => .error (.startTime fault)
  | _ =>
    if m.active.any fun seconds => seconds.toNat = 0 then .error .zeroActiveTimeout else .ok ()

/-- Checks the rules from a position on. -/
def checkRules (index : Nat) : List RuleSpec → Except RuleFileFault Unit
  | [] => .ok ()
  | rule :: rest => do
    rule.check index
    checkRules (index + 1) rest

/-- **Checks a rule file**: its settings, that there is a rule, and each rule in turn. -/
def check (f : RuleFile) : Except RuleFileFault Unit := do
  checkModel f.model
  if f.rules.isEmpty then .error .noRules
  checkRules 0 f.rules

end RuleFile

end FlowParity
