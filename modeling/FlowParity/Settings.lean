import FlowParity.Document.Basic
import FlowParity.Reconcile
import FlowParity.RuleFile.Check
import FlowParity.Text.Fields
/-!
# Settings

How two datasets are prepared for their comparison: the timeouts of the exporter
and the start time that relative instants count from. Each setting is the one
given on the command line, else the one in the rule file, else a default. A start
time in the rule file must be an instant even where the command line overrides it.
-/

namespace FlowParity

/-- How two datasets are prepared. -/
structure Settings where
  /-- The active timeout in seconds. -/
  active : Counter
  /-- The inactive timeout in seconds. -/
  inactive : Counter
  /-- The instant that relative times count from. -/
  startTime : Option Timestamp
  /-- The datasets with relative times. -/
  scope : OffsetScope
  deriving DecidableEq

/-- The settings that a command line gives. -/
structure Overrides where
  /-- The active timeout in seconds. -/
  active : Option Counter
  /-- The inactive timeout in seconds. -/
  inactive : Option Counter
  /-- The instant that relative times count from. -/
  startTime : Option Timestamp
  /-- The datasets with relative times. -/
  scope : Option OffsetScope
  deriving DecidableEq

/-- A command line that gives no settings. -/
def Overrides.none : Overrides := ⟨.none, .none, .none, .none⟩

/-- The scope that a name on a command line stands for, in letters of either case. -/
def OffsetScope.ofText? (s : String) : Option OffsetScope :=
  let name := Text.lower s.toList
  if name = "both".toList || name = "all".toList then some both
  else if name = "reference".toList || name = "ref".toList then some reference
  else none

/-- The text of a name that stands for no scope. -/
def OffsetScope.unknownMessage (s : String) : String :=
  s!"unknown offset scope: {s}"

namespace Settings

/-- The active timeout that applies when none is given, in seconds. -/
def defaultActive : Counter := ⟨300, by decide⟩

/-- The inactive timeout that applies when none is given, in seconds. -/
def defaultInactive : Counter := ⟨30, by decide⟩

/-- The settings that apply when none are given. -/
def default : Settings := ⟨defaultActive, defaultInactive, none, .reference⟩

/-- The first of two values that is there. -/
def first {α : Type} (a b : Option α) : Option α :=
  match a with
  | some a => some a
  | none => b

/-- The start time of a rule file. -/
def startTimeOf (m : ModelSpec) : Except RuleFileFault (Option Timestamp) :=
  match m.startTime with
  | none => .ok none
  | some spec =>
    match spec.resolve with
    | .ok t => .ok (some t)
    | .error fault => .error (.startTime fault)

/-- Settings make sense if the active timeout is positive. -/
def check (s : Settings) : Except RuleFileFault Unit :=
  if s.active.toNat = 0 then .error .zeroActiveTimeout else .ok ()

/-- **The settings of a rule file under the overrides of a command line.** -/
def resolve (m : ModelSpec) (o : Overrides) : Except RuleFileFault Settings := do
  let startTime ← startTimeOf m
  let settings : Settings := {
    active := (first o.active m.active).getD defaultActive
    inactive := (first o.inactive m.inactive).getD defaultInactive
    startTime := first o.startTime startTime
    scope := (first o.scope m.scope).getD .reference }
  settings.check
  return settings

/-- The timeouts of the settings. -/
def timeouts (s : Settings) : Timeouts :=
  .ofSeconds s.active.toNat s.inactive.toNat

/-- How far the instants of the candidate are moved. -/
def candidateOffset (s : Settings) : Option Millis :=
  match s.scope with
  | .both => s.startTime
  | .reference => none

/-- How far the instants of the reference are moved. -/
def referenceOffset (s : Settings) : Option Millis := s.startTime

/-- Settings as data. -/
def toDocument (s : Settings) : Document :=
  .table [
    ("active_timeout", .nat s.active.toNat),
    ("inactive_timeout", .nat s.inactive.toNat),
    ("start_time", .orNull (fun t => .integer t.ms) s.startTime),
    ("offset_scope", .string s.scope.toText)]

end Settings

end FlowParity
