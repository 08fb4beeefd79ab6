import FlowParity.Document.JsonText
import FlowParity.Log.Severity
import FlowParity.Text.Inspected
import FlowParity.Time.Timestamp
/-!
# Events

An event is what the program tells its log: a severity, where it comes from, and
named values. Four names say what kind of event it is and to which run and stage
it belongs; they stand at the top of its line, and all others below `fields`. A
name may be declared without a value.
-/

namespace FlowParity.Log

/-- The stages of a run. -/
inductive Stage
  /-- The rule file is loaded. -/
  | init
  /-- Flow files are read. -/
  | load
  /-- Pieces of flows are put together. -/
  | reconcile
  /-- Rules are judged. -/
  | evaluate
  /-- The report is written. -/
  | report
  deriving DecidableEq, Repr

namespace Stage

/-- All stages, in order. -/
def all : List Stage := [init, load, reconcile, evaluate, report]

/-- The name of a stage. -/
def toText : Stage → String
  | init => "init"
  | load => "load"
  | reconcile => "reconcile"
  | evaluate => "evaluate"
  | report => "report"

/-- The stage of a name. -/
def ofText? (s : String) : Option Stage :=
  all.find? fun stage => stage.toText = s

end Stage

/-- How a text is recorded. -/
inductive Recording
  /-- As it is. -/
  | plain
  /-- To be looked at: in quotes, with what cannot be seen written out. -/
  | inspected
  deriving DecidableEq, Repr

/-- The text that is recorded. -/
def Recording.apply : Recording → String → String
  | plain, s => s
  | inspected, s => Text.inspected s

/-- Something that is told to the log. -/
structure Event where
  /-- How serious it is. -/
  severity : Severity
  /-- Where it comes from. -/
  target : String
  /-- The declared names, with their values where there are any. -/
  recorded : List (String × Option Document)

/-- The names that stand at the top of a line. -/
def topNames : List String := ["message", "event", "stage", "run_id"]

/-- A value as it is logged: numbers that are not finite are left out. -/
def loggable : Document → Option Document
  | .float x => if x.isFinite then some (.float x) else none
  | d => some d

namespace Event

/-- The names with a value that is logged. -/
def members (e : Event) : List (String × Document) :=
  e.recorded.filterMap fun (name, value) => (value.bind loggable).map (name, ·)

/-- The members at the top of the line. -/
def topMembers (e : Event) : List (String × Document) :=
  e.members.filter fun m => topNames.contains m.1

/-- The members below `fields`. -/
def fieldMembers (e : Event) : List (String × Document) :=
  e.members.filter fun m => !topNames.contains m.1

/-- The declared names. -/
def names (e : Event) : List String :=
  e.recorded.map Prod.fst

end Event

/-- An event of a run as the command line reports it: complete, with fields of any kind. -/
structure Notice where
  /-- How serious it is. -/
  severity : Severity
  /-- The kind of event. -/
  event : String
  /-- The run. -/
  runId : String
  /-- The stage. -/
  stage : Stage
  /-- What happened. -/
  message : String
  /-- More about it; of fields with one name the last counts. -/
  fields : List (String × Document)

namespace Notice

/-- The fields in the order of their names. -/
def fieldTable (n : Notice) : Document :=
  (Document.table n.fields).sorted

/-- The notice as one line of JSON, with the time when it happened. -/
def toJson (time : Timestamp) (n : Notice) : String :=
  let fields := if n.fields.isEmpty then [] else [("fields", n.fieldTable)]
  (Document.table ([
    ("ts", .string time.formatBrief),
    ("level", .string n.severity.toText),
    ("event", .string n.event),
    ("run_id", .string n.runId),
    ("stage", .string n.stage.toText),
    ("message", .string n.message)] ++ fields)).compact

/-- The event that a notice becomes in the log: all its fields are one text. -/
def toEvent (n : Notice) : Event where
  severity := n.severity
  target := "ft_analyzer::logging"
  recorded := [
    ("message", some (.string n.message)),
    ("event", some (.string n.event)),
    ("run_id", some (.string n.runId)),
    ("stage", some (.string n.stage.toText)),
    ("extra", if n.fields.isEmpty then none else some (.string n.fieldTable.compact))]

end Notice

end FlowParity.Log
