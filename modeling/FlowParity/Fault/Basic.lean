import FlowParity.Document.JsonText
/-!
# Faults

Whatever stops a run ends up as one kind of fault, with a number and a category
that stay the same from version to version, a message, and advice. The category
decides the exit code.
-/

namespace FlowParity

/-- Groups of faults. -/
inductive Category
  /-- Flow files. -/
  | input
  /-- Rules. -/
  | rule
  /-- Numbers out of their range. -/
  | parameter
  /-- Rule files and settings. -/
  | configuration
  /-- Output. -/
  | output
  deriving DecidableEq, Repr

namespace Category

/-- All categories. -/
def all : List Category := [input, rule, parameter, configuration, output]

/-- The name of a category. -/
def toText : Category → String
  | input => "input"
  | rule => "rule"
  | parameter => "parameter"
  | configuration => "config"
  | output => "io"

/-- The category of a name. -/
def ofText? (s : String) : Option Category :=
  all.find? fun c => c.toText = s

end Category

/-- What stops a run. -/
inductive Fault
  /-- There is no flow file at a path. -/
  | fileNotFound (path : String)
  /-- A flow file cannot be read. -/
  | unreadable (path message : String)
  /-- A line of a flow file is malformed; line zero stands for the file. -/
  | malformedFlow (path : String) (line : Nat) (message : String)
  /-- Records cannot be put in order. -/
  | reconciliation (message : String)
  /-- A rule asks for a measure twice. -/
  | duplicateMetric (metric : String)
  /-- A rule cannot be built. -/
  | invalidRule (message : String)
  /-- A number is no tolerance. -/
  | toleranceOutOfRange (tolerance : Binary64)
  /-- A rule file cannot be used. -/
  | configuration (message : String)
  /-- Output fails. -/
  | output (message : String)
  deriving DecidableEq

namespace Fault

/-- The number of a fault. -/
def code : Fault → Nat
  | fileNotFound _ => 10
  | unreadable .. => 11
  | malformedFlow .. => 12
  | reconciliation _ => 13
  | duplicateMetric _ => 20
  | invalidRule _ => 21
  | toleranceOutOfRange _ => 30
  | configuration _ => 40
  | output _ => 60

/-- The category of a fault. -/
def category : Fault → Category
  | fileNotFound _ | unreadable .. | malformedFlow .. | reconciliation _ => .input
  | duplicateMetric _ | invalidRule _ => .rule
  | toleranceOutOfRange _ => .parameter
  | configuration _ => .configuration
  | output _ => .output

/-- What went wrong. -/
def message : Fault → String
  | fileNotFound path => s!"flow file not found: {path}"
  | unreadable path message => s!"cannot read flow file {path}: {message}"
  | malformedFlow path line message => s!"{path}:{line}: {message}"
  | reconciliation message => s!"flow reconciliation failed: {message}"
  | duplicateMetric metric => s!"metric {metric} used more than once in a single rule"
  | invalidRule message => s!"invalid rule: {message}"
  | toleranceOutOfRange tolerance =>
    let text := tolerance.toText
    s!"tolerance {text} is outside the interval [0.0, 1.0]"
  | configuration message => s!"configuration error: {message}"
  | output message => s!"I/O error: {message}"

/-- A short name for a fault. -/
def headline : Fault → String
  | fileNotFound _ => "Flow File Not Found"
  | unreadable .. => "Flow File Unreadable"
  | malformedFlow .. => "Malformed Flow File"
  | reconciliation _ => "Flow Reconciliation Failed"
  | duplicateMetric _ => "Duplicate Metric In Rule"
  | invalidRule _ => "Invalid Rule"
  | toleranceOutOfRange _ => "Tolerance Out Of Range"
  | configuration _ => "Configuration Error"
  | output _ => "I/O Error"

/-- What to do about a fault. -/
def remediation : Fault → String
  | fileNotFound _ =>
    "Check the path. Candidate and reference files must exist before validation starts."
  | unreadable .. => "Check file permissions and that the path is a regular file."
  | malformedFlow .. =>
    "Check the flow file against the documented column schema (SRC_IP, DST_IP, START_TIME, ...)."
  | reconciliation _ =>
    "A record has its end before its start. Fix the exporter output or the reference capture."
  | duplicateMetric _ =>
    "Each metric type may appear once per rule. Split the metrics into separate rules."
  | invalidRule _ => "Fix the rule definition and run 'ft-analyzer check'."
  | toleranceOutOfRange _ =>
    "Tolerances are relative differences and must lie within [0.0, 1.0]."
  | configuration _ => "Run 'ft-analyzer check --rules <file>' to validate the rule file."
  | output _ => "Check disk space and permissions, then retry."

/-- What a fault is about, as data. -/
def context : Fault → List (String × Document)
  | fileNotFound path | unreadable path _ => [("path", .string path)]
  | malformedFlow path line _ => [("path", .string path), ("line", .nat line)]
  | duplicateMetric metric => [("metric", .string metric)]
  | toleranceOutOfRange tolerance => [("tolerance", .float tolerance)]
  | _ => []

/-- A fault as data, without a context that is empty. -/
def toDocument (f : Fault) : Document :=
  let context := f.context
  .table ([
    ("code", .nat f.code),
    ("category", .string f.category.toText),
    ("message", .string f.message)]
    ++ if context.isEmpty then [] else [("context", .table context)])

/-- A text between a colour and the end of it, if colours are wanted. -/
def paint (colored : Bool) (color text : String) : String :=
  if colored then color ++ text ++ "\x1b[0m" else text

/-- **A fault for people**, in three lines without a final line end. -/
def toText (colored : Bool) (f : Fault) : String :=
  let mark := paint colored "\x1b[31m" "✗"
  let fix := paint colored "\x1b[36m" "Fix:"
  let headline := f.headline
  let message := f.message
  let remediation := f.remediation
  s!"{mark} {headline}\n  Reason: {message}\n  {fix} {remediation}"

end Fault

end FlowParity
