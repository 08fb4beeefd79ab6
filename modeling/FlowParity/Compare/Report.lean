import FlowParity.Compare.Outcome
import FlowParity.Document.JsonText
/-!
# Reports

A report is the list of the outcomes of one comparison, in the order of the rules
and their metrics. It passes if all of them do. Four renderings tell the same
verdict: lines of text, where a failing one is marked by a word or by colour, a
Markdown table, a one-line summary, and JSON.
-/

namespace FlowParity

/-- The outcomes of a comparison. -/
structure Report where
  /-- The outcomes, in order. -/
  outcomes : List Outcome
  deriving DecidableEq

namespace Report

/-- The report without outcomes. -/
def empty : Report := ⟨[]⟩

/-- The report with one more outcome. -/
def add (r : Report) (o : Outcome) : Report := ⟨r.outcomes ++ [o]⟩

/-- **Whether every outcome passes.** -/
def isPassing (r : Report) : Bool := r.outcomes.all Outcome.isPassing

/-- The outcomes that fail. -/
def failed (r : Report) : List Outcome := r.outcomes.filter fun o => !o.isPassing

/-- The first outcome of a measure over exactly the given segment. -/
def find? (r : Report) (measure : Measure) (segment : Option Segment) : Option Outcome :=
  r.outcomes.find? fun o => o.metric.measure = measure && o.segment = segment

/-- The difference and the tolerance of an outcome to four places. -/
def ratios (o : Outcome) : String × String :=
  (o.difference.toFixed 4, o.metric.tolerance.toFixed 4)

/-- What the text says of an outcome, its verdict aside. -/
def statement (o : Outcome) : String :=
  let label := (o.label?.map (· ++ "\t")).getD ""
  let measure := o.metric.measure.toText
  let (difference, tolerance) := ratios o
  let value := toString o.value.toNat
  let reference := toString o.reference.toNat
  s!"{label}{measure}\t{difference}/{tolerance}\t({value}/{reference})"

/-- The escape sequence that turns the text red. -/
def red : String := "\x1b[31m"

/-- The escape sequence that ends a colour. -/
def plain : String := "\x1b[0m"

/-- The line of an outcome. -/
def line (colored : Bool) (o : Outcome) : String :=
  if o.isPassing then statement o ++ "\n"
  else if colored then red ++ statement o ++ plain ++ "\n"
  else "FAIL\t" ++ statement o ++ "\n"

/-- **The report as text**, a line for each outcome. -/
def toText (colored : Bool) (r : Report) : String :=
  String.join (r.outcomes.map (line colored))

/-- The verdict in a word. -/
def verdict (passing : Bool) : String := if passing then "PASS" else "FAIL"

/-- A row of the Markdown table. -/
def row (o : Outcome) : String :=
  let status := verdict o.isPassing
  let label := o.label?.getD "-"
  let measure := o.metric.measure.toText
  let (difference, tolerance) := ratios o
  let value := toString o.value.toNat
  let reference := toString o.reference.toNat
  s!"| {status} | {label} | {measure} | {difference} | {tolerance} | {value} | {reference} |\n"

/-- The head of the Markdown table. -/
def heading : String :=
  "| Status | Segment | Metric | Difference | Tolerance | Candidate | Reference |\n" ++
    "|---|---|---|---|---|---|---|\n"

/-- **The report as a Markdown table**, a row for each outcome. -/
def toMarkdown (r : Report) : String :=
  heading ++ String.join (r.outcomes.map row)

/-- **The report in one line.** -/
def summary (r : Report) : String :=
  let total := r.outcomes.length
  let failed := r.failed.length
  s!"{total} tests, {failed} failed: {verdict r.isPassing}"

/-- An outcome as data. -/
def outcomeDocument (o : Outcome) : Document :=
  .table [
    ("metric", o.metric.toDocument),
    ("segment", .orNull Segment.toDocument o.segment),
    ("value", .nat o.value.toNat),
    ("reference", .nat o.reference.toNat),
    ("diff", .float o.difference),
    ("segment_label", .orNull .string o.label?),
    ("passed", .bool o.isPassing)]

/-- A report as data. -/
def toDocument (r : Report) : Document :=
  .table [
    ("passed", .bool r.isPassing),
    ("total", .nat r.outcomes.length),
    ("failed", .nat r.failed.length),
    ("tests", .list (r.outcomes.map outcomeDocument))]

/-- **The report as JSON** over several lines. -/
def toJson (r : Report) : String := r.toDocument.pretty

end Report

end FlowParity
