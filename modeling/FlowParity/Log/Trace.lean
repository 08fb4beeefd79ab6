import FlowParity.Log.Event
/-!
# Traces

Events happen inside spans. A span may know the run and the stage, and events
inside it need not repeat them: each of the two comes from the event itself, else
from the innermost span that knows it. A trace is a sequence of entering and
leaving spans and of events, and its log has one line for each event.
-/

namespace FlowParity.Log

/-- A stretch of a run. -/
structure Span where
  /-- The run. -/
  runId : Option String
  /-- The stage. -/
  stage : Option String
  deriving DecidableEq, Repr

/-- The span after a text is recorded in it. It keeps the run and the stage, and nothing else. -/
def Span.record (span : Span) (name : String) (how : Recording) (text : String) : Span :=
  if name = "run_id" then { span with runId := some (how.apply text) }
  else if name = "stage" then { span with stage := some (how.apply text) }
  else span

/-- The span in which some texts are recorded one after the other. -/
def Span.ofFields (fields : List (String × Recording × String)) : Span :=
  fields.foldl (fun span (name, how, text) => span.record name how text) ⟨none, none⟩

/-- What the spans around an event know together, the innermost first. -/
def inherited (spans : List Span) : Span where
  runId := spans.findSome? Span.runId
  stage := spans.findSome? Span.stage

/-- The line of an event as data: what the spans know, then what the event says itself. -/
def Event.lineDocument (spans : List Span) (time : Option String) (e : Event) : Document :=
  let known := inherited spans
  let fields := if e.fieldMembers.isEmpty then [] else [("fields", .table e.fieldMembers)]
  (Document.table (
    Document.optional "ts" .string time ++
    [("level", .string e.severity.toText), ("target", .string e.target)] ++
    Document.optional "run_id" .string known.runId ++
    Document.optional "stage" .string known.stage ++
    e.topMembers ++ fields)).sorted

/-- **The line of an event** inside spans, the innermost first. -/
def Event.line (spans : List Span) (time : Option String) (e : Event) : String :=
  (e.lineDocument spans time).compact

/-- A step of a trace. -/
inductive Step
  /-- A span is entered. -/
  | enter (span : Span)
  /-- The innermost span is left; nothing happens if there is none. -/
  | leave
  /-- An event happens. -/
  | event (e : Event)

/-- **The lines of a trace** that starts inside spans. -/
def lines (spans : List Span) : List Step → List String
  | [] => []
  | .enter span :: rest => lines (span :: spans) rest
  | .leave :: rest => lines (spans.drop 1) rest
  | .event e :: rest => e.line spans none :: lines spans rest

end FlowParity.Log
