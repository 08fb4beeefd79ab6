import FlowParity.Log.Event
/-!
# Log lines for people

The time, the severity, what happened, and then the other values by name.
-/

namespace FlowParity.Log

/-- A value in a line for people. -/
def valueText : Document → String
  | .string s => s
  | d => d.compact

/-- The name of a severity in capitals, at the right of five places. -/
def Severity.column (s : Severity) : String :=
  let name := Text.upper s.toText.toList
  String.ofList (List.replicate (5 - name.length) ' ' ++ name)

/-- The line of an event for people. -/
def Event.humanLine (time : Option String) (e : Event) : String :=
  let start := (time.map (· ++ " ")).getD ""
  let message := ((e.members.lookup "message").map valueText).getD ""
  let others := (e.members.filter fun m => m.1 ≠ "message").map fun (name, value) =>
    " " ++ name ++ "=" ++ valueText value
  start ++ e.severity.column ++ " " ++ message ++ String.join others

end FlowParity.Log
