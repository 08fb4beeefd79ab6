import FlowParity.Text.Blank
import FlowParity.Text.Fields
/-!
# Severity

An event has a severity; a log has a verbosity, the least severity that it still
shows, or none. Raising the verbosity shows more.
-/

namespace FlowParity.Log

open Text

/-- How serious an event is, from least to most. -/
inductive Severity
  /-- The finest detail. -/
  | trace
  /-- Detail for finding faults. -/
  | debug
  /-- The course of events. -/
  | info
  /-- Something to look at. -/
  | warn
  /-- A failure. -/
  | error
  deriving DecidableEq, Repr

/-- How much a log shows, from most to least. -/
inductive Verbosity
  /-- Everything. -/
  | trace
  /-- All but the finest detail. -/
  | debug
  /-- The course of events. -/
  | info
  /-- Warnings and failures. -/
  | warn
  /-- Failures. -/
  | error
  /-- Nothing. -/
  | off
  deriving DecidableEq, Repr

namespace Severity

/-- The name of a severity. -/
def toText : Severity → String
  | trace => "trace"
  | debug => "debug"
  | info => "info"
  | warn => "warn"
  | error => "error"

/-- The position in the order of severities. -/
def rank : Severity → Nat
  | trace => 0
  | debug => 1
  | info => 2
  | warn => 3
  | error => 4

end Severity

namespace Verbosity

/-- All verbosities, the most talkative first. -/
def all : List Verbosity := [trace, debug, info, warn, error, off]

/-- The name of a verbosity. -/
def toText : Verbosity → String
  | trace => "trace"
  | debug => "debug"
  | info => "info"
  | warn => "warn"
  | error => "error"
  | off => "off"

/-- The rank of the least severity that is shown. -/
def rank : Verbosity → Nat
  | trace => 0
  | debug => 1
  | info => 2
  | warn => 3
  | error => 4
  | off => 5

/-- **Whether an event of a severity is shown.** -/
def shows (v : Verbosity) (s : Severity) : Bool :=
  v.rank ≤ s.rank

/-- One step more talkative, as far as there is one. -/
def louder : Verbosity → Verbosity
  | trace => trace
  | debug => trace
  | info => debug
  | warn => info
  | error => warn
  | off => error

/-- The more talkative of two. -/
def loudest (a b : Verbosity) : Verbosity :=
  if a.rank ≤ b.rank then a else b

/-- The name that another name stands for. -/
def unalias (name : List Char) : List Char :=
  if name = "warning".toList then "warn".toList
  else if name = "none".toList || name = "quiet".toList then "off".toList
  else name

/-- The verbosity of a name, blanks around it and the case of its letters aside. -/
def ofText? (text : String) : Option Verbosity :=
  let name := unalias (lower (trim text.toList))
  all.find? fun v => v.toText.toList = name

/-- The text of a name that stands for no verbosity. -/
def unknownMessage (text : String) : String :=
  let name := String.ofList (lower (trim text.toList))
  s!"unknown log level '{name}'"

/-- The verbosity that the flags of a command line ask for: failures only if it is to be quiet,
else one step up from the course of events for each request. -/
def ofFlags (requests : Nat) (quiet : Bool) : Option Verbosity :=
  if quiet then some error
  else if requests = 0 then none
  else some (Nat.repeat louder requests info)

end Verbosity

end FlowParity.Log
