import FlowParity.Log.Severity
/-!
# Log settings

How much is logged and in which form. Flags of the command line come first, then
the environment, then defaults: the course of events, for people to read. One
variable, if set, hides another as a whole, even if its value means nothing.
-/

namespace FlowParity.Log

open Text

/-- The form of a log. -/
inductive Format
  /-- Lines for people. -/
  | human
  /-- A JSON object in each line. -/
  | jsonLines
  deriving DecidableEq, Repr

namespace Format

/-- The name of a form. -/
def toText : Format → String
  | human => "human"
  | jsonLines => "jsonl"

/-- The form of a name, blanks around it and the case of its letters aside. -/
def ofText? (text : String) : Option Format :=
  let name := String.ofList (lower (trim text.toList))
  if name = "human" || name = "pretty" || name = "console" then some human
  else if name = "jsonl" || name = "json" then some jsonLines
  else none

/-- The text of a name that stands for no form. -/
def unknownMessage (text : String) : String :=
  let name := String.ofList (lower (trim text.toList))
  s!"unknown log format '{name}' (expected human or jsonl)"

end Format

/-- The environment of a process: the value of each variable that is set. -/
abbrev Environment := String → Option String

/-- The variable that holds directives for the log. -/
def directivesVariable : String := "RUST_LOG"

/-- The variable that holds a verbosity. -/
def verbosityVariable : String := "FT_LOG"

/-- The variable that holds the form of the log. -/
def formatVariable : String := "FT_LOG_FORMAT"

/-- The most talkative verbosity in a list of directives. A directive is a verbosity, or something
with an equals sign before a verbosity; others do not count. -/
def verbosityOfDirectives (directives : String) : Option Verbosity :=
  let named := (split ',' directives.toList).filterMap fun directive =>
    Verbosity.ofText? (String.ofList (afterLast '=' directive))
  match named with
  | [] => none
  | v :: rest => some (rest.foldl Verbosity.loudest v)

/-- The settings of a log. -/
structure Config where
  /-- The form. -/
  format : Format
  /-- How much is shown. -/
  verbosity : Verbosity
  /-- Whether lines for people start with the time. -/
  timestamps : Bool
  deriving DecidableEq, Repr

namespace Config

/-- The verbosity that the environment asks for. -/
def verbosityOf (env : Environment) : Option Verbosity :=
  match env verbosityVariable with
  | some name => Verbosity.ofText? name
  | none => (env directivesVariable).bind verbosityOfDirectives

/-- **The settings of a log** under an environment and the flags of a command line. -/
def resolve (env : Environment) (verbosity : Option Verbosity) (format : Option Format) :
    Config where
  format :=
    match format with
    | some f => f
    | none => ((env formatVariable).bind Format.ofText?).getD .human
  verbosity :=
    match verbosity with
    | some v => v
    | none => (verbosityOf env).getD .info
  timestamps := true

end Config

end FlowParity.Log
