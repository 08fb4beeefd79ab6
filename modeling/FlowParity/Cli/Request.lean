import FlowParity.Log.Config
import FlowParity.Settings
/-!
# Requests

What a command line asks for: one of four tasks, the form of the answer, and how
much is logged meanwhile.
-/

namespace FlowParity.Cli

open Text

/-- The forms of an answer. -/
inductive OutputFormat
  /-- Lines of text. -/
  | text
  /-- JSON. -/
  | json
  /-- A Markdown table. -/
  | markdown
  /-- A single line. -/
  | summary
  deriving DecidableEq, Repr

namespace OutputFormat

/-- All forms. -/
def all : List OutputFormat := [text, json, markdown, summary]

/-- The name of a form. -/
def toText : OutputFormat → String
  | text => "text"
  | json => "json"
  | markdown => "md"
  | summary => "summary"

/-- The form of a name. -/
def ofText? (s : String) : Option OutputFormat :=
  all.find? fun f => f.toText = s

/-- The form of a name in letters of either case. -/
def ofAnyCase? (s : String) : Option OutputFormat :=
  all.find? fun f => sameLetters f.toText.toList s.toList

end OutputFormat

/-- What is to be done. -/
inductive Task
  /-- Two flow files are compared by the rules of a file. -/
  | validate (candidate reference rules : String) (overrides : Overrides)
  /-- A rule file is checked. -/
  | check (rules : String)
  /-- A flow file is reconciled and summed up. -/
  | inspect (file : String) (active inactive : Counter)
  /-- The version is told. -/
  | version

/-- The files that a task reads. -/
def Task.paths : Task → List String
  | validate candidate reference rules _ => [rules, candidate, reference]
  | check rules => [rules]
  | inspect file _ _ => [file]
  | version => []

/-- What a command line asks for. -/
structure Request where
  /-- The form of the answer. -/
  output : OutputFormat
  /-- Whether colours are unwanted. -/
  noColor : Bool
  /-- How much is logged, where the command line says so. -/
  verbosity : Option Log.Verbosity
  /-- The form of the log, where the command line says so. -/
  logFormat : Option Log.Format
  /-- What is to be done. -/
  task : Task

end FlowParity.Cli
