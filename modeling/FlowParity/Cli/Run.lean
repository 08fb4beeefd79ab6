import FlowParity.Cli.Arguments
import FlowParity.Cli.Usage
import FlowParity.ExitCode
import FlowParity.Fault.Sources
import FlowParity.Log.Filter
import FlowParity.Log.HumanText
import FlowParity.Log.Trace
import FlowParity.RuleFile.Source
/-!
# Runs

A run answers a request from the files. It either has an answer, which is printed
as a whole, or a fault, and then nothing is printed. What it tells its log on the
way changes neither.
-/

namespace FlowParity.Cli

open Log

/-- The name of the program. -/
def programName : String := "ft-analyzer"

/-- The version of the program. -/
def programVersion : String := "0.1.0"

/-- What a run prints and whether it passes. -/
structure Answer where
  /-- What is printed. -/
  text : String
  /-- The verdict; commands without one pass. -/
  isPassing : Bool

/-- The form of an answer that is JSON with the members in the order of their names. -/
def jsonAnswer (members : List (String × Document)) : Answer :=
  ⟨(Document.table members).sorted.pretty ++ "\n", true⟩

/-- The event that a run begins. -/
def startedNotice (runId candidate reference : String) : Notice where
  severity := .info
  event := "run.started"
  runId := runId
  stage := .init
  message := "Starting validation"
  fields := [("candidate", .string candidate), ("reference", .string reference)]

/-- The event that a rule file is loaded. -/
def loadedNotice (runId path : String) (rules : Nat) (settings : Settings) : Notice where
  severity := .info
  event := "config.loaded"
  runId := runId
  stage := .init
  message := "Loaded rule file"
  fields := [("path", .string path), ("rules", .nat rules), ("settings", settings.toDocument)]

/-- The event that a run ends with a report. -/
def finishedNotice (runId : String) (report : Report) : Notice where
  severity := .info
  event := "run.finished"
  runId := runId
  stage := .report
  message := "Validation complete"
  fields := [
    ("tests", .nat report.outcomes.length),
    ("failed", .nat report.failed.length),
    ("exit_code", .nat (ExitCode.ofVerdict report.isPassing).toNat)]

/-- The event that a run ends with a fault. -/
def faultNotice (runId : String) (fault : Fault) : Notice where
  severity := .error
  event := if fault.category = .configuration then "config.error" else "input_error"
  runId := runId
  stage := .init
  message := fault.message
  fields := [("code", .nat fault.code), ("category", .string fault.category.toText)]

/-- A usable rule file with its settings. -/
def loadRuleFile (files : Files) (runId path : String) (overrides : Overrides) :
    Logged Fault (RuleFile × Settings) := do
  let file ← .ofExcept ((RuleFile.ofFile files path).mapError (·.toFault))
  .ofExcept (file.check.mapError (·.toFault))
  let settings ← .ofExcept ((Settings.resolve file.model overrides).mapError (·.toFault))
  .tell (loadedNotice runId path file.rules.length settings).toEvent
  return (file, settings)

/-- The rules of a rule file. -/
def rulesOf (file : RuleFile) : Except Fault (List Rule) :=
  (Rule.ofFile file).mapError (·.toFault)

/-- **The report of a comparison of two files** by the rules of a third. -/
def compare (files : Files) (runId candidate reference rules : String) (overrides : Overrides) :
    Logged Fault Report := do
  .tell (startedNotice runId candidate reference).toEvent
  let (file, settings) ← loadRuleFile files runId rules overrides
  let rules ← .ofExcept (rulesOf file)
  let comparison ← (Comparison.ofSources files settings (.file candidate)
    (.file reference)).mapError (·.toFault)
  let report ← (comparison.report rules).mapError (·.toFault)
  .tell (finishedNotice runId report).toEvent
  return report

/-- A report in a form. -/
def reportAnswer (format : OutputFormat) (colored : Bool) (report : Report) : Answer where
  text :=
    match format with
    | .text => report.toText colored
    | .json => report.toJson ++ "\n"
    | .markdown => report.toMarkdown
    | .summary => report.summary ++ "\n"
  isPassing := report.isPassing

/-- A rule in a line. -/
def ruleLine (index : Nat) (rule : Rule) : String :=
  let metrics := rule.metrics.map fun m => m.measure.toText ++ "<=" ++ m.tolerance.toText
  let segment := (rule.segment.map Segment.toText).getD "whole dataset"
  let number := index + 1
  let name := rule.name.getD s!"rule #{number}"
  let list := ", ".intercalate metrics
  s!"  {name}: {list} [{segment}]\n"

/-- What a checked rule file says, in lines. -/
def checkText (path : String) (settings : Settings) (rules : List Rule) : String :=
  let active := settings.active.toNat
  let inactive := settings.inactive.toNat
  let scope := settings.scope.toText
  let start := match settings.startTime with
    | none => ""
    | some t =>
      let instant := Timestamp.format t
      s!"Start time: {instant} ({scope})\n"
  s!"Rule file: {path}\nTimeouts: active {active}s, inactive {inactive}s\n" ++ start ++
    String.join (rules.zipIdx.map fun (rule, index) => ruleLine index rule)

/-- A checked rule file in a form. -/
def checkAnswer (format : OutputFormat) (path : String) (settings : Settings)
    (rules : List Rule) : Answer :=
  match format with
  | .json => jsonAnswer [
      ("status", .string "valid"),
      ("path", .string path),
      ("settings", settings.toDocument),
      ("rules", .list (rules.map Rule.toDocument))]
  | .summary =>
    let count := rules.length
    ⟨s!"{path}: {count} rules valid\n", true⟩
  | .text | .markdown => ⟨checkText path settings rules, true⟩

/-- The answer to a request to check a rule file. -/
def check (files : Files) (runId : String) (format : OutputFormat) (path : String) :
    Logged Fault Answer := do
  let (file, settings) ← loadRuleFile files runId path .none
  let rules ← .ofExcept (rulesOf file)
  return checkAnswer format path settings rules

/-- What inspecting a flow file finds. -/
structure Inspection where
  /-- The timeouts. -/
  timeouts : Timeouts
  /-- How the flows came about. -/
  statistics : Statistics
  /-- The packets of all flows. -/
  packets : Counter
  /-- The bytes of all flows. -/
  bytes : Counter

/-- **The inspection of a flow file.** -/
def inspection (files : Files) (path : String) (active inactive : Counter) :
    Except Fault Inspection := do
  let records ← (FlowTable.load files path).mapError (·.toFault)
  let timeouts := Timeouts.ofSeconds active.toNat inactive.toNat
  let r ← (reconcile timeouts records).mapError (·.toFault)
  return ⟨timeouts, r.statistics, Measure.packets.total r.flows, Measure.bytes.total r.flows⟩

/-- An inspection in a form. -/
def inspectAnswer (format : OutputFormat) (path : String) (i : Inspection) : Answer :=
  let records := i.statistics.recordsIn
  let flows := i.statistics.flowsOut
  let merges := i.statistics.merges
  let keys := i.statistics.keys
  let conversations := i.statistics.conversations
  let packets := i.packets.toNat
  let bytes := i.bytes.toNat
  match format with
  | .json => jsonAnswer [
      ("path", .string path),
      ("timeouts", .table [
        ("active_ms", .integer i.timeouts.active.ms),
        ("inactive_ms", .integer i.timeouts.inactive.ms)]),
      ("reconcile", .table [
        ("records_in", .nat records),
        ("flows_out", .nat flows),
        ("merges", .nat merges),
        ("keys", .nat keys),
        ("conversations", .nat conversations)]),
      ("packets", .nat packets),
      ("bytes", .nat bytes)]
  | .summary =>
    ⟨s!"{path}: {records} records, {flows} flows, {packets} packets, {bytes} bytes\n", true⟩
  | .text | .markdown =>
    ⟨s!"File:     {path}\nRecords:  {records}\n" ++
      s!"Flows:    {flows} ({merges} merges, {keys} keys)\n" ++
      s!"Conversations: {conversations}\nPackets:  {packets}\nBytes:    {bytes}\n", true⟩

/-- The version in a form. -/
def versionAnswer : OutputFormat → Answer
  | .json => ⟨(Document.table [
      ("name", .string programName), ("version", .string programVersion)]).compact ++ "\n", true⟩
  | _ => ⟨programName ++ " " ++ programVersion ++ "\n", true⟩

/-- **The answer to a request.** -/
def answer (files : Files) (runId : String) (colored : Bool) (request : Request) :
    Logged Fault Answer :=
  match request.task with
  | .validate candidate reference rules overrides => do
    let report ← compare files runId candidate reference rules overrides
    return reportAnswer request.output colored report
  | .check rules => check files runId request.output rules
  | .inspect file active inactive => do
    let found ← .ofExcept (inspection files file active inactive)
    return inspectAnswer request.output file found
  | .version => pure (versionAnswer request.output)

/-- How a run ends. -/
structure Run where
  /-- The exit code. -/
  exit : ExitCode
  /-- What is printed. -/
  stdout : String
  /-- What was told to the log. -/
  events : List Event
  /-- The fault, if there is one. -/
  fault : Option Fault

/-- **The run of a request.** -/
def run (files : Files) (runId : String) (colored : Bool) (request : Request) : Run :=
  let logged := answer files runId colored request
  match logged.result with
  | .ok a => ⟨.ofVerdict a.isPassing, a.text, logged.events, none⟩
  | .error fault =>
    ⟨.ofCategory fault.category, "", logged.events ++ [(faultNotice runId fault).toEvent],
      some fault⟩

/-- The settings of the log of a request. -/
def Request.logConfig (env : Environment) (request : Request) : Config :=
  .resolve env request.verbosity request.logFormat

/-- The events of a run that its log shows. -/
def Run.shownEvents (env : Environment) (request : Request) (r : Run) : List Event :=
  r.events.filter (isShown env (request.logConfig env))

/-- The line of an event in a log. -/
def eventLine (config : Config) (time : String) (e : Event) : String :=
  match config.format with
  | .jsonLines => e.line [] (some time)
  | .human => e.humanLine (if config.timestamps then some time else none)

/-- **The lines of a log**: one for each event of a run that the log shows. -/
def logLines (env : Environment) (request : Request) (time : String) (r : Run) : List String :=
  (r.shownEvents env request).map (eventLine (request.logConfig env) time)

/-- A fault as a request wants it told, without a final line end. -/
def faultText (request : Request) (colored : Bool) (fault : Fault) : String :=
  match request.output with
  | .json => fault.toDocument.compact
  | _ => fault.toText colored

/-- What is printed where no request is made, and the exit code. -/
def Halt.answer : Halt → ExitCode × String
  | .refused => (.arguments, "")
  | .help => (.passing, usage)
  | .version command =>
    let suffix := (command.map fun c => "-" ++ c.toText).getD ""
    (.passing, programName ++ suffix ++ " " ++ programVersion ++ "\n")

end FlowParity.Cli
