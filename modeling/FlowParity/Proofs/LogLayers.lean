import FlowParity.Cli.Run
import FlowParity.Proofs.Overriding
/-!
# The layers of the log settings

What a log shows and in which form is settled in layers: a default, the variables of the
environment, the flags of the command line. A layer that says nothing, or nothing that makes
sense, leaves the one below it in place (`topmost`), and the settings of a log are the topmost of
their layers (`Config.resolve_eq`).

Three things read the variables: the command line, for the form where no flag gives it, then the
settings, and then the directives by which events are shown. The first two agree. What the
command line takes from the variable is what the settings would take from it
(`Config.layered_or`), except that it refuses a form that is none (`Cli.CommandLine.IsMisled`).
The third overrules the settings: events are shown by the directives if these can be read, and at
or above the verbosity of the settings if not (`Cli.Request.LogsBy`). So the flags and the
variable that hides the directives from the settings do not hide them from the log.

None of this changes what a run answers (`Cli.parse_logsBy`).
-/

namespace FlowParity

namespace Log

/-- What the highest layer that says anything says, the lowest layer first. -/
def topmost {α : Type} (lowest : α) (layers : List (Option α)) : α :=
  layers.foldl (fun lower layer => layer.getD lower) lowest

/-- The layers above the default verbosity. One variable hides the other one as a whole. -/
def verbosityLayers (env : Environment) (flags : Option Verbosity) : List (Option Verbosity) :=
  [if (env verbosityVariable).isSome then none
    else (env directivesVariable).bind verbosityOfDirectives,
   (env verbosityVariable).bind Verbosity.ofText?, flags]

/-- The layers above the default form. -/
def formatLayers (env : Environment) (flag : Option Format) : List (Option Format) :=
  [(env formatVariable).bind Format.ofText?, flag]

/-- The settings of a log that are the topmost of their layers. -/
def Config.layered (env : Environment) (flags : Option Verbosity) (flag : Option Format) :
    Config where
  format := topmost .human (formatLayers env flag)
  verbosity := topmost .info (verbosityLayers env flags)
  timestamps := true

/-- An environment without the variables of the log. -/
def Environment.unlogged (env : Environment) : Environment := fun name =>
  if name ∈ [directivesVariable, verbosityVariable, formatVariable] then none else env name

variable {env : Environment}

/-- **Log settings are the topmost of their layers.** -/
theorem Config.resolve_eq (flags : Option Verbosity) (flag : Option Format) :
    resolve env flags flag = layered env flags flag := by
  have hverbosity : (verbosityOf env).getD .info = topmost .info (verbosityLayers env none) := by
    cases h : env verbosityVariable <;> simp [verbosityOf, topmost, verbosityLayers, h]
  cases flags <;> cases flag <;>
    simp [resolve, layered, hverbosity, topmost, formatLayers, verbosityLayers]

/-- The settings take the form of the variable anyway, so it makes no difference if the command
line took it before them. -/
theorem Config.layered_or (flags : Option Verbosity) (flag : Option Format) :
    layered env flags (flag.or ((env formatVariable).bind Format.ofText?)) =
      layered env flags flag := by
  cases flag <;> cases h : (env formatVariable).bind Format.ofText? <;>
    simp [layered, topmost, formatLayers, h]

/-- The name of a verbosity is a directive about all events. -/
theorem directives?_toText (v : Verbosity) : directives? v.toText = some [⟨none, none, v⟩] := by
  cases v <;> decide +kernel

/-- A directive about all events shows those at or above its verbosity. -/
theorem admits_overall (v : Verbosity) (e : Event) :
    admits [⟨none, none, v⟩] e = v.shows e.severity := by
  simp [admits, decisive?, Directive.concerns]

/-- Without directives the settings say what is shown. -/
theorem isShown_eq_shows (config : Config) (h : (env directivesVariable).bind directives? = none) :
    isShown env config = fun e => config.verbosity.shows e.severity := by
  funext e
  rw [isShown, h]

/-- Directives say what is shown, whatever the settings are. -/
theorem isShown_eq_admits (config : Config) {directives : List Directive}
    (h : (env directivesVariable).bind directives? = some directives) :
    isShown env config = admits directives := by
  funext e
  rw [isShown, h]

end Log

namespace Cli

open Log

/-- What is read of a command line by itself: the command, and the options on both sides of it. -/
structure CommandLine where
  /-- The command. -/
  command : Command
  /-- The options before it. -/
  before : Given
  /-- The options after it. -/
  after : Given
  deriving DecidableEq

namespace CommandLine

/-- The command line of a list of arguments. -/
def parse (args : List String) : Except Halt CommandLine := do
  let before ← Given.empty.read none args
  match before.rest with
  | [] => .error .refused
  | name :: rest =>
    if name = "help" then .error (helpFor rest)
    else
      match Command.ofText? name with
      | none => .error .refused
      | some command => do
        let after ← Given.empty.read (some command) rest
        if after.rest.isEmpty then return ⟨command, ← before.complete, ← after.complete⟩
        else .error .refused

/-- The verbosity that the flags ask for: the requests after the command count, if there are
any. -/
def verbosity (line : CommandLine) : Option Verbosity :=
  Verbosity.ofFlags (if line.after.verbose = 0 then line.before.verbose else line.after.verbose)
    (line.before.quiet || line.after.quiet)

/-- The form of the log that the flags ask for. -/
def logFormat (line : CommandLine) : Option Format :=
  line.after.logFormat.or line.before.logFormat

/-- Whether the variable for the form of the log is looked at, and says nothing that makes
sense. -/
def IsMisled (env : Environment) (line : CommandLine) : Prop :=
  (line.before.logFormat = none ∨ line.after.logFormat = none) ∧
    (env formatVariable).map Format.ofText? = some none

end CommandLine

/-- **What the log of a request shows** under an environment. -/
structure Request.LogsBy (env : Environment) (line : CommandLine) (request : Request) : Prop where
  /-- The settings are the topmost of their layers. -/
  config : request.logConfig env = .layered env line.verbosity line.logFormat
  /-- Without directives that can be read, there is a line for each event at or above the
  verbosity of the settings. -/
  byVerbosity : (env directivesVariable).bind directives? = none → ∀ time r,
    logLines env request time r =
      (r.events.filter fun e => (request.logConfig env).verbosity.shows e.severity).map
        (eventLine (request.logConfig env) time)
  /-- With directives that can be read, there is a line for each event that they admit. -/
  byDirectives : ∀ directives, (env directivesVariable).bind directives? = some directives →
    ∀ time r, logLines env request time r =
      (r.events.filter (admits directives)).map (eventLine (request.logConfig env) time)
  /-- With the name of a verbosity for a directive, there is a line for each event at or above
  that verbosity. -/
  byName : ∀ v : Verbosity, env directivesVariable = some v.toText → ∀ time r,
    logLines env request time r =
      (r.events.filter fun e => v.shows e.severity).map
        (eventLine (request.logConfig env) time)

variable {env : Environment} {args : List String} {line : CommandLine}

/-- A request is that of a command line in an environment. -/
theorem Request.parse_eq_bind :
    Request.parse env args = CommandLine.parse args >>= fun line =>
      requestOf env line.command line.before line.after := by
  simp only [Request.parse, CommandLine.parse, bind_assoc]
  refine congrArg _ (funext fun before => ?_)
  cases before.rest with
  | nil => rfl
  | cons name rest =>
    by_cases hhelp : name = "help"
    · simp only [hhelp, if_true]
      rfl
    · simp only [hhelp, if_false]
      cases Command.ofText? name with
      | none => rfl
      | some command =>
        simp only [bind_assoc]
        refine congrArg _ (funext fun after => ?_)
        split
        · simp only [bind_assoc, pure_bind]
        · rfl

theorem Request.parse_of_parse (h : CommandLine.parse args = .ok line) :
    Request.parse env args = requestOf env line.command line.before line.after := by
  rw [Request.parse_eq_bind, h]
  rfl

/-- A task looks at no variable of the log. -/
theorem taskOf_unlogged (command : Command) (g : Given) :
    taskOf env.unlogged command g = taskOf env command g := by
  have h : env.unlogged rulesVariable = env rulesVariable :=
    if_neg (by decide)
  simp only [taskOf, h]

/-- An option that is given, or a variable that reads as one, or neither, is all right. -/
theorem orVariable_eq_ok {α : Type} {given : Option α} {text? : Option String}
    {read : String → Option α} (h : given = none → text?.map read ≠ some none) :
    orVariable given text? read = .ok (given.or (text?.bind read)) := by
  cases given with
  | some a => rfl
  | none =>
    cases text? with
    | none => rfl
    | some text =>
      cases hread : read text with
      | none => exact absurd (congrArg some hread) (h rfl)
      | some a => simp [orVariable, hread]

/-- A variable that is looked at has to read as an option. -/
theorem orVariable_eq_error {α : Type} {text? : Option String} {read : String → Option α}
    (h : text?.map read = some none) : orVariable none text? read = .error .refused := by
  obtain ⟨text, rfl, hread⟩ := Option.map_eq_some_iff.1 h
  simp [orVariable, hread]

/-- **The request of a command line for a task**, unless the variable for the form misleads. -/
def CommandLine.request (env : Environment) (line : CommandLine) (task : Task) : Request where
  output := (Settings.first line.after.format line.before.format).getD .text
  noColor := line.before.noColor || line.after.noColor
  verbosity := line.verbosity
  logFormat := line.logFormat.or ((env formatVariable).bind Format.ofText?)
  task := task

/-- The form that the sides of a command line give, else the variable, which either side may have
stood in for. -/
theorem first_logFormat (after before fromVariable : Option Format) :
    Settings.first after (Settings.first before
      (Settings.first (after.or fromVariable) (before.or fromVariable))) =
      (after.or before).or fromVariable := by
  cases after <;> cases before <;> cases fromVariable <;> rfl

theorem requestOf_eq_map (h : ¬ line.IsMisled env) :
    requestOf env line.command line.before line.after =
      (taskOf env line.command line.after).map (line.request env) := by
  have hlate := orVariable_eq_ok fun hnone hread => h ⟨.inr hnone, hread⟩
  have hearly := orVariable_eq_ok fun hnone hread => h ⟨.inl hnone, hread⟩
  simp only [requestOf, hlate, hearly]
  cases taskOf env line.command line.after with
  | error halt => rfl
  | ok task =>
    simp only [bind, Except.bind, Except.map, pure, Except.pure, first_logFormat,
      CommandLine.request, CommandLine.verbosity, CommandLine.logFormat]

theorem requestOf_eq_error (h : line.IsMisled env) :
    requestOf env line.command line.before line.after =
      taskOf env line.command line.after >>= fun _ => .error .refused := by
  obtain ⟨hnone, hread⟩ := h
  refine congrArg _ (funext fun task => ?_)
  simp only
  -- the side after the command looks at the variable first
  cases hafter : line.after.logFormat with
  | none =>
    rw [orVariable_eq_error hread]
    rfl
  | some format =>
    have hbefore : line.before.logFormat = none := hnone.resolve_right (by simp [hafter])
    rw [hbefore, orVariable_eq_error hread]
    rfl

/-- Without the variables of the log nothing misleads. -/
theorem not_isMisled_unlogged : ¬ line.IsMisled env.unlogged := fun h => by
  have hunset : env.unlogged formatVariable = none := if_pos (by decide)
  simp [CommandLine.IsMisled, hunset] at h

theorem Request.parse_unlogged :
    Request.parse env.unlogged args = CommandLine.parse args >>= fun line =>
      (taskOf env line.command line.after).map (line.request env.unlogged) := by
  simp only [Request.parse_eq_bind, requestOf_eq_map not_isMisled_unlogged, taskOf_unlogged]

/-- The log of a request. -/
theorem CommandLine.logsBy_request (env : Environment) (line : CommandLine) (task : Task) :
    (line.request env task).LogsBy env line where
  config := by
    rw [Request.logConfig, Config.resolve_eq, request, Config.layered_or]
  byVerbosity hnone time r := by
    rw [logLines, Run.shownEvents, isShown_eq_shows _ hnone]
  byDirectives directives hsome time r := by
    rw [logLines, Run.shownEvents, isShown_eq_admits _ hsome]
  byName v hname time r := by
    have hsome : (env directivesVariable).bind directives? = some [⟨none, none, v⟩] := by
      rw [hname, Option.bind_some, directives?_toText]
    rw [logLines, Run.shownEvents, isShown_eq_admits _ hsome, funext (admits_overall v)]

/-- **What the variables of the log can do.** A command line that makes no request without them
makes none with them. One that makes a request makes one with them that is answered the same, and
whose log shows what its settings or its directives say. Only a variable for the form that names
none, if it is looked at, is refused like an option. -/
theorem parse_logsBy (env : Environment) (args : List String) :
    (∀ halt, Request.parse env.unlogged args = .error halt →
      Request.parse env args = .error halt) ∧
    ∀ plain, Request.parse env.unlogged args = .ok plain →
      ∃ line, CommandLine.parse args = .ok line ∧
        (line.IsMisled env → Request.parse env args = .error .refused) ∧
        (¬ line.IsMisled env → ∃ request, Request.parse env args = .ok request ∧
          (∀ files runId colored,
            run files runId colored request = run files runId colored plain) ∧
          (∀ colored fault, faultText request colored fault = faultText plain colored fault) ∧
          request.LogsBy env line) := by
  simp only [Request.parse_unlogged]
  constructor
  · intro halt h
    -- arguments and the task are refused before the variable for the form is looked at
    obtain hline | ⟨line, hline, htask⟩ := bind_eq_error.1 h
    · rw [Request.parse_eq_bind, hline]
      rfl
    · rw [Request.parse_of_parse hline, requestOf, map_eq_error.1 htask]
      rfl
  · intro plain h
    obtain ⟨line, hline, hplain⟩ := bind_eq_ok.1 h
    obtain ⟨task, htask, rfl⟩ := map_eq_ok.1 hplain
    simp only [Request.parse_of_parse hline]
    refine ⟨line, hline, fun hmisled => ?_, fun hread => ?_⟩
    · rw [requestOf_eq_error hmisled, htask]
      rfl
    · refine ⟨line.request env task, ?_, fun _ _ _ => rfl, fun _ _ => rfl,
        line.logsBy_request env task⟩
      rw [requestOf_eq_map hread, htask]
      rfl

namespace Sample

/-- An environment with directives that ask for silence, and a variable that asks for everything. -/
def silentEnvironment (format : String) : Environment := fun name =>
  [(directivesVariable, "off"), (verbosityVariable, "trace"), (formatVariable, format)].lookup name

/-- Arguments that ask for more to be logged. -/
def loudArguments : List String := ["-v", "check", "--rules", "r.toml"]

/-- The command line of these arguments. -/
def loudLine : CommandLine :=
  ⟨.check, { Given.empty with verbose := 1 }, { Given.empty with rules := some "r.toml" }⟩

theorem parse_loudLine : CommandLine.parse loudArguments = .ok loudLine := by
  decide +kernel

theorem parse_loudArguments (h : ¬ loudLine.IsMisled env) :
    Request.parse env loudArguments = .ok (loudLine.request env (.check "r.toml")) := by
  rw [Request.parse_of_parse parse_loudLine, requestOf_eq_map h]
  rfl

theorem not_isMisled_silentEnvironment : ¬ loudLine.IsMisled (silentEnvironment " JSON ") :=
  fun h => absurd h.2 (by decide +kernel)

end Sample

/-- Directives silence a log that flags and another variable make talkative. -/
theorem parse_logsBy_silent : ∃ request,
    Request.parse (Sample.silentEnvironment " JSON ") Sample.loudArguments = .ok request ∧
    request.logConfig (Sample.silentEnvironment " JSON ") = ⟨.jsonLines, .debug, true⟩ ∧
    ∀ time r, logLines (Sample.silentEnvironment " JSON ") request time r = [] := by
  have hplain : Request.parse (Sample.silentEnvironment " JSON ").unlogged Sample.loudArguments =
      .ok _ := Sample.parse_loudArguments not_isMisled_unlogged
  obtain ⟨line, hline, -, h⟩ := (parse_logsBy _ _).2 _ hplain
  obtain rfl : Sample.loudLine = line := Except.ok.inj (Sample.parse_loudLine.symm.trans hline)
  obtain ⟨request, hrequest, -, -, hlog⟩ := h Sample.not_isMisled_silentEnvironment
  refine ⟨request, hrequest, hlog.config.trans (by decide +kernel), fun time r => ?_⟩
  have hsilent : (r.events.filter fun e => Verbosity.off.shows e.severity) = [] := by
    refine List.filter_eq_nil_iff.2 fun e _ => ?_
    cases e.severity <;> decide
  rw [hlog.byName .off rfl, hsilent, List.map_nil]

/-- **The layers alone do not settle the log.** Directives overrule a flag that asks for more, and
a form that is none is refused. -/
theorem not_logLines_eq_layered :
    (¬ ∀ env args line request files runId colored time, CommandLine.parse args = .ok line →
      Request.parse env args = .ok request →
      logLines env request time (run files runId colored request) =
        ((run files runId colored request).events.filter fun e =>
          (Config.layered env line.verbosity line.logFormat).verbosity.shows e.severity).map
          (eventLine (.layered env line.verbosity line.logFormat) time)) ∧
    ¬ ∀ (env : Environment) (args : List String), (Request.parse env.unlogged args).isOk →
      (Request.parse env args).isOk := by
  constructor
  · intro h
    have hlines := h (Sample.silentEnvironment " JSON ") _ _ _ (fun _ => .error .notFound) "" false
      "" Sample.parse_loudLine (Sample.parse_loudArguments Sample.not_isMisled_silentEnvironment)
    exact absurd (congrArg List.length hlines) (by decide +kernel)
  · intro h
    have haccepted := h (Sample.silentEnvironment "xml") ["version"] (by decide +kernel)
    exact absurd haccepted (by decide +kernel)

end Cli

end FlowParity
