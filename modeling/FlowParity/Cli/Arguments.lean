import FlowParity.Cli.Request
import FlowParity.Text.Integer
/-!
# Arguments

A command line is options, the name of a command, and more options. Options that
concern every command may stand on either side of its name, and the later side
counts; on one side an option may be given once. Reading goes from left to right
and ends at the first argument that makes no sense or asks for help or the version.
-/

namespace FlowParity.Cli

open Text

/-- The commands. -/
inductive Command
  /-- Compares two flow files. -/
  | validate
  /-- Checks a rule file. -/
  | check
  /-- Sums up a flow file. -/
  | inspect
  /-- Tells the version. -/
  | version
  deriving DecidableEq, Repr

namespace Command

/-- All commands. -/
def all : List Command := [validate, check, inspect, version]

/-- The name of a command. -/
def toText : Command → String
  | validate => "validate"
  | check => "check"
  | inspect => "inspect"
  | version => "version"

/-- The command of a name. -/
def ofText? (s : String) : Option Command :=
  all.find? fun c => c.toText = s

end Command

/-- Why a command line makes no request. -/
inductive Halt
  /-- An argument makes no sense or is missing. -/
  | refused
  /-- Help is asked for. -/
  | help
  /-- The version of the program or of a command is asked for. -/
  | version (command : Option Command)
  deriving DecidableEq, Repr

/-- The options that take a value. -/
inductive Setting
  /-- The form of the answer. -/
  | format
  /-- The form of the log. -/
  | logFormat
  /-- The flow file that is tested. -/
  | candidate
  /-- The flow file that is trusted. -/
  | reference
  /-- The rule file. -/
  | rules
  /-- The active timeout. -/
  | active
  /-- The inactive timeout. -/
  | inactive
  /-- The start time. -/
  | startTime
  /-- The datasets with relative times. -/
  | scope
  /-- The flow file that is summed up. -/
  | file
  deriving DecidableEq, Repr

namespace Setting

/-- The name of an option. -/
def toText : Setting → String
  | format => "format"
  | logFormat => "log-format"
  | candidate => "candidate"
  | reference => "reference"
  | rules => "rules"
  | active => "active-timeout"
  | inactive => "inactive-timeout"
  | startTime => "start-time"
  | scope => "offset-scope"
  | file => "file"

/-- The options with a value that a command knows; without a command, those of all commands. -/
def known : Option Command → List Setting
  | none => [format, logFormat]
  | some .validate =>
    [format, logFormat, candidate, reference, rules, active, inactive, startTime, scope]
  | some .check => [format, logFormat, rules]
  | some .inspect => [format, logFormat, file, active, inactive]
  | some .version => [format, logFormat]

end Setting

/-- The options that one side of a command line gives. -/
structure Given where
  /-- The form of the answer. -/
  format : Option OutputFormat
  /-- The form of the log. -/
  logFormat : Option Log.Format
  /-- How often more logging is asked for. -/
  verbose : Nat
  /-- Whether less logging is asked for. -/
  quiet : Bool
  /-- Whether colours are unwanted. -/
  noColor : Bool
  /-- The flow file that is tested. -/
  candidate : Option String
  /-- The flow file that is trusted. -/
  reference : Option String
  /-- The rule file. -/
  rules : Option String
  /-- The active timeout in seconds. -/
  active : Option Counter
  /-- The inactive timeout in seconds. -/
  inactive : Option Counter
  /-- The start time. -/
  startTime : Option Timestamp
  /-- The datasets with relative times. -/
  scope : Option OffsetScope
  /-- The flow file that is summed up. -/
  file : Option String
  deriving DecidableEq

namespace Given

/-- No options. -/
def empty : Given :=
  ⟨none, none, 0, false, false, none, none, none, none, none, none, none, none⟩

/-- A new value for an option, if it reads as one and the option was not given before. -/
def once {α : Type} (old new : Option α) : Except Halt (Option α) :=
  match old, new with
  | none, some a => .ok (some a)
  | _, _ => .error .refused

/-- A path: any text but the empty one. -/
def path? (text : String) : Option String :=
  if text.isEmpty then none else some text

/-- A number of seconds. -/
def seconds? (text : String) : Option Counter :=
  match readNat Counter.maximum text.toList with
  | .ok n => Counter.ofNat? n
  | .error _ => none

/-- An instant. -/
def instant? (text : String) : Option Timestamp :=
  match Timestamp.parse text with
  | .ok t => some t
  | .error _ => none

/-- The options with a value for one more of them. -/
def set (g : Given) (setting : Setting) (text : String) : Except Halt Given :=
  match setting with
  | .format => do return { g with format := ← once g.format (OutputFormat.ofText? text) }
  | .logFormat => do return { g with logFormat := ← once g.logFormat (Log.Format.ofText? text) }
  | .candidate => do return { g with candidate := ← once g.candidate (path? text) }
  | .reference => do return { g with reference := ← once g.reference (path? text) }
  | .rules => do return { g with rules := ← once g.rules (path? text) }
  | .active => do return { g with active := ← once g.active (seconds? text) }
  | .inactive => do return { g with inactive := ← once g.inactive (seconds? text) }
  | .startTime => do return { g with startTime := ← once g.startTime (instant? text) }
  | .scope => do return { g with scope := ← once g.scope (OffsetScope.ofText? text) }
  | .file => do return { g with file := ← once g.file (path? text) }

/-- The options with one more request for logging. -/
def louder (g : Given) : Given := { g with verbose := Nat.min (g.verbose + 1) 255 }

/-- The options with the request for less logging, which counts once. -/
def hush (g : Given) : Except Halt Given :=
  if g.quiet then .error .refused else .ok { g with quiet := true }

/-- The options without colours, which counts once. -/
def uncolored (g : Given) : Except Halt Given :=
  if g.noColor then .error .refused else .ok { g with noColor := true }

/-- The options after the letters of an argument with one dash, and the option that still wants a
value. -/
def letters (command : Option Command) (g : Given) :
    List Char → Except Halt (Given × Option Setting)
  | [] => .ok (g, none)
  | c :: rest =>
    match c with
    | 'v' => letters command g.louder rest
    | 'q' => do
      let g ← g.hush
      letters command g rest
    | 'h' => .error .help
    | 'V' => .error (.version command)
    | 'f' =>
      match rest with
      | [] => .ok (g, some .format)
      | '=' :: text => do return (← g.set .format (String.ofList text), none)
      | text => do return (← g.set .format (String.ofList text), none)
    | _ => .error .refused

/-- The options after an option without a value. -/
def flag (command : Option Command) (g : Given) (name : String) : Except Halt Given :=
  if name = "verbose" then .ok g.louder
  else if name = "quiet" then g.hush
  else if name = "no-color" then g.uncolored
  else if name = "help" then .error .help
  else if name = "version" then .error (.version command)
  else .error .refused

/-- The options after an argument with two dashes, and the option that still wants a value. -/
def long (command : Option Command) (g : Given) (body : List Char) :
    Except Halt (Given × Option Setting) :=
  let name := String.ofList (body.takeWhile (· ≠ '='))
  match (Setting.known command).find? (·.toText = name), cut? '=' body with
  | some setting, some (_, value) => do return (← g.set setting (String.ofList value), none)
  | some setting, none => .ok (g, some setting)
  | none, none => do return (← g.flag command name, none)
  | none, some _ => .error .refused

/-- Whether an argument can be the value of the option before it. -/
def isValue (arg : String) : Bool :=
  arg.toList.head? ≠ some '-' || arg = "-"

/-- What is read of one side of a command line. -/
structure Side where
  /-- The options. -/
  given : Given
  /-- A last option with its value, not yet looked at. -/
  pending : Option (Setting × String)
  /-- The arguments from the first one on that is no option. -/
  rest : List String

/-- All the options of a side, the pending one too. -/
def Side.complete (side : Side) : Except Halt Given :=
  match side.pending with
  | none => .ok side.given
  | some (setting, text) => side.given.set setting text

/-- **The options at the start of a list of arguments.** A value in an argument of its own is looked
at when the next option comes; one right before an argument that is no option stays pending. -/
def read (command : Option Command) (g : Given) : List String → Except Halt Side
  | [] => .ok ⟨g, none, []⟩
  | arg :: rest =>
    if isValue arg then .ok ⟨g, none, arg :: rest⟩
    else if arg = "--" then if rest.isEmpty then .ok ⟨g, none, []⟩ else .error .refused
    else
      let step := match arg.toList with
        | '-' :: '-' :: body => g.long command body
        | body => g.letters command (body.drop 1)
      match step with
      | .error halt => .error halt
      | .ok (g, none) => read command g rest
      | .ok (g, some setting) =>
        match rest with
        | [] => .error .refused
        | value :: rest =>
          if !isValue value then .error .refused
          else if rest.head?.any isValue then .ok ⟨g, some (setting, value), rest⟩
          else match g.set setting value with
            | .error halt => .error halt
            | .ok g => read command g rest

end Given

/-- The variable that names the rule file. -/
def rulesVariable : String := "FT_RULES"

/-- A value that must be there. -/
def required {α : Type} : Option α → Except Halt α
  | some a => .ok a
  | none => .error .refused

/-- An option, or else the value that the environment gives it, which must then read as one. -/
def orVariable {α : Type} (given : Option α) (setting? : Option String)
    (read : String → Option α) : Except Halt (Option α) :=
  match given, setting? with
  | some a, _ => .ok (some a)
  | none, none => .ok none
  | none, some text =>
    match read text with
    | some a => .ok (some a)
    | none => .error .refused

/-- The task of a command with its options. -/
def taskOf (env : Log.Environment) (command : Command) (g : Given) : Except Halt Task :=
  match command with
  | .validate => do
    let rules ← orVariable g.rules (env rulesVariable) Given.path?
    return .validate (← required g.candidate) (← required g.reference) (← required rules)
      ⟨g.active, g.inactive, g.startTime, g.scope⟩
  | .check => do
    let rules ← orVariable g.rules (env rulesVariable) Given.path?
    return .check (← required rules)
  | .inspect => do
    return .inspect (← required g.file) (g.active.getD Settings.defaultActive)
      (g.inactive.getD Settings.defaultInactive)
  | .version => .ok .version

/-- The request of the options on both sides of a command. -/
def requestOf (env : Log.Environment) (command : Command) (before after : Given) :
    Except Halt Request := do
  let task ← taskOf env command after
  let setting? := env Log.formatVariable
  let late ← orVariable after.logFormat setting? Log.Format.ofText?
  let early ← orVariable before.logFormat setting? Log.Format.ofText?
  let verbose := if after.verbose = 0 then before.verbose else after.verbose
  return {
    output := (Settings.first after.format before.format).getD .text
    noColor := before.noColor || after.noColor
    verbosity := Log.Verbosity.ofFlags verbose (before.quiet || after.quiet)
    logFormat :=
      Settings.first after.logFormat (Settings.first before.logFormat (Settings.first late early))
    task := task }

/-- What the arguments after `help` ask for. -/
def helpFor : List String → Halt
  | [] => .help
  | [name] => if name = "help" || (Command.ofText? name).isSome then .help else .refused
  | _ => .refused

/-- **The request of a list of arguments.** An option that is pending before the name of the command
is looked at only after all that follows the name. -/
def Request.parse (env : Log.Environment) (args : List String) : Except Halt Request := do
  let before ← Given.empty.read none args
  match before.rest with
  | [] => .error .refused
  | name :: rest =>
    if name = "help" then .error (helpFor rest)
    else
      match Command.ofText? name with
      | none => .error .refused
      | some command => do
        let after ← Given.empty.read (some command) rest
        if after.rest.isEmpty then requestOf env command (← before.complete) (← after.complete)
        else .error .refused

end FlowParity.Cli
