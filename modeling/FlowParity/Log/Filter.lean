import FlowParity.Log.Config
import FlowParity.Log.Event
import FlowParity.Log.Pattern
import FlowParity.Text.Bytes
/-!
# Directives

A list of directives says which events a log shows. A directive is a verbosity for
all events, or a target with or without a verbosity for the events that come from
there, possibly only for those that declare a certain name. The most specific directive
that is about an event decides. Directives about spans decide nothing here, for
the program opens none.

Blanks around a directive are put aside to find its parts, but the parts are cut out
of the text with its blanks, at the bytes where they were found. So blanks at the
front shift every part, and blanks at the end belong to the last one.
-/

namespace FlowParity.Log

open Text

/-- A rule for which events are shown. -/
structure Directive where
  /-- The start of the targets it is about; all of them if absent. -/
  target : Option String
  /-- The name that an event must declare, if any. -/
  name : Option String
  /-- How much it shows. -/
  verbosity : Verbosity
  deriving DecidableEq, Repr

/-- What a directive says. -/
inductive Clause
  /-- Something about events. -/
  | events (d : Directive)
  /-- Something about spans. -/
  | spans

namespace Directive

/-- The verbosity of a number, from nothing at 0 to everything at 5. -/
def ofNumber? (n : Nat) : Option Verbosity :=
  [.off, .error, .warn, .info, .debug, .trace][n]?

/-- The verbosity of a number or name in a directive. -/
def verbosity? (text : List Char) : Option Verbosity :=
  match readNat 5 text with
  | .ok n => ofNumber? n
  | .error _ => Verbosity.all.find? fun v => sameLetters v.toText.toList text

/-- The verbosity that `whole` has from the place after `before`: everything if it ends there. -/
def verbosityAfter? (whole before : List Char) : Option Verbosity :=
  match dropBytes (byteSize before) whole with
  | [] => some .trace
  | text => verbosity? text

/-- The verbosity of what follows a closing bracket, found after `before`. -/
def suffix? (whole before : List Char) : List Char → Option Verbosity
  | [] => some .trace
  | '=' :: _ => verbosityAfter? whole (before ++ ['='])
  | _ => none

/-- The clause about a field. Without a span and without a value it is a name that events must
declare. -/
def fieldClause? (target : Option String) (hasSpan : Bool) (field : List Char) (v : Verbosity) :
    Option Clause :=
  match split '=' field with
  | _ :: value :: _ => if isFieldValue value then some .spans else none
  | _ => some (if hasSpan then .spans else .events ⟨target, some (String.ofList field), v⟩)

/-- The clause that goes on after a target and an opening bracket, `before`: the name of a span,
then a field between braces, either of which may be absent. -/
def bracketed? (target : Option String) (whole before inside : List Char) : Option Clause := do
  let span := inside.takeWhile fun c => c ≠ ']' && c ≠ '\x7b'
  let before := before ++ span
  match inside.drop span.length with
  | ']' :: rest =>
    let _ ← suffix? whole (before ++ [']']) rest
    return .spans
  | '\x7b' :: inside =>
    let before := before ++ ['\x7b']
    let field := inside.takeWhile (· ≠ '\x7d')
    if field.isEmpty then none
    match inside.drop field.length with
    | '\x7d' :: ']' :: rest =>
      let v ← suffix? whole (before ++ field ++ ['\x7d', ']']) rest
      fieldClause? target (!span.isEmpty) (excerpt whole before field) v
    | _ => none
  | _ => none

/-- Whether a character can be the first one of a target or verbosity. -/
def isStart (c : Char) : Bool :=
  isLetterOrNumber c || c = '-' || c = ':' || c = '_'

/-- The clause of a text: a bare verbosity or target, or a target with a field or a verbosity after
it. -/
def parse? (whole : List Char) : Option Clause :=
  let text := trim whole
  let subject := text.takeWhile fun c => c ≠ '=' && c ≠ '['
  let target := String.ofList (excerpt whole [] subject)
  match text.drop subject.length with
  | '[' :: inside =>
    if subject.isEmpty then bracketed? none whole ['['] inside
    else if subject.head?.any isStart then bracketed? (some target) whole (subject ++ ['[']) inside
    else none
  | '=' :: _ =>
    if subject.head?.any isStart then
      (verbosityAfter? whole (subject ++ ['='])).map fun v => .events ⟨some target, none, v⟩
    else none
  | _ =>
    if !subject.head?.any isStart then none
    else match verbosity? whole with
      | some v => some (.events ⟨none, none, v⟩)
      | none => some (.events ⟨some (String.ofList whole), none, .trace⟩)

/-- Whether the directive is about an event. -/
def concerns (d : Directive) (e : Event) : Bool :=
  d.target.all (fun t => t.toList.isPrefixOf e.target.toList) && d.name.all e.names.contains

/-- How long the target is. -/
def reach (d : Directive) : Nat :=
  (d.target.map fun t => t.utf8ByteSize + 1).getD 0

/-- Whether `a` is at least as specific as `b`: a longer target, then a name, then one that is not
before the other in the order of text. -/
def outranks (a b : Directive) : Bool :=
  if a.reach ≠ b.reach then b.reach < a.reach
  else match a.name, b.name with
    | none, some _ => false
    | some x, some y => !(x < y)
    | _, none => true

end Directive

/-- The directives of an event log; none if one of them cannot be read. An empty list shows
failures only. -/
def directives? (text : String) : Option (List Directive) := do
  let texts := (split ',' text.toList).filter (!·.isEmpty)
  let clauses ← texts.mapM Directive.parse?
  if clauses.isEmpty then return [⟨none, none, .error⟩]
  return clauses.filterMap fun
    | .events d => some d
    | .spans => none

/-- The most specific directive about an event; of equally specific ones the last. -/
def decisive? (directives : List Directive) (e : Event) : Option Directive :=
  (directives.filter (·.concerns e)).foldl
    (fun best d => if best.all (d.outranks ·) then some d else best) none

/-- **Whether directives let an event through.** -/
def admits (directives : List Directive) (e : Event) : Bool :=
  (decisive? directives e).any fun d => d.verbosity.shows e.severity

/-- **Whether a log shows an event**: by the directives of the environment if they can be read,
else by the verbosity of its settings. -/
def isShown (env : Environment) (config : Config) (e : Event) : Bool :=
  match (env directivesVariable).bind directives? with
  | some directives => admits directives e
  | none => config.verbosity.shows e.severity

end FlowParity.Log
