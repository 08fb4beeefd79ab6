import FlowParity.Document.Basic
import FlowParity.RuleFile.Spec
/-!
# Reading rule files from data

A rule file is a tree of data with fixed places. A structure is a table with the
declared members, or a list of their values in the declared order. Undeclared
members are refused and so are repeated ones. The two file formats differ a
little in what else they let pass, which a `Dialect` records.
-/

namespace FlowParity

/-- What a file format lets pass in a structure. -/
structure Dialect where
  /-- Whether undeclared members are refused inside segments too. -/
  strictSegments : Bool
  /-- Whether a list may not be longer than the structure it stands for. -/
  strictLists : Bool
  /-- Whether a value stands for nothing after the name of an alternative. -/
  isUnit : Document → Bool

namespace Dialect

/-- The dialect of JSON. -/
def json : Dialect where
  strictSegments := false
  strictLists := true
  isUnit
    | .null => true
    | _ => false

/-- The dialect of TOML. -/
def toml : Dialect where
  strictSegments := true
  strictLists := false
  isUnit
    | .table [] => true
    | .list [] => true
    | _ => false

end Dialect

namespace RuleFile

/-- The value of a member that occurs at most once: absent, or there. -/
def single? (members : List (String × Document)) (name : String) : Option (Option Document) :=
  match members.filter fun m => m.1 = name with
  | [] => some none
  | [m] => some (some m.2)
  | _ => none

/-- What stands at each of the declared names of a structure. -/
def fields? (strictLists strictNames : Bool) (names : List String) :
    Document → Option (List (Option Document))
  | .table members =>
    if strictNames && !(members.all fun m => names.contains m.1) then none
    else names.mapM (single? members)
  | .list items =>
    if strictLists && names.length < items.length then none
    else some ((List.range names.length).map fun i => items[i]?)
  | _ => none

/-- A value that may be absent or null. -/
def optional? {α : Type} (read : Document → Option α) : Option Document → Option (Option α)
  | none | some .null => some none
  | some d => (read d).map some

/-- A value that may be absent, with what it then is. -/
def withDefault? {α : Type} (default : α) (read : Document → Option α) :
    Option Document → Option α
  | none => some default
  | some d => read d

/-- A text. -/
def text? : Document → Option String
  | .string s => some s
  | _ => none

/-- A truth value. -/
def bool? : Document → Option Bool
  | .bool b => some b
  | _ => none

/-- A whole number that is not negative and fits 64 bits. -/
def counter? : Document → Option Counter
  | .integer n => if 0 ≤ n then Counter.ofNat? n.toNat else none
  | _ => none

/-- A number. -/
def number? : Document → Option Binary64
  | .integer n => some (.ofInt n)
  | .float x => some x
  | _ => none

/-- A list of values. -/
def list? {α : Type} (read : Document → Option α) : Document → Option (List α)
  | .list items => items.mapM read
  | _ => none

/-- A name out of a fixed set: as a text, or as a table that gives it nothing. -/
def name? {α : Type} (d : Dialect) (ofText? : String → Option α) : Document → Option α
  | .string s => ofText? s
  | .table [(s, payload)] => if d.isUnit payload then ofText? s else none
  | _ => none

/-- An instant. -/
def instant? : Document → Option InstantSpec
  | .integer n => (Millis.ofInt? n).map .millis
  | .string s => some (.text s)
  | _ => none

/-- The declared names of the settings. -/
def modelNames : List String :=
  ["active_timeout", "inactive_timeout", "start_time", "offset_scope"]

/-- The settings. -/
def model? (d : Dialect) (doc : Document) : Option ModelSpec := do
  match ← fields? d.strictLists true modelNames doc with
  | [active, inactive, start, scope] => return {
      active := ← optional? counter? active
      inactive := ← optional? counter? inactive
      startTime := ← optional? instant? start
      scope := ← optional? (name? d OffsetScope.ofRuleText?) scope }
  | _ => none

/-- The declared names of a metric. -/
def metricNames : List String := ["metric", "tolerance"]

/-- A metric. -/
def metric? (d : Dialect) (doc : Document) : Option MetricSpec := do
  match ← fields? d.strictLists true metricNames doc with
  | [some measure, some tolerance] => return {
      measure := ← name? d Measure.ofRuleText? measure
      tolerance := ← number? tolerance }
  | _ => none

/-- What stands at each of the declared names of a segment. Instead of its table there may be a
date, which names nothing, so the segment is about everything. -/
def segmentFields? (d : Dialect) (names : List String) :
    Document → Option (List (Option Document))
  | .date => some (names.map fun _ => none)
  | doc => fields? d.strictLists d.strictSegments names doc

/-- The declared names of a pair of networks. -/
def subnetNames : List String := ["source", "dest", "bidir"]

/-- A pair of networks. -/
def subnet? (d : Dialect) (doc : Document) : Option SegmentSpec := do
  match ← segmentFields? d subnetNames doc with
  | [source, target, bothWays] =>
    return .subnet (← optional? text? source) (← optional? text? target)
      (← withDefault? false bool? bothWays)
  | _ => none

/-- The declared names of a window of time. -/
def timeNames : List String := ["start", "end"]

/-- A window of time. -/
def time? (d : Dialect) (doc : Document) : Option SegmentSpec := do
  match ← segmentFields? d timeNames doc with
  | [start, finish] => return .time (← optional? instant? start) (← optional? instant? finish)
  | _ => none

/-- A segment: a table with the one member that names its kind. -/
def segment? (d : Dialect) : Document → Option SegmentSpec
  | .table [(kind, doc)] =>
    if kind = "subnet" then subnet? d doc
    else if kind = "time" then time? d doc
    else none
  | _ => none

/-- The declared names of a rule. -/
def ruleNames : List String := ["name", "metrics", "segment"]

/-- A rule. -/
def rule? (d : Dialect) (doc : Document) : Option RuleSpec := do
  match ← fields? d.strictLists true ruleNames doc with
  | [name, some metrics, segment] => return {
      name := ← optional? text? name
      metrics := ← list? (metric? d) metrics
      segment := ← optional? (segment? d) segment }
  | _ => none

/-- The declared names of a rule file. -/
def fileNames : List String := ["model", "rules"]

/-- **The rule file that a document is**, if every part of it stands where it belongs. -/
def ofDocument? (d : Dialect) (doc : Document) : Option RuleFile := do
  match ← fields? d.strictLists true fileNames doc with
  | [model, rules] => return {
      model := ← withDefault? .empty (model? d) model
      rules := ← withDefault? [] (list? (rule? d)) rules }
  | _ => none

end RuleFile

end FlowParity
