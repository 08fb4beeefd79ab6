import FlowParity.Document.JsonReading
import FlowParity.Document.TomlReading
import FlowParity.RuleFile.Check
import FlowParity.RuleFile.Reading
/-!
# Where rule files come from

The text of a rule file is JSON if its file name ends in `.json`, in letters of
either case, and TOML otherwise.
-/

namespace FlowParity

open Text

/-- The part of a file name after its last point; a point at the start does not count. -/
def extension? (name : List Char) : Option (List Char) :=
  if name.drop 1 |>.contains '.' then some (afterLast '.' name) else none

/-- The format of the rule file at a path. -/
def RuleFormat.ofPath (path : String) : RuleFormat :=
  let name := afterLast '/' path.toList
  if (extension? name).any (sameLetters · "json".toList) then json else toml

namespace RuleFile

/-- The rule file that a text is in one of the formats. -/
def ofText? (format : RuleFormat) (text : String) : Option RuleFile :=
  match format with
  | .toml => (Document.ofToml? text).bind (ofDocument? .toml)
  | .json => (Document.ofJson? text).bind (ofDocument? .json)

/-- **The rule file of a text.** -/
def parse (format : RuleFormat) (text : String) : Except RuleFileFault RuleFile :=
  match ofText? format text with
  | some f => .ok f
  | none => .error (.unparseable format)

/-- The rule file at a path. -/
def ofFile (files : Files) (path : String) : Except RuleFileFault RuleFile :=
  match files path with
  | .ok text => parse (.ofPath path) text
  | .error fault => .error (.unreadable path fault)

end RuleFile

end FlowParity
