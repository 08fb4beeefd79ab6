import FlowParity.Document.Basic
import FlowParity.Number.Notation
/-!
# JSON text

A document is written as JSON in one line (`compact`) or over several lines,
two blanks to a level (`pretty`). Numbers that are not finite have no JSON form
and are written as null, like dates and unreadable values.
-/

namespace FlowParity.Document

/-- Four hexadecimal digits. -/
def hex4 (n : Nat) : List Char :=
  [n / 4096 % 16, n / 256 % 16, n / 16 % 16, n % 16].map Nat.digitChar

/-- A character inside a JSON string: quotes, backslashes and control characters are escaped. -/
def escapeChar (c : Char) : List Char :=
  if c = '"' then ['\\', '"']
  else if c = '\\' then ['\\', '\\']
  else if c = '\n' then ['\\', 'n']
  else if c = '\r' then ['\\', 'r']
  else if c = '\t' then ['\\', 't']
  else if c.toNat = 8 then ['\\', 'b']
  else if c.toNat = 12 then ['\\', 'f']
  else if c.toNat < 32 then '\\' :: 'u' :: hex4 c.toNat
  else [c]

/-- A text in quotes. -/
def quoted (s : String) : String :=
  "\"" ++ String.ofList (s.toList.flatMap escapeChar) ++ "\""

mutual

/-- The document as JSON in one line without blanks. -/
def compact : Document → String
  | null => "null"
  | bool true => "true"
  | bool false => "false"
  | integer n => toString n
  | float x => (x.toData?).getD "null"
  | string s => quoted s
  | list items => "[" ++ ",".intercalate (compactItems items) ++ "]"
  | table members => "\x7b" ++ ",".intercalate (compactMembers members) ++ "\x7d"
  | date | unreadable => "null"

/-- The items of a list in one line each. -/
def compactItems : List Document → List String
  | [] => []
  | item :: rest => compact item :: compactItems rest

/-- The members of a table in one line each. -/
def compactMembers : List (String × Document) → List String
  | [] => []
  | (name, value) :: rest => (quoted name ++ ":" ++ compact value) :: compactMembers rest

end

/-- The indentation of a level. -/
def indent (level : Nat) : String :=
  String.ofList (List.replicate (2 * level) ' ')

/-- Parts on lines of their own, one level below `level`, between two brackets. -/
def block (level : Nat) (opening closing : String) (parts : List String) : String :=
  if parts.isEmpty then opening ++ closing
  else
    let lines := parts.map fun part => "\n" ++ indent (level + 1) ++ part
    opening ++ ",".intercalate lines ++ "\n" ++ indent level ++ closing

mutual

/-- The document as JSON over several lines, at a level of indentation. -/
def prettyAt (level : Nat) : Document → String
  | list items => block level "[" "]" (prettyItems (level + 1) items)
  | table members => block level "\x7b" "\x7d" (prettyMembers (level + 1) members)
  | null => compact null
  | bool b => compact (bool b)
  | integer n => compact (integer n)
  | float x => compact (float x)
  | string s => compact (string s)
  | date => compact date
  | unreadable => compact unreadable

/-- The items of a list at a level. -/
def prettyItems (level : Nat) : List Document → List String
  | [] => []
  | item :: rest => prettyAt level item :: prettyItems level rest

/-- The members of a table at a level. -/
def prettyMembers (level : Nat) : List (String × Document) → List String
  | [] => []
  | (name, value) :: rest =>
    (quoted name ++ ": " ++ prettyAt level value) :: prettyMembers level rest

end

/-- The document as JSON over several lines. -/
def pretty (d : Document) : String :=
  prettyAt 0 d

end FlowParity.Document
