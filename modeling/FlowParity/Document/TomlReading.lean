import FlowParity.Document.TomlScalar
import FlowParity.Document.TomlTable
/-!
# Reading TOML

A TOML text is a list of lines: assignments, headers, comments and blank lines.
It is read into assignments and sections, from which `build` makes the document.
As for JSON, only acceptance and meaning count. Lists and inline tables nest less
than eighty deep.
-/

namespace FlowParity.Document.Toml

/-- The deepest nesting of lists and inline tables. -/
def maxDepth : Nat := 79

/-- The text from its first character that is no blank of a line. -/
def skipSpace (s : List Char) : List Char :=
  s.dropWhile isSpace

/-- A character of a key without quotes. -/
def isBareChar (c : Char) : Bool :=
  c.isAlphanum || c = '_' || c = '-'

/-- One part of a key, and the rest. Strings over several lines are no keys. -/
def keyPart? (s : List Char) : Option (String × List Char) :=
  match s with
  | '"' :: '"' :: '"' :: _ | '\'' :: '\'' :: '\'' :: _ => none
  | '"' :: _ | '\'' :: _ => string? s
  | _ =>
    let bare := s.takeWhile isBareChar
    if bare.isEmpty then none else some (String.ofList bare, s.drop bare.length)

/-- The parts of a key, at least one, with blanks allowed around each, and the rest. -/
def key? (fuel : Nat) (s : List Char) : Option (List String × List Char) :=
  match fuel with
  | 0 => none
  | fuel + 1 => do
    let (part, rest) ← keyPart? (skipSpace s)
    match skipSpace rest with
    | '.' :: rest =>
      let (parts, rest) ← key? fuel rest
      return (part :: parts, rest)
    | rest => return ([part], rest)

/-- The rest after a comment, from its line end. -/
def skipComment? (s : List Char) : Option (List Char) :=
  match s with
  | '#' :: rest =>
    let rest := rest.dropWhile isPlain
    match rest with
    | [] | '\n' :: _ => some rest
    | _ => none
  | s => some s

/-- The text from its first character that is no blank, line end or comment. -/
def skipLines? (fuel : Nat) (s : List Char) : Option (List Char) :=
  match fuel with
  | 0 => none
  | fuel + 1 =>
    let s := s.dropWhile isSpaceOrNewline
    if s.head? = some '#' then (skipComment? s).bind (skipLines? fuel) else some s

/-- The key of an assignment up to the value after its equals sign. -/
def assignee? (s : List Char) : Option ((List String × String) × List Char) := do
  let (parts, rest) ← key? (s.length + 1) s
  let rest ← expect? '=' rest
  let name ← parts.getLast?
  if maxDepth < parts.length then none
  return ((parts.dropLast, name), skipSpace rest)

mutual

/-- The value at the start of a text, and the rest. -/
def value? (fuel depth : Nat) (s : List Char) : Option (Document × List Char) :=
  match fuel with
  | 0 => none
  | fuel + 1 =>
    match s with
    | '"' :: _ | '\'' :: _ => (string? s).map fun (text, rest) => (.string text, rest)
    | '[' :: rest =>
      if depth = 0 then none
      else (items? fuel (depth - 1) rest).map fun (items, rest) => (.list items, rest)
    | '\x7b' :: rest =>
      if depth = 0 then none
      else
        match skipSpace rest with
        | '\x7d' :: rest => some (.table [], rest)
        | rest => do
          let (assignments, rest) ← members? fuel (depth - 1) rest
          let members ← Members.assignAll [] assignments
          return (.table (membersToDocument members), rest)
    | _ => word? s

/-- The items of a list up to its closing bracket, and the rest. A comma may follow the last. -/
def items? (fuel depth : Nat) (s : List Char) : Option (List Document × List Char) :=
  match fuel with
  | 0 => none
  | fuel + 1 => do
    match ← skipLines? (s.length + 1) s with
    | ']' :: rest => return ([], rest)
    | s =>
      let (item, rest) ← value? fuel depth s
      match ← skipLines? (rest.length + 1) rest with
      | ',' :: rest =>
        let (later, rest) ← items? fuel depth rest
        return (item :: later, rest)
      | ']' :: rest => return ([item], rest)
      | _ => none

/-- The assignments of an inline table up to its closing brace, at least one, and the rest. -/
def members? (fuel depth : Nat) (s : List Char) : Option (List Assignment × List Char) :=
  match fuel with
  | 0 => none
  | fuel + 1 => do
    let ((path, name), rest) ← assignee? s
    let (item, rest) ← value? fuel depth rest
    match skipSpace rest with
    | ',' :: rest =>
      let (later, rest) ← members? fuel depth rest
      return (⟨path, name, item⟩ :: later, rest)
    | '\x7d' :: rest => return ([⟨path, name, item⟩], rest)
    | _ => none

end

/-- The rest after what may still stand in a line: blanks and a comment. -/
def endLine? (s : List Char) : Option (List Char) := do
  match ← skipComment? (skipSpace s) with
  | [] => return []
  | '\n' :: rest => return rest
  | _ => none

/-- A line with a meaning. -/
inductive Line
  /-- An assignment. -/
  | assignment (a : Assignment)
  /-- A header: whether it starts a new table of a list, and the parts of its key. -/
  | header (inList : Bool) (path : List String) (name : String)

/-- A header after its brackets, and the rest of the text after its line. -/
def header? (inList : Bool) (s : List Char) : Option (Line × List Char) := do
  let (parts, rest) ← key? (s.length + 1) s
  let name ← parts.getLast?
  if maxDepth < parts.length then none
  let rest ← expect? ']' rest
  let rest ← if inList then expect? ']' rest else some rest
  let rest ← endLine? rest
  return (.header inList parts.dropLast name, rest)

/-- The lines with a meaning, in order. -/
def lines? (fuel : Nat) (s : List Char) : Option (List Line) :=
  match fuel with
  | 0 => none
  | fuel + 1 => do
    match ← skipLines? (s.length + 1) s with
    | [] => return []
    | '[' :: '[' :: rest =>
      let (line, rest) ← header? true rest
      let later ← lines? fuel rest
      return line :: later
    | '[' :: rest =>
      let (line, rest) ← header? false rest
      let later ← lines? fuel rest
      return line :: later
    | s =>
      let ((path, name), rest) ← assignee? s
      let (item, rest) ← value? (2 * rest.length + 2) maxDepth rest
      let rest ← endLine? rest
      let later ← lines? fuel rest
      return .assignment ⟨path, name, item⟩ :: later

/-- The assignments before the first header, and a section for each header. -/
def sections : List Line → List Assignment × List Section
  | [] => ([], [])
  | .assignment a :: later =>
    let (assignments, rest) := sections later
    (a :: assignments, rest)
  | .header inList path name :: later =>
    let (assignments, rest) := sections later
    ([], ⟨inList, path, name, assignments⟩ :: rest)

end Toml

/-- **The document of a TOML text**, if it is one. -/
def ofToml? (text : String) : Option Document := do
  let s := Toml.withNewlines text.toList
  let s := if s.head? = some '\ufeff' then s.drop 1 else s
  let lines ← Toml.lines? (s.length + 1) s
  let (assignments, sections) := Toml.sections lines
  Toml.build assignments sections

end FlowParity.Document
