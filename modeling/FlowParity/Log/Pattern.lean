import FlowParity.Text.Blank
import FlowParity.Text.Fields
import FlowParity.Text.Integer
import FlowParity.Text.Letters
/-!
# Patterns

A directive may ask for a field with a certain value: a number, a truth value, or
a pattern for the text of one. No span is ever opened, so what a pattern matches
never matters here, only whether a text is a pattern at all: `isPattern`. Reading
one gives how deep its parts nest, which has a limit.

Patterns know characters by their code only. Whatever needs a table of letters is
refused unless the pattern is about bytes: letters of either case, and the classes
of digits, blanks and words and the edges of words.
-/

namespace FlowParity.Log

open Text

namespace Pattern

/-- What the flags of a pattern say about the text after them. -/
structure Modes where
  /-- Whether letters match in either case. -/
  caseless : Bool
  /-- Whether the pattern is about characters and not about bytes. -/
  unicode : Bool
  /-- Whether blanks and comments between the parts do not count. -/
  spaced : Bool

/-- The modes at the start of a pattern. -/
def Modes.initial : Modes := ⟨false, true, false⟩

/-- The text after blanks and after comments, each of which ends with its line. -/
def skipBlanks (inComment : Bool) : List Char → List Char
  | [] => []
  | c :: rest =>
    if inComment then skipBlanks (c ≠ '\n') rest
    else if isBlank c then skipBlanks false rest
    else if c = '#' then skipBlanks true rest
    else c :: rest

/-- The text from its next part. -/
def Modes.skip (m : Modes) (s : List Char) : List Char :=
  if m.spaced then skipBlanks false s else s

/-- The depth of some parts side by side: a single part needs no level of its own. -/
def joined : List Nat → Nat
  | [] => 0
  | [depth] => depth
  | depth :: rest => 1 + rest.foldl Nat.max depth

/-- What an escape stands for. -/
inductive Escape
  /-- A character, possibly written as a byte. -/
  | literal (c : Char) (isByte : Bool)
  /-- A class of characters, or what is outside of it. -/
  | characters (isNegated : Bool)
  /-- The start or the end of the text. -/
  | textEdge
  /-- A place where a word begins or ends, or does not. -/
  | wordEdge

/-- A number of hexadecimal digits after a value, and the rest. -/
def hexadecimal? (m : Modes) : Nat → Nat → List Char → Option (Nat × List Char)
  | 0, value, s => some (value, s)
  | count + 1, value, s =>
    match m.skip s with
    | [] => none
    | c :: rest => (hexDigit? c).bind fun d => hexadecimal? m count (16 * value + d) rest

/-- The character of a number of hexadecimal digits, and the rest. -/
def coded? (m : Modes) (count : Nat) (isByte : Bool) (s : List Char) :
    Option (Escape × List Char) :=
  (hexadecimal? m count 0 s).bind fun (n, rest) =>
    if n.isValidChar then some (.literal (Char.ofNat n) isByte, rest) else none

/-- The escape after a backslash, and the rest. A sign of ASCII other than the angles stands for
itself. -/
def escape? (m : Modes) : List Char → Option (Escape × List Char)
  | [] => none
  | c :: rest =>
    match c with
    | 'x' => coded? m 2 true rest
    | 'u' => coded? m 4 false rest
    | 'U' => coded? m 8 false rest
    | 'd' | 's' | 'w' => some (.characters false, rest)
    | 'D' | 'S' | 'W' => some (.characters true, rest)
    | 'a' => some (.literal '\x07' false, rest)
    | 't' => some (.literal '\t' false, rest)
    | 'n' => some (.literal '\n' false, rest)
    | 'v' => some (.literal '\x0b' false, rest)
    | 'f' => some (.literal '\x0c' false, rest)
    | 'r' => some (.literal '\r' false, rest)
    | 'A' | 'z' => some (.textEdge, rest)
    | 'b' | 'B' | '<' | '>' => some (.wordEdge, rest)
    | c => if c.isAlphanum || 127 < c.toNat then none else some (.literal c false, rest)

/-- Whether a character may stand for itself. -/
def Modes.admits (m : Modes) (c : Char) (isByte : Bool) : Bool :=
  if m.unicode then !m.caseless else !(isByte && 127 < c.toNat)

/-- Whether a character may stand for itself in a set. -/
def Modes.admitsInSet (m : Modes) (c : Char) : Bool :=
  if m.unicode then !m.caseless else c.toNat ≤ 127

/-- Whether a class of characters, or what is outside of it, is known. -/
def Modes.admitsCharacters (m : Modes) (isNegated : Bool) : Bool :=
  !m.unicode && !isNegated

/-- Whether a named class of ASCII characters, or what is outside of it, may stand in a set. -/
def Modes.admitsNamed (m : Modes) (isNegated : Bool) : Bool :=
  if m.unicode then !m.caseless else !isNegated

/-- Whether an escape may stand outside of sets. -/
def Modes.admitsEscape (m : Modes) : Escape → Bool
  | .literal c isByte => m.admits c isByte
  | .characters isNegated => m.admitsCharacters isNegated
  | .textEdge => true
  | .wordEdge => !m.unicode

/-- Whether an escape may stand in a set. -/
def Modes.admitsItem (m : Modes) : Escape → Bool
  | .literal c _ => m.admitsInSet c
  | .characters isNegated => m.admitsCharacters isNegated
  | .textEdge | .wordEdge => false

/-- The names of the classes of ASCII characters. -/
def classNames : List String :=
  ["alnum", "alpha", "ascii", "blank", "cntrl", "digit", "graph", "lower", "print", "punct",
   "space", "upper", "word", "xdigit"]

/-- The class of ASCII characters named after an opening bracket: whether what is outside of it is
meant, and the rest. -/
def namedClass? : List Char → Option (Bool × List Char)
  | ':' :: rest =>
    let isNegated := rest.head? = some '^'
    let rest := if isNegated then rest.drop 1 else rest
    let name := rest.takeWhile (· ≠ ':')
    match rest.drop name.length with
    | ':' :: ']' :: rest =>
      if classNames.contains (String.ofList name) then some (isNegated, rest) else none
    | _ => none
  | _ => none

/-- One end of a range in a set, and the rest. -/
def endpoint? (m : Modes) : List Char → Option (Escape × List Char)
  | [] => none
  | '\\' :: rest => escape? m rest
  | c :: rest => some (.literal c false, rest)

/-- The rest after a single item or a range in a set. A minus sign before another one or before the
end of the set makes no range. -/
def skipRange? (m : Modes) (s : List Char) : Option (List Char) := do
  let (first, rest) ← endpoint? m s
  let single := if m.admitsItem first then some rest else none
  match m.skip rest with
  | '-' :: rest =>
    match m.skip rest with
    | [] => none
    | ']' :: _ | '-' :: _ => single
    | rest =>
      let (last, rest) ← endpoint? m rest
      match first, last with
      | .literal a _, .literal b _ =>
        if a ≤ b && m.admitsInSet a && m.admitsInSet b then some rest else none
      | _, _ => none
  | _ => single

/-- The minus signs at the start of a set, and the rest. -/
def minuses (m : Modes) : List Char → Nat × List Char
  | [] => (0, [])
  | c :: rest =>
    if c = '-' then
      let (count, rest) := minuses m rest
      (count + 1, rest)
    else if m.spaced && isBlank c then minuses m rest
    else (0, c :: rest)

/-- The start of a set. -/
structure SetStart where
  /-- How many items are read already: minus signs, or a closing bracket. -/
  count : Nat
  /-- The rest. -/
  rest : List Char

/-- The start of a set after its opening bracket. Here minus signs and a closing bracket stand for
themselves. A set of all bytes but some has some that are no text. -/
def setStart? (m : Modes) (s : List Char) : Option SetStart := do
  let s := m.skip s
  let isNegated := s.head? = some '^'
  if isNegated && !m.unicode then none
  let s := if isNegated then m.skip (s.drop 1) else s
  let (count, s) := minuses m s
  if 0 < count && !m.admitsInSet '-' then none
  match count, s with
  | 0, ']' :: rest => if m.admitsInSet ']' then return ⟨1, rest⟩ else none
  | _, _ => return ⟨count, s⟩

/-- The depth of what a set holds so far: the items after the last operator, beside the sets that
the operators before it join. -/
def setDepth (left : Option Nat) (items : List Nat) : Nat :=
  match left with
  | none => joined items
  | some depth => 1 + Nat.max depth (joined items)

/-- The depth of the items of a set up to its closing bracket, and the rest. -/
def items? (fuel : Nat) (m : Modes) (left : Option Nat) (items : List Nat) (s : List Char) :
    Option (Nat × List Char) :=
  match fuel with
  | 0 => none
  | fuel + 1 =>
    match m.skip s with
    | [] => none
    | ']' :: rest => some (setDepth left items, rest)
    | '&' :: '&' :: rest | '-' :: '-' :: rest | '~' :: '~' :: rest =>
      items? fuel m (some (setDepth left items)) [] rest
    | '[' :: rest =>
      match namedClass? rest with
      | some (isNegated, rest) =>
        if m.admitsNamed isNegated then items? fuel m left (0 :: items) rest else none
      | none => do
        let start ← setStart? m rest
        let (depth, rest) ← items? fuel m none (List.replicate start.count 0) start.rest
        items? fuel m left ((1 + depth) :: items) rest
    | s => (skipRange? m s).bind (items? fuel m left (0 :: items))

/-- The flags up to the colon or parenthesis that ends them, and the rest from there. None stands
twice, and the minus sign, which unsets those after it, is not the last. -/
def flags? (seen : List Char) : List Char → Option (List Char × List Char)
  | [] => none
  | c :: rest =>
    if c = ':' || c = ')' then
      if seen.getLast? = some '-' then none else some (seen, c :: rest)
    else if "-ismuURx".toList.contains c && !seen.contains c then flags? (seen ++ [c]) rest
    else none

/-- What some flags say about one of them, if anything. -/
def setting? (flags : List Char) (flag : Char) : Option Bool :=
  if flags.contains flag then some !(flags.takeWhile (· ≠ flag)).contains '-' else none

/-- The modes after some flags. -/
def Modes.after (m : Modes) (flags : List Char) : Modes where
  caseless := (setting? flags 'i').getD m.caseless
  unicode := (setting? flags 'u').getD m.unicode
  spaced := (setting? flags 'x').getD m.spaced

/-- Whether a text can be the name of a group. -/
def isName : List Char → Bool
  | [] => false
  | c :: rest =>
    (c = '_' || isLetter c) &&
      rest.all fun c => c = '_' || c = '.' || c = '[' || c = ']' || isLetterOrNumber c

/-- What an opening parenthesis begins. -/
inductive Opening
  /-- Nothing: flags that hold up to the end of the group that it is in. -/
  | flags (m : Modes)
  /-- A group, possibly with a name. -/
  | group (m : Modes) (name : Option (List Char))

/-- A group with a name up to its angle, and the rest. -/
def named? (m : Modes) (s : List Char) : Option (Opening × List Char) :=
  let name := s.takeWhile (· ≠ '>')
  match s.drop name.length with
  | [] => none
  | _ :: rest => if isName name then some (.group m (some name), rest) else none

/-- What begins after an opening parenthesis, and the rest. -/
def opening? (m : Modes) (s : List Char) : Option (Opening × List Char) :=
  match s with
  | '?' :: 'P' :: '<' :: rest => named? m rest
  | '?' :: '<' :: rest => named? m rest
  | '?' :: rest =>
    match flags? [] rest with
    | some ([], ')' :: _) => none
    | some (flags, ')' :: rest) => some (.flags (m.after flags), rest)
    | some (flags, _ :: rest) => some (.group (m.after flags) none, rest)
    | _ => none
  | s => some (.group m none, s)

/-- How far the reading of a group has come. -/
structure Progress where
  /-- The modes. -/
  modes : Modes
  /-- The names of the groups so far, in the whole pattern. -/
  names : List (List Char)
  /-- The depths of the finished alternatives. -/
  alternatives : List Nat
  /-- The depths of the parts of the present alternative, the last one first; none for flags. -/
  parts : List (Option Nat)

namespace Progress

/-- The progress with one more part. -/
def add (p : Progress) (depth : Option Nat) : Progress :=
  { p with parts := depth :: p.parts }

/-- The depth of the present alternative. -/
def partsDepth (p : Progress) : Nat :=
  joined (p.parts.map fun depth => depth.getD 0)

/-- The progress at the start of the next alternative. -/
def alternate (p : Progress) : Progress :=
  { p with alternatives := p.partsDepth :: p.alternatives, parts := [] }

/-- The depth of the group. -/
def depth (p : Progress) : Nat :=
  joined (p.partsDepth :: p.alternatives)

/-- The progress with the last part repeated. Nothing and flags cannot be. -/
def repeat? (p : Progress) : Option Progress :=
  match p.parts with
  | some depth :: rest => some { p with parts := some (1 + depth) :: rest }
  | _ => none

/-- The progress with a new name of a group. -/
def named? (p : Progress) : Option (List Char) → Option Progress
  | none => some p
  | some name => if p.names.contains name then none else some { p with names := name :: p.names }

end Progress

/-- The depth of a group from here up to its closing parenthesis or the end of the text, the names
up to there, and the rest from there. -/
def group? (fuel : Nat) (p : Progress) (s : List Char) :
    Option (Nat × List (List Char) × List Char) :=
  match fuel with
  | 0 => none
  | fuel + 1 =>
    match p.modes.skip s with
    | [] => some (p.depth, p.names, [])
    | ')' :: rest => some (p.depth, p.names, ')' :: rest)
    | '|' :: rest => group? fuel p.alternate rest
    | '(' :: rest => do
      match ← opening? p.modes (p.modes.skip rest) with
      | (.flags m, rest) => group? fuel { p.add none with modes := m } rest
      | (.group m name, rest) =>
        let p ← p.named? name
        let (depth, names, rest) ← group? fuel ⟨m, p.names, [], []⟩ rest
        match rest with
        | ')' :: rest => group? fuel { p.add (some (1 + depth)) with names := names } rest
        | _ => none
    | '[' :: rest => do
      let start ← setStart? p.modes rest
      let (depth, rest) ← items? fuel p.modes none (List.replicate start.count 0) start.rest
      group? fuel (p.add (some (1 + depth))) rest
    | '*' :: rest | '+' :: rest | '?' :: rest => do
      let p ← p.repeat?
      group? fuel p (if rest.head? = some '?' then rest.drop 1 else rest)
    | '\x7b' :: _ => none
    | '\\' :: rest => do
      let (e, rest) ← escape? p.modes rest
      if p.modes.admitsEscape e then group? fuel (p.add (some 0)) rest else none
    | '.' :: rest => if p.modes.unicode then group? fuel (p.add (some 0)) rest else none
    | '^' :: rest | '$' :: rest => group? fuel (p.add (some 0)) rest
    | c :: rest => if p.modes.admits c false then group? fuel (p.add (some 0)) rest else none

/-- The deepest nesting of a pattern. -/
def maxDepth : Nat := 250

end Pattern

/-- **Whether a text without a closing brace is a pattern.** -/
def isPattern (text : List Char) : Bool :=
  match Pattern.group? (text.length + 1) ⟨.initial, [], [], []⟩ text with
  | some (depth, _, []) => depth ≤ Pattern.maxDepth
  | _ => false

/-- Whether a text is a number without a sign: a decimal fraction with or without an exponent,
infinity, or no number at all. -/
def isNumeral (text : List Char) : Bool :=
  let whole := text.takeWhile isDigit
  let rest := text.drop whole.length
  let fraction := if rest.head? = some '.' then (rest.drop 1).takeWhile isDigit else []
  let rest := if rest.head? = some '.' then rest.drop (1 + fraction.length) else rest
  let exponent := match rest with
    | [] => true
    | 'e' :: digits | 'E' :: digits =>
      let digits := if digits.head? = some '-' || digits.head? = some '+' then digits.drop 1
        else digits
      !digits.isEmpty && digits.all isDigit
    | _ => false
  (!(whole.isEmpty && fraction.isEmpty) && exponent) ||
    ["inf", "infinity", "nan"].any fun name => sameLetters name.toList text

/-- Whether a text can be the value of a field. A number after a plus sign is one although no
pattern starts with that sign; any other number or truth value is a pattern too. -/
def isFieldValue : List Char → Bool
  | '+' :: rest => isNumeral rest
  | text => isPattern text

end FlowParity.Log
