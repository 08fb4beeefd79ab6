import FlowParity.Document.Basic
import FlowParity.Number.Reading
import FlowParity.Text.Integer
/-!
# Reading JSON

A JSON text is read in one pass from left to right. What counts here is which
texts are accepted and what they stand for; why a text is refused is not kept.
A number is read as a 64-bit significand and a power of ten, so its last bit may
differ from that of the nearest double. A string with half a surrogate pair and a
number too large for a double are well formed but unreadable.
-/

namespace FlowParity.Document

open Text

namespace Json

/-- The blanks of JSON. -/
def isSpace (c : Char) : Bool :=
  c = ' ' || c = '\n' || c = '\t' || c = '\r'

/-- The text from its first character that is no blank. -/
def skipSpace (s : List Char) : List Char :=
  s.dropWhile isSpace

/-- A part of a string: a character, or a 16-bit unit given by its number. -/
inductive Piece
  /-- A character, written itself or by a short escape. -/
  | char (c : Char)
  /-- A unit, written by four hexadecimal digits. -/
  | unit (n : Nat)

/-- The character of a short escape. -/
def shortEscape? (c : Char) : Option Char :=
  match c with
  | '"' => some '"'
  | '\\' => some '\\'
  | '/' => some '/'
  | 'b' => some '\x08'
  | 'f' => some '\x0c'
  | 'n' => some '\n'
  | 'r' => some '\r'
  | 't' => some '\t'
  | _ => none

/-- The number that four hexadecimal digits stand for. -/
def unit? (a b c d : Char) : Option Nat := do
  let a ← hexDigit? a
  let b ← hexDigit? b
  let c ← hexDigit? c
  let d ← hexDigit? d
  return ((a * 16 + b) * 16 + c) * 16 + d

/-- The parts of a string up to its closing quote, and the rest. -/
def pieces : List Char → Option (List Piece × List Char)
  | [] => none
  | '"' :: rest => some ([], rest)
  | '\\' :: 'u' :: a :: b :: c :: d :: rest => do
    let n ← unit? a b c d
    let (later, rest) ← pieces rest
    return (.unit n :: later, rest)
  | '\\' :: e :: rest => do
    let c ← shortEscape? e
    let (later, rest) ← pieces rest
    return (.char c :: later, rest)
  | c :: rest => do
    if c.toNat < 32 || c = '\\' then none
    let (later, rest) ← pieces rest
    return (.char c :: later, rest)

/-- The characters that the parts of a string stand for. Two units of a surrogate pair are one
character, and one alone is none. -/
def combine : List Piece → Option (List Char)
  | [] => some []
  | .char c :: later => (combine later).map (c :: ·)
  | .unit high :: .unit low :: later =>
    if 0xD800 ≤ high ∧ high < 0xDC00 then
      if 0xDC00 ≤ low ∧ low < 0xE000 then
        (combine later).map (Char.ofNat (0x10000 + (high - 0xD800) * 1024 + (low - 0xDC00)) :: ·)
      else none
    else if 0xDC00 ≤ high ∧ high < 0xE000 then none
    else (combine (.unit low :: later)).map (Char.ofNat high :: ·)
  | .unit n :: later =>
    if 0xD800 ≤ n ∧ n < 0xE000 then none else (combine later).map (Char.ofNat n :: ·)

/-- The text of a string after its opening quote, if it has one, and the rest. -/
def stringBody (s : List Char) : Option (Option String × List Char) :=
  (pieces s).map fun (parts, rest) => ((combine parts).map String.ofList, rest)

/-- The parts of a number as they are written. -/
structure Numeral where
  /-- Whether there is a minus sign. -/
  negative : Bool
  /-- The digits before the point. -/
  whole : List Char
  /-- The digits after the point, none if there is no point. -/
  fraction : List Char
  /-- Whether the exponent has a minus sign, and its digits. -/
  exponent : Option (Bool × List Char)

/-- The digits at the start of a text, at least one, and the rest. -/
def someDigits? (s : List Char) : Option (List Char × List Char) :=
  let digits := s.takeWhile isDigit
  if digits.isEmpty then none else some (digits, s.dropWhile isDigit)

/-- The exponent at the start of a text, if there is one, and the rest. -/
def exponent? : List Char → Option (Option (Bool × List Char) × List Char)
  | e :: rest =>
    if e = 'e' || e = 'E' then
      let (negative, rest) :=
        match rest with
        | '-' :: rest => (true, rest)
        | '+' :: rest => (false, rest)
        | rest => (false, rest)
      (someDigits? rest).map fun (digits, rest) => (some (negative, digits), rest)
    else some (none, e :: rest)
  | [] => some (none, [])

/-- The number at the start of a text, and the rest. -/
def numeral? (s : List Char) : Option (Numeral × List Char) := do
  let (negative, s) :=
    match s with
    | '-' :: rest => (true, rest)
    | rest => (false, rest)
  let (whole, s) ← someDigits? s
  if whole.head? = some '0' && 1 < whole.length then none
  let (fraction, s) ←
    match s with
    | '.' :: rest => someDigits? rest
    | rest => some ([], rest)
  let (exponent, s) ← exponent? s
  return (⟨negative, whole, fraction, exponent⟩, s)

/-- The largest significand. -/
def maxSignificand : Nat := 18446744073709551615

/-- The significand with more digits appended as long as it fits, and the number of digits that were
left over. -/
def appendDigits (significand : Nat) : List Char → Nat × Nat
  | [] => (significand, 0)
  | c :: rest =>
    let next := 10 * significand + (digit? c).getD 0
    if next ≤ maxSignificand then appendDigits next rest else (significand, rest.length + 1)

/-- The largest exponent that is looked at; a larger one means zero or a number out of range. -/
def maxExponent : Nat := 2147483647

/-- The double of a number with a fraction, an exponent or too many digits. -/
def Numeral.float? (n : Numeral) : Option Binary64 :=
  let (significand, unusedWhole) := appendDigits 0 n.whole
  let (significand, unusedFraction) := appendDigits significand n.fraction
  let point : Int := unusedWhole - (n.fraction.length - unusedFraction : Nat)
  match n.exponent with
  | none => Binary64.ofSignificand? n.negative significand point
  | some (negativeExponent, digits) =>
    let e := digitsValue digits
    if maxExponent < e then
      if significand = 0 || negativeExponent then
        some (.signedZero n.negative)
      else none
    else
      let exponent : Int := if negativeExponent then point - e else point + e
      Binary64.ofSignificand? n.negative significand exponent

/-- The value of a number: an integer if it is written as one and fits 64 bits, otherwise a double.
The integer zero with a minus sign is a double. -/
def Numeral.toDocument (n : Numeral) : Document :=
  let value := digitsValue n.whole
  let float := match n.float? with
    | some x => Document.float x
    | none => unreadable
  if !n.fraction.isEmpty || n.exponent.isSome then float
  else if n.negative then
    if value = 0 || 9223372036854775808 < value then float else integer (-(value : Int))
  else if maxSignificand < value then float
  else integer value

/-- The rest of a text after a word. -/
def word? (word : String) (s : List Char) : Option (List Char) :=
  let letters := word.toList
  if s.take letters.length = letters then some (s.drop letters.length) else none

/-- The table of some members; it is unreadable if a name is. -/
def tableOf (members : List (Option String × Document)) : Document :=
  match members.mapM fun (name, value) => name.map (·, value) with
  | some members => table members
  | none => unreadable

mutual

/-- The value at the start of a text, and the rest. The fuel bounds the number of steps. -/
def value? (fuel : Nat) (s : List Char) : Option (Document × List Char) :=
  match fuel with
  | 0 => none
  | fuel + 1 =>
    match skipSpace s with
    | [] => none
    | '"' :: rest =>
      (stringBody rest).map fun (text, rest) => ((text.map string).getD unreadable, rest)
    | '[' :: rest =>
      match skipSpace rest with
      | ']' :: rest => some (list [], rest)
      | rest => (items? fuel rest).map fun (items, rest) => (list items, rest)
    | '\x7b' :: rest =>
      match skipSpace rest with
      | '\x7d' :: rest => some (table [], rest)
      | rest => (members? fuel rest).map fun (members, rest) => (tableOf members, rest)
    | 'n' :: rest => (word? "ull" rest).map (null, ·)
    | 't' :: rest => (word? "rue" rest).map (bool true, ·)
    | 'f' :: rest => (word? "alse" rest).map (bool false, ·)
    | s => (numeral? s).map fun (n, rest) => (n.toDocument, rest)

/-- The items of a list up to its closing bracket, at least one, and the rest. -/
def items? (fuel : Nat) (s : List Char) : Option (List Document × List Char) :=
  match fuel with
  | 0 => none
  | fuel + 1 => do
    let (item, rest) ← value? fuel s
    match skipSpace rest with
    | ',' :: rest => (items? fuel rest).map fun (later, rest) => (item :: later, rest)
    | ']' :: rest => some ([item], rest)
    | _ => none

/-- The members of a table up to its closing brace, at least one, and the rest. -/
def members? (fuel : Nat) (s : List Char) :
    Option (List (Option String × Document) × List Char) :=
  match fuel with
  | 0 => none
  | fuel + 1 =>
    match skipSpace s with
    | '"' :: rest => do
      let (name, rest) ← stringBody rest
      match skipSpace rest with
      | ':' :: rest => do
        let (item, rest) ← value? fuel rest
        match skipSpace rest with
        | ',' :: rest =>
          (members? fuel rest).map fun (later, rest) => ((name, item) :: later, rest)
        | '\x7d' :: rest => some ([(name, item)], rest)
        | _ => none
      | _ => none
    | _ => none

end

end Json

/-- **The document of a JSON text**, if it is one. -/
def ofJson? (text : String) : Option Document :=
  let s := text.toList
  match Json.value? (2 * s.length + 2) s with
  | some (d, rest) => if (Json.skipSpace rest).isEmpty then some d else none
  | none => none

end FlowParity.Document
