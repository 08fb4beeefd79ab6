import FlowParity.Document.Basic
import FlowParity.Number.Reading
import FlowParity.Text.Fields
import FlowParity.Text.Integer
import FlowParity.Time.Calendar
/-!
# Scalars of TOML

Strings in four forms, and words: truth values, integers in four bases, floats,
dates and times. A word is the longest run of the characters words are made of,
and is then one of these as a whole or nothing. Line ends are single newlines
here; a text is brought into that form first.
-/

namespace FlowParity.Document.Toml

open Text

/-- A blank inside a line. -/
def isSpace (c : Char) : Bool :=
  c = ' ' || c = '\t'

/-- A blank or a line end. -/
def isSpaceOrNewline (c : Char) : Bool :=
  isSpace c || c = '\n'

/-- A character that may stand in a comment or a string: no control character but the tab. -/
def isPlain (c : Char) : Bool :=
  c = '\t' || (32 ≤ c.toNat && c.toNat ≠ 127)

/-- The text with every line end written as a single newline. -/
def withNewlines : List Char → List Char
  | '\r' :: '\n' :: rest => '\n' :: withNewlines rest
  | c :: rest => c :: withNewlines rest
  | [] => []

/-- The character with a code point, if there is one. -/
def scalar? (digits : List Char) : Option Char := do
  let values ← digits.mapM hexDigit?
  let n := values.foldl (fun acc d => acc * 16 + d) 0
  if n.isValidChar then some (Char.ofNat n) else none

/-- The character of an escape after its backslash, and the rest. -/
def escape? : List Char → Option (Char × List Char)
  | [] => none
  | e :: rest =>
    match e with
    | '"' => some ('"', rest)
    | '\\' => some ('\\', rest)
    | 'b' => some ('\x08', rest)
    | 'f' => some ('\x0c', rest)
    | 'n' => some ('\n', rest)
    | 'r' => some ('\r', rest)
    | 't' => some ('\t', rest)
    | 'u' => if rest.length < 4 then none else (scalar? (rest.take 4)).map (·, rest.drop 4)
    | 'U' => if rest.length < 8 then none else (scalar? (rest.take 8)).map (·, rest.drop 8)
    | _ => none

/-- The text of a basic string up to its closing quote, and the rest. -/
def basic? (fuel : Nat) (s : List Char) : Option (List Char × List Char) :=
  match fuel, s with
  | 0, _ | _, [] => none
  | _ + 1, '"' :: rest => some ([], rest)
  | fuel + 1, '\\' :: rest => do
    let (c, rest) ← escape? rest
    let (later, rest) ← basic? fuel rest
    return (c :: later, rest)
  | fuel + 1, c :: rest => do
    if !isPlain c then none
    let (later, rest) ← basic? fuel rest
    return (c :: later, rest)

/-- The text of a literal string up to its closing quote, and the rest. -/
def literal? : List Char → Option (List Char × List Char)
  | [] => none
  | '\'' :: rest => some ([], rest)
  | c :: rest => do
    if !isPlain c then none
    let (later, rest) ← literal? rest
    return (c :: later, rest)

/-- What a run of quotes inside a string over several lines does: up to two are text, three to five
close the string and leave up to two as text. -/
def closing? (quote : Char) (s : List Char) : Option (Option (List Char) × List Char) :=
  let run := s.takeWhile (· = quote)
  if 5 < run.length then none
  else if 2 < run.length then some (some (run.drop 3), s.drop run.length)
  else some (none, s)

/-- The text of a basic string over several lines up to its closing quotes, and the rest. A
backslash at the end of a line joins it with the next text. -/
def basicLines? (fuel : Nat) (s : List Char) : Option (List Char × List Char) :=
  match fuel with
  | 0 => none
  | fuel + 1 =>
    match s with
    | [] => none
    | '\\' :: rest =>
      let afterSpace := rest.dropWhile isSpace
      if afterSpace.head? = some '\n' then basicLines? fuel (afterSpace.dropWhile isSpaceOrNewline)
      else do
        let (c, rest) ← escape? rest
        let (later, rest) ← basicLines? fuel rest
        return (c :: later, rest)
    | c :: rest => do
      match ← closing? '"' s with
      | (some last, rest) => return (last, rest)
      | (none, _) =>
        if !(isPlain c || c = '\n') then none
        let (later, rest) ← basicLines? fuel rest
        return (c :: later, rest)

/-- The text of a literal string over several lines up to its closing quotes, and the rest. -/
def literalLines? (fuel : Nat) (s : List Char) : Option (List Char × List Char) :=
  match fuel with
  | 0 => none
  | fuel + 1 =>
    match s with
    | [] => none
    | c :: rest => do
      match ← closing? '\'' s with
      | (some last, rest) => return (last, rest)
      | (none, _) =>
        if !(isPlain c || c = '\n') then none
        let (later, rest) ← literalLines? fuel rest
        return (c :: later, rest)

/-- The text without a newline at its start. -/
def skipNewline : List Char → List Char
  | '\n' :: rest => rest
  | s => s

/-- The text of a string, from its opening quote, and the rest. -/
def string? (s : List Char) : Option (String × List Char) :=
  let fuel := s.length + 1
  let text? := match s with
    | '"' :: '"' :: '"' :: rest => basicLines? fuel (skipNewline rest)
    | '"' :: rest => basic? fuel rest
    | '\'' :: '\'' :: '\'' :: rest => literalLines? fuel (skipNewline rest)
    | '\'' :: rest => literal? rest
    | _ => none
  text?.map fun (text, rest) => (String.ofList text, rest)

/-- A character of a word. -/
def isWordChar (c : Char) : Bool :=
  c.isAlphanum || c = '_' || c = '+' || c = '-' || c = '.' || c = ':'

/-- The digits of a run in which single underscores may stand between digits. -/
def groupedDigits? (isDigit : Char → Bool) (s : List Char) : Option (List Char) :=
  let groups := split '_' s
  if groups.all fun g => !g.isEmpty && g.all isDigit then some groups.flatten else none

/-- The digits of a decimal integer: no leading zero unless alone. -/
def decimalDigits? (s : List Char) : Option (List Char) := do
  let digits ← groupedDigits? isDigit s
  if digits.head? = some '0' && 1 < s.length then none else some digits

/-- The sign of a word, negative or not, and the rest. -/
def sign : List Char → Bool × List Char
  | '-' :: rest => (true, rest)
  | '+' :: rest => (false, rest)
  | s => (false, s)

/-- The value of digits in a base. -/
def valueIn (base : Nat) (digits : List Char) : Nat :=
  digits.foldl (fun acc c => acc * base + (hexDigit? c).getD 0) 0

/-- The characters that are digits in a base up to sixteen. -/
def isDigitIn (base : Nat) (c : Char) : Bool :=
  (hexDigit? c).any (· < base)

/-- The value of the digits of a run in a base. -/
def unsigned? (base : Nat) (s : List Char) : Option Int :=
  (groupedDigits? (isDigitIn base) s).map fun digits => (valueIn base digits : Int)

/-- The value of a decimal integer with an optional sign. -/
def decimal? (s : List Char) : Option Int :=
  let (negative, rest) := sign s
  (decimalDigits? rest).map fun digits =>
    if negative then -(digitsValue digits : Int) else digitsValue digits

/-- The integer that a word is, in one of four bases and of at most 64 bits. -/
def integer? (word : List Char) : Option Int := do
  let n ← match word with
    | '0' :: 'x' :: rest => unsigned? 16 rest
    | '0' :: 'o' :: rest => unsigned? 8 rest
    | '0' :: 'b' :: rest => unsigned? 2 rest
    | _ => decimal? word
  if -9223372036854775808 ≤ n ∧ n ≤ 9223372036854775807 then some n else none

/-- The exponent of a float, from the digits and sign after its letter. -/
def exponentValue? (s : List Char) : Option Int :=
  let (negative, rest) := sign s
  (groupedDigits? isDigit rest).map fun digits =>
    if negative then -(digitsValue digits : Int) else digitsValue digits

/-- The digits of a float and its power of ten: an integer with a fraction, an exponent, or both. -/
def floatParts? (s : List Char) : Option (List Char × Int) := do
  let mantissa := s.takeWhile fun c => c ≠ 'e' && c ≠ 'E'
  let rest := s.drop mantissa.length
  let exponent ← match rest with
    | [] => some (none : Option Int)
    | _ :: rest => (exponentValue? rest).map some
  match cut? '.' mantissa with
  | some (whole, fraction) =>
    let whole ← decimalDigits? whole
    let fraction ← groupedDigits? isDigit fraction
    return (whole ++ fraction, exponent.getD 0 - fraction.length)
  | none =>
    let exponent ← exponent
    let whole ← decimalDigits? mantissa
    return (whole, exponent)

/-- The double that a word is. A positive number too large for a double is refused. -/
def float? (word : List Char) : Option Binary64 := do
  let (negative, rest) := sign word
  if rest = "inf".toList then return .infinite negative
  if rest = "nan".toList then return .nan
  let (digits, exponent) ← floatParts? rest
  let x := Binary64.ofDecimal negative (digitsValue digits) exponent
  if x = .infinite false then none else some x

/-- Two digits at the start of a text, as a number, and the rest. -/
def twoDigits? : List Char → Option (Nat × List Char)
  | a :: b :: rest => do
    let a ← digit? a
    let b ← digit? b
    return (10 * a + b, rest)
  | _ => none

/-- The rest after the character `c`. -/
def expect? (c : Char) : List Char → Option (List Char)
  | [] => none
  | d :: rest => if d = c then some rest else none

/-- The rest after a calendar date at the start of a text. -/
def date? (s : List Char) : Option (List Char) := do
  let (century, rest) ← twoDigits? s
  let (year, rest) ← twoDigits? rest
  let rest ← expect? '-' rest
  let (month, rest) ← twoDigits? rest
  let rest ← expect? '-' rest
  let (day, rest) ← twoDigits? rest
  let date : Calendar.Date := ⟨(100 * century + year : Nat), month, day⟩
  if date.isValid then some rest else none

/-- The rest after a time of day at the start of a text. -/
def time? (s : List Char) : Option (List Char) := do
  let (hour, rest) ← twoDigits? s
  let rest ← expect? ':' rest
  let (minute, rest) ← twoDigits? rest
  let rest ← expect? ':' rest
  let (second, rest) ← twoDigits? rest
  if 23 < hour || 59 < minute || 60 < second then none
  match rest with
  | '.' :: rest =>
    let fraction := rest.takeWhile isDigit
    if fraction.isEmpty then none else some (rest.drop fraction.length)
  | rest => some rest

/-- Whether a text is an offset from UTC or nothing. -/
def isOffset (s : List Char) : Bool :=
  match s with
  | [] => true
  | 'Z' :: rest | 'z' :: rest => rest.isEmpty
  | c :: rest =>
    if c = '+' || c = '-' then
      match (do
        let (hour, rest) ← twoDigits? rest
        let rest ← expect? ':' rest
        let (minute, rest) ← twoDigits? rest
        if hour ≤ 23 && minute ≤ 59 && rest.isEmpty then some () else none) with
      | some () => true
      | none => false
    else false

/-- Whether a text is a time of day with or without an offset. -/
def isTime (s : List Char) : Bool :=
  ((time? s).map isOffset).getD false

/-- Whether a word is a time, a date, or a date and a time with a letter between. -/
def isDateOrTime (word : List Char) : Bool :=
  ((time? word).map List.isEmpty).getD false ||
    match date? word with
    | none => false
    | some [] => true
    | some ('T' :: rest) | some ('t' :: rest) => isTime rest
    | some _ => false

/-- What is left after a date when its time follows after a blank. -/
def skipTime (s : List Char) : List Char :=
  match s with
  | ' ' :: rest =>
    let word := rest.takeWhile isWordChar
    if isTime word then rest.drop word.length else s
  | s => s

/-- The value of the word at the start of a text, and the rest. -/
def word? (s : List Char) : Option (Document × List Char) :=
  let word := s.takeWhile isWordChar
  let rest := s.drop word.length
  if word = "true".toList then some (bool true, rest)
  else if word = "false".toList then some (bool false, rest)
  else if isDateOrTime word then
    some (date, if (date? word).any List.isEmpty then skipTime rest else rest)
  else match integer? word with
    | some n => some (integer n, rest)
    | none => (float? word).map fun x => (float x, rest)

end FlowParity.Document.Toml
