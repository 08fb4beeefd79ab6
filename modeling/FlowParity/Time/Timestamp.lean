import FlowParity.Text.Blank
import FlowParity.Text.Fields
import FlowParity.Time.DateTime
/-!
# Timestamps in text

A timestamp is written as milliseconds since the epoch, whole or with a decimal
fraction that is dropped, or as an RFC 3339 date-time. It is shown as a date-time
to the millisecond, or as bare milliseconds where the calendar ends.
-/

namespace FlowParity

open Text

/-- Why a text is not a timestamp. The text is kept without the blanks around it. -/
inductive TimestampFault
  /-- Nothing but blanks. -/
  | empty
  /-- Neither a number nor a date-time. -/
  | malformed (text : String)
  /-- A number of milliseconds that does not fit. -/
  | outOfRange (text : String)
  deriving DecidableEq, Repr

/-- The text of a timestamp fault. -/
def TimestampFault.message : TimestampFault → String
  | .empty => "empty timestamp"
  | .malformed text => s!"malformed timestamp '{text}'"
  | .outOfRange text => s!"timestamp '{text}' out of range"

namespace Timestamp

/-- The milliseconds of an integer with an optional sign that fits. -/
def ofIntegerText? (s : List Char) : Option Timestamp :=
  (readInt? 9223372036854775808 9223372036854775807 s).bind Millis.ofInt?

/-- The part before the point of a decimal number: an optional minus and digits, a point, digits. -/
def wholePart? (s : List Char) : Option (List Char) := do
  let (whole, fraction) ← cut? '.' s
  let digits := if whole.head? = some '-' then whole.drop 1 else whole
  if !digits.isEmpty && digits.all isDigit && !fraction.isEmpty && fraction.all isDigit then
    some whole
  else none

/-- The timestamp of a text without blanks around it. -/
def parseTrimmed (s : List Char) : Except TimestampFault Timestamp :=
  if s.isEmpty then .error .empty
  else match ofIntegerText? s with
    | some t => .ok t
    | none => match wholePart? s with
      | some whole => match ofIntegerText? whole with
        | some t => .ok t
        | none => .error (.outOfRange (String.ofList s))
      | none => match (DateTime.parse? s).bind Millis.ofInt? with
        | some t => .ok t
        | none => .error (.malformed (String.ofList s))

/-- **The timestamp of a text**, blanks around it aside. -/
def parse (text : String) : Except TimestampFault Timestamp :=
  parseTrimmed (trim text.toList)

/-- **The text of a timestamp**: a date-time in UTC to the millisecond, or the bare number where
there is no date. -/
def format (t : Timestamp) : String :=
  let seconds := t.ms / 1000
  if DateTime.hasDate seconds then
    DateTime.secondsText seconds ++ "." ++ padded 3 (t.ms % 1000).toNat ++ "Z"
  else t.toText

/-- The text of a timestamp in a log line: the fraction is left out when it is zero. -/
def formatBrief (t : Timestamp) : String :=
  let seconds := t.ms / 1000
  let millis := (t.ms % 1000).toNat
  DateTime.secondsText seconds ++ (if millis = 0 then "" else "." ++ padded 3 millis) ++ "Z"

/-- The timestamp of a number of seconds and nanoseconds since the epoch, rounded down. A number of
nanoseconds past one second is a leap second and needs the last second of a minute. -/
def ofSeconds? (seconds : Int) (nanoseconds : Nat) : Option Timestamp :=
  if DateTime.hasDate seconds &&
      (nanoseconds < 1000000000 || nanoseconds < 2000000000 && seconds % 60 = 59) then
    Millis.ofInt? (seconds * 1000 + (nanoseconds / 1000000 : Nat))
  else none

end Timestamp

end FlowParity
