import FlowParity.Text.Integer
import FlowParity.Time.Calendar
import FlowParity.Time.Millis
/-!
# Date-times in text

The RFC 3339 form of an instant, `2023-03-08T21:51:20.250+01:00`: a date and a
time of day with two digits to a field, an optional fraction of a second, and
the offset of the local time from UTC. Reading is a sequence of steps on the
characters left, each of which gives up by `none`.
-/

namespace FlowParity.DateTime

open Text

/-- The value of the first `count` characters, all of them digits, and the rest. -/
def digits? (count : Nat) (s : List Char) : Option (Nat × List Char) :=
  let field := s.take count
  if field.length = count && field.all isDigit then some (digitsValue field, s.drop count)
  else none

/-- The rest after a character that satisfies `p`. -/
def skip? (p : Char → Bool) : List Char → Option (List Char)
  | [] => none
  | c :: rest => if p c then some rest else none

/-- The milliseconds of a fraction of a second, later digits being dropped, and the rest. Without a
point there is no fraction; a point needs a digit. -/
def fraction? : List Char → Option (Nat × List Char)
  | '.' :: rest =>
    let digits := rest.takeWhile isDigit
    if digits.isEmpty then none
    else some (digitsValue ((digits ++ ['0', '0']).take 3), rest.dropWhile isDigit)
  | s => some (0, s)

/-- The minutes by which local time is ahead of UTC: `Z`, or a sign, hours and minutes. -/
def offset? : List Char → Option (Int × List Char)
  | [] => none
  | c :: rest => do
    if c = 'Z' || c = 'z' then return (0, rest)
    let negative := c = '-' || c = '\u2212'
    if !(negative || c = '+') then none
    let (hours, rest) ← digits? 2 rest
    let rest ← skip? (· = ':') rest
    let (minutes, rest) ← digits? 2 rest
    if 23 < hours || 59 < minutes then none
    let offset : Int := hours * 60 + minutes
    return (if negative then -offset else offset, rest)

/-- The milliseconds since the epoch of an RFC 3339 text. The second 60 is the one after second 59,
whatever the minute. -/
def parse? (s : List Char) : Option Int := do
  let (year, s) ← digits? 4 s
  let s ← skip? (· = '-') s
  let (month, s) ← digits? 2 s
  let s ← skip? (· = '-') s
  let (day, s) ← digits? 2 s
  let s ← skip? (fun c => c = 'T' || c = 't' || c = ' ') s
  let (hour, s) ← digits? 2 s
  let s ← skip? (· = ':') s
  let (minute, s) ← digits? 2 s
  let s ← skip? (· = ':') s
  let (second, s) ← digits? 2 s
  let (millis, s) ← fraction? s
  let (offset, s) ← offset? s
  let date : Calendar.Date := ⟨year, month, day⟩
  if s.isEmpty && date.isValid && hour ≤ 23 && minute ≤ 59 && second ≤ 60 then
    return (((date.toDay * 24 + hour) * 60 + minute - offset) * 60 + second) * 1000 + millis
  else none

/-- The text of a year: four digits up to 9999, otherwise with a sign. -/
def yearText (year : Int) : String :=
  if 0 ≤ year ∧ year ≤ 9999 then padded 4 year.natAbs
  else (if year < 0 then "-" else "+") ++ padded 4 year.natAbs

/-- The date and time of day, to the second, of a number of seconds since the epoch. -/
def secondsText (seconds : Int) : String :=
  let date := Calendar.Date.ofDay (seconds / 86400)
  let time := (seconds % 86400).toNat
  let day := yearText date.year ++ "-" ++ padded 2 date.month ++ "-" ++ padded 2 date.day
  day ++ "T" ++ padded 2 (time / 3600) ++ ":" ++ padded 2 (time / 60 % 60) ++ ":"
    ++ padded 2 (time % 60)

/-- The seconds since the epoch that have a date: years from -262143 to 262142. -/
def hasDate (seconds : Int) : Bool :=
  -8334601228800 ≤ seconds && seconds ≤ 8210266876799

end FlowParity.DateTime
