import FlowParity.Net.Address
import FlowParity.Text.Fields
import FlowParity.Text.Integer
/-!
# The text of addresses

IPv4 is four decimal octets between points. IPv6 is eight groups of up to four
hexadecimal digits between colons, where one run of groups may be left out as
`::` and the last two groups may be an IPv4 address. Addresses standing alone
and addresses in front of a prefix length are read by rules that differ in two
points, which `Spelling` records. What is written is always the RFC 5952 form.
-/

namespace FlowParity

/-- The two points in which readers of addresses differ. -/
structure Spelling where
  /-- Whether an IPv4 octet may start with zeros. -/
  leadingZeros : Bool
  /-- The least number of groups that `::` stands for. -/
  gap : Nat

/-- An address standing alone: no leading zeros, and `::` leaves out something. -/
def Spelling.plain : Spelling := ⟨false, 1⟩

/-- An address in front of a prefix length. -/
def Spelling.withLength : Spelling := ⟨true, 0⟩

namespace Address

open Text

/-- An octet: up to three decimal digits below 256. -/
def octet? (spelling : Spelling) (s : List Char) : Option (Nat × List Char) :=
  let digits := s.takeWhile isDigit
  let value := digitsValue digits
  if digits.isEmpty || 3 < digits.length || 255 < value then none
  else if !spelling.leadingZeros && digits.head? = some '0' && 1 < digits.length then none
  else some (value, s.dropWhile isDigit)

/-- The rest after the character `c`. -/
def after? (c : Char) : List Char → Option (List Char)
  | [] => none
  | d :: rest => if d = c then some rest else none

/-- An IPv4 address at the start of the text, and the rest. -/
def v4? (spelling : Spelling) (s : List Char) : Option (Nat × List Char) := do
  let (a, s) ← octet? spelling s
  let s ← after? '.' s
  let (b, s) ← octet? spelling s
  let s ← after? '.' s
  let (c, s) ← octet? spelling s
  let s ← after? '.' s
  let (d, s) ← octet? spelling s
  return (((a * 256 + b) * 256 + c) * 256 + d, s)

/-- A group: up to four hexadecimal digits. -/
def group? (s : List Char) : Option (Nat × List Char) :=
  let isHex := fun c => (hexDigit? c).isSome
  let digits := s.takeWhile isHex
  if digits.isEmpty || 4 < digits.length then none
  else some (digits.foldl (fun acc c => 16 * acc + (hexDigit? c).getD 0) 0, s.dropWhile isHex)

/-- A run of groups. -/
structure Groups where
  /-- The 16-bit groups in order. -/
  values : List Nat
  /-- Whether the run ended with an IPv4 address. -/
  endsInV4 : Bool

/-- The groups at the start of the text, at most `limit` of them, and the rest. A colon stands
before each but the first. An IPv4 address takes the room of two groups. -/
def groups (spelling : Spelling) (limit : Nat) (first : Bool) (s : List Char) :
    Groups × List Char :=
  match limit with
  | 0 => (⟨[], false⟩, s)
  | limit + 1 =>
    let entry? := if first then some s else after? ':' s
    match entry? with
    | none => (⟨[], false⟩, s)
    | some entry =>
      match if limit = 0 then none else v4? spelling entry with
      | some (value, rest) => (⟨[value / 65536, value % 65536], true⟩, rest)
      | none =>
        match group? entry with
        | none => (⟨[], false⟩, s)
        | some (value, rest) =>
          let (later, rest) := groups spelling limit false rest
          (⟨value :: later.values, later.endsInV4⟩, rest)

/-- The number made of 16-bit groups. -/
def ofGroups (values : List Nat) : Nat :=
  values.foldl (fun acc g => acc * 65536 + g) 0

/-- An IPv6 address at the start of the text, and the rest. -/
def v6? (spelling : Spelling) (s : List Char) : Option (Nat × List Char) := do
  let (head, s) := groups spelling 8 true s
  if head.values.length = 8 then return (ofGroups head.values, s)
  if head.endsInV4 then none
  let s ← after? ':' s
  let s ← after? ':' s
  let room := 8 - head.values.length
  let (tail, s) := groups spelling (room - spelling.gap) true s
  let skipped := List.replicate (room - tail.values.length) 0
  return (ofGroups (head.values ++ skipped ++ tail.values), s)

/-- The address that fills the text. A text that starts with an IPv4 address is not read as an IPv6
one. -/
def parseChars? (s : List Char) : Option Address :=
  match v4? .plain s with
  | some (value, rest) => if rest.isEmpty then some (ofNat .v4 value) else none
  | none =>
    match v6? .plain s with
    | some (value, rest) => if rest.isEmpty then some (ofNat .v6 value) else none
    | none => none

/-- **The address that a text spells.** -/
def parse? (text : String) : Option Address :=
  parseChars? text.toList

/-- The text of an IPv4 value. -/
def v4Text (value : Nat) : String :=
  ".".intercalate
    [toString (value / 16777216), toString (value / 65536 % 256), toString (value / 256 % 256),
      toString (value % 256)]

/-- The eight groups of an IPv6 value. -/
def toGroups (value : Nat) : List Nat :=
  (List.range 8).map fun i => value / Nat.pow 65536 (7 - i) % 65536

/-- The text of a group, in lower case and without leading zeros. -/
def groupText (g : Nat) : String :=
  String.ofList (Nat.toDigits 16 g)

/-- The text of groups between colons. -/
def groupsText (values : List Nat) : String :=
  ":".intercalate (values.map groupText)

/-- The number of zero groups at the start. -/
def leadingZeroGroups (values : List Nat) : Nat :=
  (values.takeWhile (· = 0)).length

/-- The position and length of the first of the longest runs of zero groups. -/
def longestZeroRun (values : List Nat) : Nat × Nat :=
  (List.range values.length).foldl
    (fun best i =>
      let length := leadingZeroGroups (values.drop i)
      if best.2 < length then (i, length) else best)
    (0, 0)

/-- The text of an IPv6 value: `::` for the first longest run of two zero groups or more, and the
IPv4 form for the last 32 bits of a mapped address. -/
def v6Text (value : Nat) : String :=
  if value / 4294967296 = 0xFFFF then "::ffff:" ++ v4Text (value % 4294967296)
  else
    let values := toGroups value
    let (start, length) := longestZeroRun values
    if 1 < length then
      groupsText (values.take start) ++ "::" ++ groupsText (values.drop (start + length))
    else groupsText values

/-- **The text of an address.** -/
def toText (a : Address) : String :=
  match a.family with
  | .v4 => v4Text a.value
  | .v6 => v6Text a.value

end Address

end FlowParity
