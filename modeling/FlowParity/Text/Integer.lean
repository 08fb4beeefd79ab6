/-!
# Integers in decimal text

A count is read digit by digit, and the first character that cannot go on
decides what is wrong with it: a character that is no digit, or the digit at
which the value passes its limit. A leading plus sign is allowed.
-/

namespace FlowParity.Text

/-- Why a text is not an integer of the wanted range. -/
inductive IntegerFault
  /-- There is no character at all. -/
  | empty
  /-- A character is not a digit, or a sign stands alone. -/
  | invalidDigit
  /-- The value passes the upper limit. -/
  | tooLarge
  deriving DecidableEq, Repr

/-- The text of an integer fault. -/
def IntegerFault.message : IntegerFault → String
  | .empty => "cannot parse integer from empty string"
  | .invalidDigit => "invalid digit found in string"
  | .tooLarge => "number too large to fit in target type"

/-- The value of an ASCII decimal digit. -/
def digit? (c : Char) : Option Nat :=
  if '0' ≤ c ∧ c ≤ '9' then some (c.toNat - '0'.toNat) else none

/-- The value of an ASCII hexadecimal digit of either case. -/
def hexDigit? (c : Char) : Option Nat :=
  if '0' ≤ c ∧ c ≤ '9' then some (c.toNat - '0'.toNat)
  else if 'a' ≤ c ∧ c ≤ 'f' then some (c.toNat - 'a'.toNat + 10)
  else if 'A' ≤ c ∧ c ≤ 'F' then some (c.toNat - 'A'.toNat + 10)
  else none

/-- An ASCII decimal digit. -/
def isDigit (c : Char) : Bool :=
  '0' ≤ c && c ≤ '9'

/-- The value that the digits append to `acc`, characters other than digits counting as zero. -/
def digitsValue (digits : List Char) : Nat :=
  digits.foldl (fun acc c => 10 * acc + (digit? c).getD 0) 0

/-- Reads digits after the value `acc`, keeping the value at most `limit`. -/
def readDigits (limit : Nat) (acc : Nat) : List Char → Except IntegerFault Nat
  | [] => .ok acc
  | c :: rest =>
    match digit? c with
    | none => .error .invalidDigit
    | some d =>
      let next := 10 * acc + d
      if next ≤ limit then readDigits limit next rest else .error .tooLarge

/-- Reads an unsigned integer of at most `limit`. -/
def readNat (limit : Nat) : List Char → Except IntegerFault Nat
  | [] => .error .empty
  | ['+'] => .error .invalidDigit
  | '+' :: digits => readDigits limit 0 digits
  | digits => readDigits limit 0 digits

/-- Reads an integer between `-negLimit` and `limit` with an optional sign. -/
def readInt? (negLimit limit : Nat) : List Char → Option Int
  | [] => none
  | ['-'] => none
  | '-' :: digits => (readDigits negLimit 0 digits).toOption.map fun n => -(n : Int)
  | s => (readNat limit s).toOption.map Int.ofNat

/-- The decimal digits of a number, at least `width` of them. -/
def padded (width n : Nat) : String :=
  let digits := toString n
  String.ofList (List.replicate (width - digits.length) '0') ++ digits

end FlowParity.Text
