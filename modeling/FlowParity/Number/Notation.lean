import FlowParity.Number.Shortest
import FlowParity.Text.Integer
/-!
# How doubles are written

Three ways to write a double, all exact: **positional** in messages, which never
uses an exponent and drops a fraction of zero; **scientific** in data, which
keeps a fraction and turns to an exponent for very small and very large numbers;
and **fixed** in tables, with a set number of decimal places.
-/

namespace FlowParity.Binary64

/-- The characters of a list of digits. -/
def digitText (digits : List Nat) : String :=
  String.ofList (digits.map Nat.digitChar)

/-- A number of zeros. -/
def zeros (count : Nat) : String :=
  String.ofList (List.replicate count '0')

/-- A decimal with all its digits, an integer without a point. -/
def positionalText (d : Decimal) : String :=
  if d.point ≤ 0 then "0." ++ zeros (-d.point).toNat ++ digitText d.digits
  else if d.digits.length ≤ d.point.toNat then
    digitText d.digits ++ zeros (d.point.toNat - d.digits.length)
  else digitText (d.digits.take d.point.toNat) ++ "." ++ digitText (d.digits.drop d.point.toNat)

/-- A decimal with one digit before the point and a signed exponent. -/
def scientificText (d : Decimal) : String :=
  let exponent := d.point - 1
  let sign := if exponent < 0 then "-" else "+"
  let fraction := d.digits.drop 1
  digitText (d.digits.take 1) ++ (if fraction.isEmpty then "" else "." ++ digitText fraction)
    ++ "e" ++ sign ++ toString exponent.natAbs

/-- The exponents that data writes positionally: numbers from `0.00001` up to `10 ^ 16`. -/
def isPositional (d : Decimal) : Bool :=
  -4 ≤ d.point && d.point ≤ 16

/-- The sign of a written number. -/
def signText (negative : Bool) : String :=
  if negative then "-" else ""

/-- The text of a number in a message: `1.5`, `2`, `0.0000001`, `NaN`, `-inf`, `-0`. -/
def toText : Binary64 → String
  | nan => "NaN"
  | infinite negative => signText negative ++ "inf"
  | finite negative magnitude =>
    signText negative ++
      (if magnitude.val = 0 then "0" else positionalText (shortest .up magnitude))

/-- The text of a number in data: `1.5`, `2.0`, `1e-7`, `1e+16`; there is none for a number that is
not finite. -/
def toData? : Binary64 → Option String
  | finite negative magnitude =>
    let d := shortest .even magnitude
    let body :=
      if magnitude.val = 0 then "0.0"
      else if isPositional d then
        positionalText d ++ (if (d.digits.length : Int) ≤ d.point then ".0" else "")
      else scientificText d
    some (signText negative ++ body)
  | _ => none

/-- The text of a number in a table, with `places` decimal places. The exact value is rounded once,
a tie going to the even neighbour. -/
def toFixed (places : Nat) : Binary64 → String
  | nan => "NaN"
  | infinite negative => signText negative ++ "inf"
  | finite negative magnitude =>
    let steps := Nat.pow 10 places
    let scaled := nearest (units magnitude * steps) unitsPerOne
    let whole := toString (scaled / steps)
    let fraction := Text.padded places (scaled % steps)
    signText negative ++ whole ++ (if places = 0 then "" else "." ++ fraction)

end FlowParity.Binary64
