/-!
# Double-precision numbers

Differences and tolerances are IEEE-754 doubles, and a verdict may hang on the
last bit. So a double is a value here and not an opaque machine word: a sign and
a **magnitude**, the lower 63 bits of its encoding, which are ordered as the
values are. Every finite double is a whole multiple of the least positive one,
`2 ^ -1074`; `units` is that multiple, and all arithmetic is exact arithmetic on
multiples followed by one rounding, `nearest`.
-/

namespace FlowParity

/-- The number of magnitudes that are finite: `2047 * 2 ^ 52`, the encoding of infinity. -/
def finiteMagnitudes : Nat := 9218868437227405312

/-- The number of significands that share an exponent, `2 ^ 52`. -/
def significandCount : Nat := 4503599627370496

/-- The bit of the sign in an encoding, `2 ^ 63`. -/
def signBit : Nat := 9223372036854775808

/-- A double. All NaNs are one value; both zeros are kept. -/
inductive Binary64
  /-- Not a number. -/
  | nan
  /-- An infinity of the given sign. -/
  | infinite (negative : Bool)
  /-- A finite number, by its sign and the lower 63 bits of its encoding. -/
  | finite (negative : Bool) (magnitude : Fin finiteMagnitudes)
  deriving DecidableEq, Repr

namespace Binary64

/-- The multiple of `2 ^ -1074` that a magnitude stands for: below `2 ^ 52` itself, above it
a 53-bit significand shifted by the exponent field. -/
def units (magnitude : Nat) : Nat :=
  if magnitude < significandCount then magnitude
  else (significandCount + magnitude % significandCount) *
    Nat.pow 2 (magnitude / significandCount - 1)

/-- How many least positive doubles make up `1.0`. -/
def unitsPerOne : Nat := Nat.pow 2 1074

/-- The whole number nearest to `num / den`, a tie going to the even neighbour. -/
def nearest (num den : Nat) : Nat :=
  let below := num / den
  let rest := num % den
  if 2 * rest < den then below
  else if den < 2 * rest then below + 1
  else below + below % 2

/-- The magnitude nearest to `num / den` units, a tie going to the even one. Values with more than
53 bits lose the low ones; a carry out of the significand moves into the exponent by itself. -/
def nearestMagnitude (num den : Nat) : Nat :=
  let excess := Nat.log2 (num / den) - 52
  excess * significandCount + nearest num (den * Nat.pow 2 excess)

/-- The double of a sign and a magnitude; magnitudes past the finite ones are infinite. -/
def ofMagnitude (negative : Bool) (magnitude : Nat) : Binary64 :=
  if h : magnitude < finiteMagnitudes then finite negative ⟨magnitude, h⟩ else infinite negative

/-- The double nearest to `num / den` units. -/
def ofUnits (negative : Bool) (num den : Nat) : Binary64 :=
  ofMagnitude negative (nearestMagnitude num den)

/-- The double nearest to `num / den`. -/
def ofRatio (negative : Bool) (num den : Nat) : Binary64 :=
  ofUnits negative (num * unitsPerOne) den

/-- The double nearest to a whole number. -/
def ofNat (n : Nat) : Binary64 :=
  ofRatio false n 1

/-- The double nearest to an integer. -/
def ofInt (n : Int) : Binary64 :=
  ofRatio (n < 0) n.natAbs 1

/-- The zero of a sign. -/
def signedZero (negative : Bool) : Binary64 := finite negative ⟨0, by decide⟩

/-- The number `0.0`. -/
def zero : Binary64 := signedZero false

/-- The number `1.0`. -/
def one : Binary64 := finite false ⟨4607182418800017408, by decide⟩

/-- The double with a 64-bit encoding. -/
def ofBits (bits : Nat) : Binary64 :=
  let magnitude := bits % signBit
  let negative := bits / signBit % 2 = 1
  if h : magnitude < finiteMagnitudes then finite negative ⟨magnitude, h⟩
  else if magnitude = finiteMagnitudes then infinite negative
  else nan

/-- The 64-bit encoding; NaN is the quiet one without a sign. -/
def toBits : Binary64 → Nat
  | nan => 9221120237041090560
  | infinite negative => (if negative then signBit else 0) + finiteMagnitudes
  | finite negative magnitude => (if negative then signBit else 0) + magnitude.val

/-- Whether the number is neither infinite nor NaN. -/
def isFinite : Binary64 → Bool
  | finite .. => true
  | _ => false

/-- Whether the number is NaN. -/
def isNaN : Binary64 → Bool
  | nan => true
  | _ => false

/-- Whether the number is a zero of either sign. -/
def isZero : Binary64 → Bool
  | finite _ magnitude => magnitude.val = 0
  | _ => false

/-- The signed multiple of `2 ^ -1074` of a sign and a magnitude. -/
def signedUnits (negative : Bool) (magnitude : Nat) : Int :=
  if negative then -(units magnitude : Int) else units magnitude

/-- The order of the numbers: false as soon as one is NaN, and both zeros are equal. -/
def le : Binary64 → Binary64 → Bool
  | nan, _ | _, nan => false
  | infinite true, _ => true
  | _, infinite false => true
  | infinite false, _ => false
  | _, infinite true => false
  | finite n₁ m₁, finite n₂ m₂ => signedUnits n₁ m₁ ≤ signedUnits n₂ m₂

/-- The absolute value. -/
def abs : Binary64 → Binary64
  | nan => nan
  | infinite _ => infinite false
  | finite _ magnitude => finite false magnitude

/-- The rounded distance `|a - b|`. -/
def distance : Binary64 → Binary64 → Binary64
  | nan, _ | _, nan => nan
  | infinite n₁, infinite n₂ => if n₁ = n₂ then nan else infinite false
  | infinite _, finite .. | finite .., infinite _ => infinite false
  | finite n₁ m₁, finite n₂ m₂ =>
    ofUnits false (signedUnits n₁ m₁ - signedUnits n₂ m₂).natAbs 1

/-- The rounded product. -/
def mul : Binary64 → Binary64 → Binary64
  | nan, _ | _, nan => nan
  | infinite n₁, infinite n₂ => infinite (n₁ != n₂)
  | infinite n₁, finite n₂ m | finite n₁ m, infinite n₂ =>
    if m.val = 0 then nan else infinite (n₁ != n₂)
  | finite n₁ m₁, finite n₂ m₂ => ofUnits (n₁ != n₂) (units m₁ * units m₂) unitsPerOne

/-- The rounded quotient. -/
def div : Binary64 → Binary64 → Binary64
  | nan, _ | _, nan => nan
  | infinite _, infinite _ => nan
  | infinite n₁, finite n₂ _ => infinite (n₁ != n₂)
  | finite n₁ _, infinite n₂ => signedZero (n₁ != n₂)
  | finite n₁ m₁, finite n₂ m₂ =>
    if m₂.val = 0 then if m₁.val = 0 then nan else infinite (n₁ != n₂)
    else ofRatio (n₁ != n₂) (units m₁) (units m₂)

/-- The number with the opposite sign. -/
def neg : Binary64 → Binary64
  | nan => nan
  | infinite negative => infinite (!negative)
  | finite negative magnitude => finite (!negative) magnitude

end Binary64

end FlowParity
