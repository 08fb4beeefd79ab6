/-!
# Blank characters

Flow files, rule files and settings are written by people and by tools, so
blanks around a value never count. *Blank* is the Unicode property White_Space,
which is wider than the ASCII blanks of `Char.isWhitespace` and is a table here.
-/

namespace FlowParity.Text

/-- The ranges of code points that have the Unicode property White_Space. -/
def blankRanges : List (Nat × Nat) :=
  [(0x09, 0x0D), (0x20, 0x20), (0x85, 0x85), (0xA0, 0xA0), (0x1680, 0x1680),
   (0x2000, 0x200A), (0x2028, 0x2029), (0x202F, 0x202F), (0x205F, 0x205F), (0x3000, 0x3000)]

/-- A blank: a character with the Unicode property White_Space. -/
def isBlank (c : Char) : Bool :=
  blankRanges.any fun r => r.1 ≤ c.toNat && c.toNat ≤ r.2

/-- The text without the leading and trailing characters that satisfy `p`. -/
def strip (p : Char → Bool) (s : List Char) : List Char :=
  ((s.dropWhile p).reverse.dropWhile p).reverse

/-- The text without blanks at either end. -/
def trim (s : List Char) : List Char :=
  strip isBlank s

end FlowParity.Text
