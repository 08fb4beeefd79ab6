/-!
# Places in text

A place in a text is the number of bytes before it. A character belongs to the
side of a place where it begins.
-/

namespace FlowParity.Text

/-- The bytes of a text in UTF-8. -/
def byteSize : List Char → Nat
  | [] => 0
  | c :: rest => c.utf8Size + byteSize rest

/-- The characters of a text that begin within its first bytes. -/
def takeBytes : Nat → List Char → List Char
  | 0, _ | _, [] => []
  | bytes, c :: rest => c :: takeBytes (bytes - c.utf8Size) rest

/-- The text without the characters that begin within its first bytes. -/
def dropBytes : Nat → List Char → List Char
  | 0, s => s
  | _, [] => []
  | bytes, c :: rest => dropBytes (bytes - c.utf8Size) rest

/-- What a text has at the place of `part` in `before ++ part`. -/
def excerpt (s before part : List Char) : List Char :=
  takeBytes (byteSize part) (dropBytes (byteSize before) s)

end FlowParity.Text
