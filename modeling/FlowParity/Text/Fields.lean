/-!
# Splitting text

Lines and fields are found by one splitter. It never loses a character: joining
the pieces with the separator gives the text back (`join_split`).
-/

namespace FlowParity.Text

/-- The pieces of the text between occurrences of the separator; at least one piece. -/
def split (sep : Char) : List Char → List (List Char)
  | [] => [[]]
  | c :: rest =>
    if c = sep then [] :: split sep rest
    else match split sep rest with
      | [] => [[c]]
      | piece :: pieces => (c :: piece) :: pieces

/-- The pieces written one after the other with the separator between them. -/
def join (sep : Char) : List (List Char) → List Char
  | [] => []
  | [piece] => piece
  | piece :: next :: pieces => piece ++ sep :: join sep (next :: pieces)

/-- The parts before and after the first occurrence of the separator, if there is one. -/
def cut? (sep : Char) : List Char → Option (List Char × List Char)
  | [] => none
  | c :: rest =>
    if c = sep then some ([], rest)
    else (cut? sep rest).map fun (before, after) => (c :: before, after)

/-- The text after the last occurrence of the separator; the whole text if there is none. -/
def afterLast (sep : Char) (s : List Char) : List Char :=
  (s.reverse.takeWhile (· ≠ sep)).reverse

/-- The ASCII lower case of a text; other characters stay as they are. -/
def lower (s : List Char) : List Char :=
  s.map Char.toLower

/-- The ASCII upper case of a text; other characters stay as they are. -/
def upper (s : List Char) : List Char :=
  s.map Char.toUpper

/-- Equality up to ASCII letter case. -/
def sameLetters (s t : List Char) : Bool :=
  lower s = lower t

theorem split_ne_nil (sep : Char) (s : List Char) : split sep s ≠ [] := by
  cases s with
  | nil => simp [split]
  | cons c rest =>
    unfold split
    split
    · simp
    · split <;> simp

/-- **Nothing is lost by splitting.** -/
theorem join_split (sep : Char) (s : List Char) : join sep (split sep s) = s := by
  induction s with
  | nil => rfl
  | cons c rest ih =>
    unfold split
    split
    · next h =>
      cases hs : split sep rest with
      | nil => exact absurd hs (split_ne_nil sep rest)
      | cons piece pieces => simp [join, ← hs, ih, h]
    · cases hs : split sep rest with
      | nil => exact absurd hs (split_ne_nil sep rest)
      | cons piece pieces =>
        cases pieces with
        | nil => simp [hs, join] at ih ⊢; exact ih
        | cons next pieces => simp [hs, join] at ih ⊢; exact ih

end FlowParity.Text
