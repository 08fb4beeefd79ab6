import FlowParity.Flow.Layout
/-!
# Flow tables

A flow table is a text of comma-separated lines. Blank lines and lines that start
with `#` do not count; of the **significant** lines the first is the header and
every other one is a record. One bad line spoils the whole table, and the fault
names the first bad line by its number among all lines.
-/

namespace FlowParity

open Text

/-- Why a text is not a flow table. -/
inductive TableFault
  /-- There is no significant line. -/
  | missingHeader
  /-- A line cannot be read. Lines are counted from one. -/
  | malformed (line : Nat) (fault : LineFault)
  deriving DecidableEq, Repr

namespace FlowTable

/-- Whether a line without blanks around it counts. -/
def isSignificant (line : List Char) : Bool :=
  !line.isEmpty && line.head? ≠ some '#'

/-- The lines that count, without blanks around them, each with its number. -/
def significantLines (content : List Char) : List (List Char × Nat) :=
  (((split '\n' content).map trim).zipIdx 1).filter fun line => isSignificant line.1

/-- A fault at a line. -/
def atLine {α : Type} (number : Nat) : Except LineFault α → Except TableFault α
  | .ok a => .ok a
  | .error fault => .error (.malformed number fault)

/-- The records of a text's characters. -/
def parseChars (content : List Char) : Except TableFault (List Record) :=
  match significantLines content with
  | [] => .error .missingHeader
  | (header, number) :: rows => do
    let layout ← atLine number (Layout.ofHeader header)
    rows.mapM fun (row, number) => atLine number (layout.record row)

/-- **The records of a flow table**, in the order of its rows. -/
def parse (content : String) : Except TableFault (List Record) :=
  parseChars content.toList

end FlowTable

end FlowParity
