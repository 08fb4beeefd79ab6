import FlowParity.Number.Binary64
/-!
# Documents

Rule files, reports and log lines are trees of data. A document keeps integers
apart from other numbers and the members of a table in their written order,
repeated names included. A value that is well formed but stands for nothing,
such as a number too large for a double, is `unreadable`: it does no harm where
nobody looks at it.
-/

namespace FlowParity

/-- A tree of data. -/
inductive Document
  /-- No value. -/
  | null
  /-- A truth value. -/
  | bool (value : Bool)
  /-- A whole number written as one. -/
  | integer (value : Int)
  /-- Any other number. -/
  | float (value : Binary64)
  /-- A text. -/
  | string (value : String)
  /-- A list. -/
  | list (items : List Document)
  /-- Named members in their written order. -/
  | table (members : List (String × Document))
  /-- A date or a time of day; which one never matters. -/
  | date
  /-- Something well formed without a value. -/
  | unreadable

namespace Document

/-- A member for an optional value, left out when there is none. -/
def optional {α : Type} (name : String) (encode : α → Document) :
    Option α → List (String × Document)
  | none => []
  | some a => [(name, encode a)]

/-- A value, or null when there is none. -/
def orNull {α : Type} (encode : α → Document) : Option α → Document
  | none => null
  | some a => encode a

/-- A natural number. -/
def nat (n : Nat) : Document := integer n

/-- The members with one more: it goes before the first larger name, or takes the place of a member
of the same name. -/
def insertMember (member : String × Document) :
    List (String × Document) → List (String × Document)
  | [] => [member]
  | other :: rest =>
    if member.1 = other.1 then member :: rest
    else if member.1 < other.1 then member :: other :: rest
    else other :: insertMember member rest

/-- The members in the order of their names; of members with one name the last counts. -/
def sortMembers (members : List (String × Document)) : List (String × Document) :=
  members.foldl (fun sorted member => insertMember member sorted) []

mutual

/-- The document with the members of every table in the order of their names. -/
def sorted : Document → Document
  | list items => list (sortedItems items)
  | table members => table (sortMembers (sortedMembers members))
  | other => other

/-- The items of a list, sorted inside. -/
def sortedItems : List Document → List Document
  | [] => []
  | item :: rest => sorted item :: sortedItems rest

/-- The members of a table, sorted inside. -/
def sortedMembers : List (String × Document) → List (String × Document)
  | [] => []
  | (name, value) :: rest => (name, sorted value) :: sortedMembers rest

end

end Document

end FlowParity
