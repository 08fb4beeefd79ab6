import FlowParity.Document.Basic
/-!
# Tables of TOML

A TOML text says in many places what a table contains: under headers, with
dotted keys and in inline tables. A `Node` remembers how a table came to be,
because that decides who may still add to it: a header may fill in a table that
so far was only passed through, a dotted key may extend a table that dotted keys
made, and nobody may write a member twice.
-/

namespace FlowParity.Document.Toml

/-- How a table came to be. -/
inductive Origin
  /-- By a header of its own. -/
  | header
  /-- On the way to a table with a header. -/
  | passed
  /-- By a dotted key. -/
  | dotted
  deriving DecidableEq

/-- A member of a table under construction. -/
inductive Node
  /-- A finished value. -/
  | value (d : Document)
  /-- A table. -/
  | table (origin : Origin) (members : List (String × Node))
  /-- A list of tables with headers, the last one first. -/
  | tables (last : List (String × Node)) (earlier : List (List (String × Node)))

/-- The members of a table under construction. -/
abbrev Members := List (String × Node)

/-- The member of a name. -/
def Members.get? (members : Members) (name : String) : Option Node :=
  List.lookup name members

/-- The members with one of them put in the place of the others of its name. -/
def Members.put (members : Members) (name : String) (node : Node) : Members :=
  (members.filter fun m => m.1 ≠ name) ++ [(name, node)]

mutual

/-- The finished document of a member. -/
def Node.toDocument : Node → Document
  | .value d => d
  | .table _ members => .table (membersToDocument members)
  | .tables last earlier =>
    .list ((tablesToDocument earlier).reverse ++ [.table (membersToDocument last)])

/-- The finished members of a table. -/
def membersToDocument : List (String × Node) → List (String × Document)
  | [] => []
  | (name, node) :: rest => (name, node.toDocument) :: membersToDocument rest

/-- The finished tables of a list. -/
def tablesToDocument : List (List (String × Node)) → List Document
  | [] => []
  | members :: rest => .table (membersToDocument members) :: tablesToDocument rest

end

/-- Gives a value to the member that a dotted key names. Only tables made by dotted keys may be
extended, and the member must be new. -/
def Members.assign (members : Members) (path : List String) (name : String) (d : Document) :
    Option Members :=
  match path with
  | [] => if (members.get? name).isSome then none else some (members ++ [(name, .value d)])
  | step :: path =>
    match members.get? step with
    | none => (Members.assign [] path name d).map fun inner =>
        members.put step (.table .dotted inner)
    | some (.value _) => none
    | some (.table origin inner) =>
      if origin = .header || (path.isEmpty && origin ≠ .dotted) then none
      else (Members.assign inner path name d).map fun inner =>
        members.put step (.table origin inner)
    | some (.tables last earlier) =>
      if path.isEmpty then none
      else (Members.assign last path name d).map fun last =>
        members.put step (.tables last earlier)

/-- Changes the table that the steps of a header lead to. A step passes through tables, through the
last table of a list, and makes what is missing. -/
def Members.modify (members : Members) (path : List String) (f : Members → Option Members) :
    Option Members :=
  match path with
  | [] => f members
  | step :: path =>
    match members.get? step with
    | none => (Members.modify [] path f).map fun inner =>
        members.put step (.table .passed inner)
    | some (.value _) => none
    | some (.table origin inner) => (Members.modify inner path f).map fun inner =>
        members.put step (.table origin inner)
    | some (.tables last earlier) => (Members.modify last path f).map fun last =>
        members.put step (.tables last earlier)

/-- An assignment: the steps of a dotted key, its last part, and the value. -/
structure Assignment where
  /-- The parts of the key before the last one. -/
  path : List String
  /-- The last part of the key. -/
  name : String
  /-- The value. -/
  value : Document

/-- The members with the assignments made in order. -/
def Members.assignAll (members : Members) (assignments : List Assignment) : Option Members :=
  assignments.foldlM (fun members a => members.assign a.path a.name a.value) members

/-- A header with the assignments under it. -/
structure Section where
  /-- Whether the header starts a new table of a list. -/
  inList : Bool
  /-- The parts of the header before the last one. -/
  path : List String
  /-- The last part of the header. -/
  name : String
  /-- The assignments, in order. -/
  assignments : List Assignment

/-- The table that a section fills: a new one, or one that so far was only passed through. -/
def Members.addSection (root : Members) (s : Section) : Option Members :=
  root.modify s.path fun members =>
    match s.inList, members.get? s.name with
    | true, none => (Members.assignAll [] s.assignments).map fun inner =>
        members.put s.name (.tables inner [])
    | true, some (.tables last earlier) => (Members.assignAll [] s.assignments).map fun inner =>
        members.put s.name (.tables inner (last :: earlier))
    | false, none => (Members.assignAll [] s.assignments).map fun inner =>
        members.put s.name (.table .header inner)
    | false, some (.table .passed inner) => (Members.assignAll inner s.assignments).map fun inner =>
        members.put s.name (.table .header inner)
    | _, _ => none

/-- The document of the assignments before the first header and the sections after it. -/
def build (assignments : List Assignment) (sections : List Section) : Option Document := do
  let root ← Members.assignAll [] assignments
  let root ← sections.foldlM Members.addSection root
  return .table (membersToDocument root)

end FlowParity.Document.Toml
