import FlowParity.Text.Fields
/-!
# Files

The program reads whole files of text and writes none. What reading each path
gives is a function, so a run is a function of the files too.
-/

namespace FlowParity

/-- Why a file cannot be read. -/
inductive FileFault
  /-- There is nothing at the path. -/
  | notFound
  /-- The path leads through something that is no directory. -/
  | notDirectory
  /-- There is a directory at the path. -/
  | isDirectory
  /-- The path or one of its steps is longer than any name can be. -/
  | nameTooLong
  /-- The bytes of the file are no text. -/
  | notText
  /-- Any other reason. -/
  | other (reason : String)
  deriving DecidableEq, Repr

namespace FileFault

/-- The text of a file fault. -/
def message : FileFault → String
  | notFound => "No such file or directory (os error 2)"
  | notDirectory => "Not a directory (os error 20)"
  | isDirectory => "Is a directory (os error 21)"
  | nameTooLong => "File name too long (os error 36)"
  | notText => "stream did not contain valid UTF-8"
  | other reason => reason

/-- Whether the fault says that there can be nothing at the path. -/
def isAbsent : FileFault → Bool
  | notFound | notDirectory | nameTooLong => true
  | _ => false

end FileFault

/-- What reading each path gives. -/
abbrev Files := String → Except FileFault String

namespace Files

open Text

/-- The files of a directory: the steps that lead to each of them, and what reading it gives. -/
abbrev Listing := List (List String × Except FileFault String)

/-- How far a walk along a path has come. -/
inductive Place
  /-- To a directory below the one where the walk began, by these steps. -/
  | within (steps : List String)
  /-- To a directory above it. What else is in there is unknown. -/
  | above
  /-- To a file, with what reading it gives. -/
  | file (content : Except FileFault String)

/-- The steps of a path. -/
def stepsOf (path : String) : List String :=
  (split '/' path.toList).map String.ofList

/-- Whether a step leads nowhere else. -/
def isIdle (step : String) : Bool :=
  step = "" || step = "."

/-- The most bytes of a name. -/
def maxName : Nat := 255

/-- The most bytes of a path. -/
def maxPath : Nat := 4095

/-- The place of some steps in a listing. A listed file is in all the directories on the way. -/
def Listing.place? (listing : Listing) (steps : List String) : Option Place :=
  match listing.lookup steps with
  | some (.error .isDirectory) => some (.within steps)
  | some content => some (.file content)
  | none => if listing.any (steps.isPrefixOf ·.1) then some (.within steps) else none

/-- The place after one more step. Two points lead out of a directory, and nothing leads on from a
file. -/
def Place.next (listing : Listing) (place : Place) (step : String) : Except FileFault Place :=
  match place with
  | .file _ => .error .notDirectory
  | .above =>
    if isIdle step || step = ".." then .ok .above
    else .error (if maxName < step.utf8ByteSize then .nameTooLong else .notFound)
  | .within steps =>
    if isIdle step then .ok place
    else if step = ".." then .ok (if steps.isEmpty then .above else .within steps.dropLast)
    else if maxName < step.utf8ByteSize then .error .nameTooLong
    else
      match listing.place? (steps ++ [step]) with
      | some next => .ok next
      | none => .error .notFound

/-- What reading a place gives. -/
def Place.content : Place → Except FileFault String
  | .within _ | .above => .error .isDirectory
  | .file content => content

/-- Where the walk along a path begins: above the directory if the path says so. -/
def start (path : String) : Place :=
  if path.toList.head? = some '/' then .above else .within []

/-- **The files of a directory** that holds nothing else, by what reading each of them gives. -/
def ofListing (files : List (String × Except FileFault String)) : Files := fun path =>
  let listing := files.map fun file => ((stepsOf file.1).filter (!isIdle ·), file.2)
  if path.isEmpty then .error .notFound
  else if maxPath < path.utf8ByteSize then .error .nameTooLong
  else ((stepsOf path).foldlM (Place.next listing) (start path)).bind Place.content

end Files

end FlowParity
