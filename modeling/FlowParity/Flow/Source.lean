import FlowParity.Files
import FlowParity.Flow.Table
/-!
# Where flow tables come from

A flow table is read from a file, and its faults name the path.
-/

namespace FlowParity

/-- Why there are no flows at a path. -/
inductive LoadFault
  /-- There is nothing at the path. -/
  | notFound (path : String)
  /-- The file cannot be read. -/
  | unreadable (path : String) (fault : FileFault)
  /-- The text is no flow table. -/
  | table (path : String) (fault : TableFault)
  deriving DecidableEq

namespace LoadFault

/-- The path. -/
def path : LoadFault → String
  | notFound path | unreadable path _ | table path _ => path

/-- The text of a fault. -/
def message : LoadFault → String
  | notFound path => s!"flow file not found: {path}"
  | unreadable path fault =>
    let reason := fault.message
    s!"failed to read flow file {path}: {reason}"
  | table path .missingHeader => s!"{path}: missing header line"
  | table path (.malformed line fault) =>
    let problem := fault.message
    s!"{path}:{line}: {problem}"

end LoadFault

namespace FlowTable

/-- The records of a text that stands at a path. -/
def parseAt (path content : String) : Except LoadFault (List Record) :=
  (parse content).mapError (.table path)

/-- **The records of the flow table at a path.** -/
def load (files : Files) (path : String) : Except LoadFault (List Record) :=
  match files path with
  | .ok content => parseAt path content
  | .error fault =>
    .error (if fault.isAbsent then .notFound path else .unreadable path fault)

end FlowTable

end FlowParity
