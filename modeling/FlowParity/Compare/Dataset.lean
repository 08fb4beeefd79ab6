import FlowParity.Compare.Measure
import FlowParity.Compare.Segment
import FlowParity.Flow.Source
import FlowParity.Log.Logged
import FlowParity.Reconcile
/-!
# Datasets

A dataset is one of the two sides of a comparison: its records moved to absolute
times and reconciled into flows. Totals are totals of flows.
-/

namespace FlowParity

open Log

/-- The two sides of a comparison. -/
inductive Role
  /-- What is tested. -/
  | candidate
  /-- What is trusted. -/
  | reference
  deriving DecidableEq, Repr

/-- The name of a side. -/
def Role.toText : Role → String
  | candidate => "candidate"
  | reference => "reference"

/-- Where the records of a dataset come from. -/
inductive Source
  /-- The records themselves. -/
  | records (records : List Record)
  /-- A file. -/
  | file (path : String)

/-- The path of a source that is a file. -/
def Source.path? : Source → Option String
  | records _ => none
  | file path => some path

/-- Why a dataset cannot be built. -/
inductive DatasetFault
  /-- Its file cannot be loaded. -/
  | load (fault : LoadFault)
  /-- A record ends before it starts. -/
  | reversed (fault : ReversedRecord)
  deriving DecidableEq

/-- The text of a dataset fault. -/
def DatasetFault.message : DatasetFault → String
  | load fault => fault.message
  | reversed fault => fault.message

/-- One side of a comparison. -/
structure Dataset where
  /-- Which side it is. -/
  role : Role
  /-- The file it comes from. -/
  path : Option String
  /-- The number of records before reconciliation. -/
  rawLength : Nat
  /-- The flows. -/
  flows : List Record
  /-- How the flows came about. -/
  statistics : Statistics
  deriving DecidableEq

namespace Dataset

/-- The records moved by an offset, if there is one. -/
def moved (offset : Option Millis) (records : List Record) : List Record :=
  match offset with
  | none => records
  | some d => records.map (·.shift d)

/-- **The dataset of records**: moved, then reconciled. -/
def ofRecords (role : Role) (timeouts : Timeouts) (offset : Option Millis)
    (records : List Record) : Except ReversedRecord Dataset :=
  match reconcile timeouts (moved offset records) with
  | .ok r => .ok ⟨role, none, records.length, r.flows, r.statistics⟩
  | .error fault => .error fault

/-- The total of a measure over the flows of a segment. -/
def total (d : Dataset) (measure : Measure) (segment : Option Segment) : Counter :=
  measure.total (Segment.select segment d.flows)

/-- The target of the events of a comparison. -/
def logTarget : String := "ft_analyzer::model"

/-- The event of a file that has been loaded. -/
def loadedEvent (role : Role) (path : String) (rows : Nat) : Event where
  severity := .info
  target := logTarget
  recorded := [
    ("message", some (.string s!"Loaded {role.toText} dataset")),
    ("event", some (.string "dataset.loaded")),
    ("stage", some (.string Stage.load.toText)),
    ("role", some (.string role.toText)),
    ("path", some (.string path)),
    ("rows", some (.nat rows))]

/-- The event of a dataset that has been reconciled. -/
def reconciledEvent (d : Dataset) : Event where
  severity := .info
  target := logTarget
  recorded := [
    ("message", some (.string s!"Reconciled {d.role.toText} dataset")),
    ("event", some (.string "reconcile.finished")),
    ("stage", some (.string Stage.reconcile.toText)),
    ("role", some (.string d.role.toText)),
    ("records_in", some (.nat d.statistics.recordsIn)),
    ("flows_out", some (.nat d.statistics.flowsOut)),
    ("merges", some (.nat d.statistics.merges))]

/-- The records of a source. -/
def recordsOf (files : Files) (role : Role) : Source → Logged DatasetFault (List Record)
  | .records records => pure records
  | .file path => do
    let records ← .ofExcept ((FlowTable.load files path).mapError .load)
    .tell (loadedEvent role path records.length)
    return records

/-- The dataset of a source. -/
def ofSource (files : Files) (role : Role) (timeouts : Timeouts) (offset : Option Millis)
    (source : Source) : Logged DatasetFault Dataset := do
  let records ← recordsOf files role source
  let dataset ← .ofExcept ((ofRecords role timeouts offset records).mapError .reversed)
  .tell dataset.reconciledEvent
  return { dataset with path := source.path? }

end Dataset

end FlowParity
