import FlowParity.Flow.Record
/-!
# Reconciliation

An exporter flushes a long flow every time its active timeout expires, so one
flow arrives as several records with one key. Reconciliation undoes that. The
records of each key are put in the order of their spans and cut into **chains**:
a record continues the one before it if that one lasted at least the active
timeout and the gap between them is at most the inactive timeout. Each chain is
absorbed into one flow.

A short record followed by a gap ended by itself, so what follows it is a flow of
its own. Records that end before they start cannot be ordered; the first of them
stops the whole pass.
-/

namespace FlowParity

/-- The timeouts of an exporter. -/
structure Timeouts where
  /-- A flow that lasts this long is flushed. -/
  active : Millis
  /-- A flow that is silent for longer than this has ended. -/
  inactive : Millis
  deriving DecidableEq

/-- The timeouts given in seconds. -/
def Timeouts.ofSeconds (active inactive : Nat) : Timeouts :=
  ⟨.ofSeconds active, .ofSeconds inactive⟩

/-- A record that ends before it starts. -/
structure ReversedRecord where
  /-- The position of the record, from one. -/
  position : Nat
  /-- Its key. -/
  key : Key
  /-- The start of the reversed direction, the forward one if both are reversed. -/
  start : Timestamp
  /-- The end of that direction. -/
  finish : Timestamp
  deriving DecidableEq

/-- The text of a reversed record. -/
def ReversedRecord.message (fault : ReversedRecord) : String :=
  let position := fault.position
  let key := fault.key.toText
  let start := fault.start.toText
  let finish := fault.finish.toText
  s!"record #{position} ({key}) ends before it starts ({start} > {finish})"

/-- Counts that describe one reconciliation. -/
structure Statistics where
  /-- The records taken in. -/
  recordsIn : Nat
  /-- The flows given out. -/
  flowsOut : Nat
  /-- The records absorbed into an earlier one. -/
  merges : Nat
  /-- The different keys. -/
  keys : Nat
  /-- The different keys once both directions of a conversation count as one. -/
  conversations : Nat
  deriving DecidableEq, Repr

/-- The flows of a list of records and how they came about. -/
structure Reconciliation where
  /-- The flows: key by key in the order of first appearance, those of one key by start. -/
  flows : List Record
  /-- The counts. -/
  statistics : Statistics
  deriving DecidableEq

namespace Reconciliation

/-- The direction of a record that ends before it starts, the forward one first. -/
def reversedTraffic? (r : Record) : Option Traffic :=
  if !r.forward.isOrdered then some r.forward
  else r.reverse.filter fun back => !back.isOrdered

/-- The first record that ends before it starts. -/
def firstReversed? (records : List Record) : Option ReversedRecord :=
  (records.zipIdx 1).findSome? fun (r, position) =>
    (reversedTraffic? r).map fun t => ⟨position, r.key, t.start, t.finish⟩

/-- **Whether `next` continues the flow that `prev` was cut from.** Overlap counts as no gap. -/
def continues (timeouts : Timeouts) (prev next : Record) : Bool :=
  timeouts.active ≤ prev.spanEnd.since prev.spanStart &&
    (next.spanStart.since prev.spanEnd).max .zero ≤ timeouts.inactive

/-- The order of records of one key: by start of the span, then by its end. -/
def spanLe (a b : Record) : Bool :=
  a.spanStart < b.spanStart || (a.spanStart = b.spanStart && a.spanEnd ≤ b.spanEnd)

/-- The keys in the order of their first appearance. -/
def keysOf (records : List Record) : List Key :=
  (records.map Record.key).eraseDups

/-- The records of one key in the order of their spans; those with equal spans stay as they came. -/
def pieces (records : List Record) (key : Key) : List Record :=
  (records.filter fun r => r.key = key).mergeSort spanLe

/-- The chains of one key. -/
def chains (timeouts : Timeouts) (records : List Record) (key : Key) : List (List Record) :=
  (pieces records key).splitBy (continues timeouts)

/-- The flow of a chain: all its records absorbed into the first. -/
def flow? : List Record → Option Record
  | [] => none
  | first :: rest => some (rest.foldl Record.absorb first)

/-- The flows of records that are all ordered. -/
def ofOrdered (timeouts : Timeouts) (records : List Record) : Reconciliation :=
  let keys := keysOf records
  let all := keys.flatMap (chains timeouts records)
  let flows := all.filterMap flow?
  { flows := flows
    statistics := {
      recordsIn := records.length
      flowsOut := flows.length
      merges := all.foldr (fun chain count => chain.length - 1 + count) 0
      keys := keys.length
      conversations := (keys.map Key.normalized).eraseDups.length } }

end Reconciliation

/-- **The flows that a list of records reports**, or the first record that ends before it starts. -/
def reconcile (timeouts : Timeouts) (records : List Record) :
    Except ReversedRecord Reconciliation :=
  match Reconciliation.firstReversed? records with
  | some fault => .error fault
  | none => .ok (.ofOrdered timeouts records)

end FlowParity
