import FlowParity.Flow.Record
/-!
# Measures

What is counted in a list of records: packets and bytes of both directions, or
the records themselves, which are flows once they are reconciled.
-/

namespace FlowParity

/-- A quantity that two datasets are compared by. -/
inductive Measure
  /-- The packets of both directions. -/
  | packets
  /-- The bytes of both directions. -/
  | bytes
  /-- The flows. -/
  | flows
  deriving DecidableEq, Repr

namespace Measure

/-- All measures. -/
def all : List Measure := [packets, bytes, flows]

/-- The name of a measure in reports. -/
def toText : Measure → String
  | packets => "PACKETS"
  | bytes => "BYTES"
  | flows => "FLOWS"

/-- The name of a measure in rule files. -/
def ruleText : Measure → String
  | packets => "packets"
  | bytes => "bytes"
  | flows => "flows"

/-- The measure that a name in a rule file stands for, all lower or all upper case. -/
def ofRuleText? (s : String) : Option Measure :=
  all.find? fun m => m.ruleText = s || m.toText = s

/-- **The total of a measure over records.** -/
def total (m : Measure) (records : List Record) : Counter :=
  match m with
  | packets => Counter.sum (records.map Record.totalPackets)
  | bytes => Counter.sum (records.map Record.totalBytes)
  | flows => Counter.clamp records.length

end Measure

end FlowParity
