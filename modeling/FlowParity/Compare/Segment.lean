import FlowParity.Document.Basic
import FlowParity.Flow.Record
import FlowParity.Net.Network
import FlowParity.Time.Timestamp
/-!
# Segments

A segment is the part of the traffic that a rule looks at: what passes between
two networks, or what lies inside a window of time. Networks are compared with
the forward addresses of a record, and windows with its whole span, so a record
is inside a window only if all of its traffic is. A side or bound that is absent
does not restrict.
-/

namespace FlowParity

/-- The traffic between two networks. -/
structure SubnetPair where
  /-- The network of the sender, any if absent. -/
  source : Option Network
  /-- The network of the receiver, any if absent. -/
  target : Option Network
  /-- Whether traffic in the opposite direction counts as well. -/
  bothWays : Bool
  deriving DecidableEq

/-- The traffic from one instant to another, both included. -/
structure TimeWindow where
  /-- The first instant, none if absent. -/
  start : Option Timestamp
  /-- The last instant, none if absent. -/
  finish : Option Timestamp
  deriving DecidableEq

/-- A part of the traffic. -/
inductive Segment
  /-- What passes between two networks. -/
  | subnet (pair : SubnetPair)
  /-- What lies inside a window of time. -/
  | time (window : TimeWindow)
  deriving DecidableEq

/-- Why a segment cannot be built from its texts. -/
inductive SegmentFault
  /-- A text is no network. -/
  | subnet (fault : NetworkFault)
  /-- A text is no timestamp. -/
  | timeBound (fault : TimestampFault)
  deriving DecidableEq

/-- The text of a segment fault. -/
def SegmentFault.message : SegmentFault → String
  | subnet fault => "invalid subnet: " ++ fault.message
  | timeBound fault => "invalid time bound: " ++ fault.message

namespace SubnetPair

/-- Whether an address is in a network that may be absent. -/
def admits (side : Option Network) (a : Address) : Bool :=
  side.all (·.contains a)

/-- Whether a record goes from the source to the target. -/
def matchesForward (p : SubnetPair) (r : Record) : Bool :=
  admits p.source r.key.source.address && admits p.target r.key.target.address

/-- Whether a record goes from the target to the source. -/
def matchesBackward (p : SubnetPair) (r : Record) : Bool :=
  admits p.source r.key.target.address && admits p.target r.key.source.address

/-- **Whether a record belongs to the traffic between the networks.** -/
def matchesRecord (p : SubnetPair) (r : Record) : Bool :=
  p.matchesForward r || (p.bothWays && p.matchesBackward r)

/-- The network of a text that may be absent. -/
def side? : Option String → Except SegmentFault (Option Network)
  | none => .ok none
  | some text =>
    match Network.parse text with
    | .ok n => .ok (some n)
    | .error fault => .error (.subnet fault)

/-- The pair of networks that two texts name. The first text that names none is the fault. -/
def parse (source target : Option String) (bothWays : Bool) : Except SegmentFault SubnetPair := do
  let source ← side? source
  let target ← side? target
  return ⟨source, target, bothWays⟩

/-- The text of a side. -/
def sideText (side : Option Network) : String :=
  (side.map Network.toText).getD "ANY"

/-- The text of a pair of networks. -/
def toText (p : SubnetPair) : String :=
  sideText p.source ++ (if p.bothWays then " <-> " else " -> ") ++ sideText p.target

end SubnetPair

namespace TimeWindow

/-- **Whether a record lies inside the window.** -/
def matchesRecord (w : TimeWindow) (r : Record) : Bool :=
  w.start.all (· ≤ r.spanStart) && w.finish.all (r.spanEnd ≤ ·)

/-- The text of a bound. -/
def boundText (bound : Option Timestamp) : String :=
  (bound.map Timestamp.format).getD "ANY"

/-- The text of a window. -/
def toText (w : TimeWindow) : String :=
  boundText w.start ++ " -> " ++ boundText w.finish

end TimeWindow

namespace Segment

/-- **Whether a record belongs to the segment.** -/
def matchesRecord : Segment → Record → Bool
  | subnet p, r => p.matchesRecord r
  | time w, r => w.matchesRecord r

/-- The records that belong to a segment; without one, all of them. -/
def select (segment : Option Segment) (records : List Record) : List Record :=
  records.filter fun r => segment.all (·.matchesRecord r)

/-- The text of a segment. -/
def toText : Segment → String
  | subnet p => p.toText
  | time w => w.toText

/-- An instant as data. -/
def boundDocument (t : Timestamp) : Document := .integer t.ms

/-- A network as data. -/
def sideDocument (n : Network) : Document := .string n.toText

/-- A segment as data. -/
def toDocument : Segment → Document
  | subnet p => .table [
      ("kind", .string "subnet"),
      ("source", .orNull sideDocument p.source),
      ("dest", .orNull sideDocument p.target),
      ("bidir", .bool p.bothWays)]
  | time w => .table [
      ("kind", .string "time"),
      ("start", .orNull boundDocument w.start),
      ("end", .orNull boundDocument w.finish)]

end Segment

end FlowParity
