import FlowParity.Flow.Counter
import FlowParity.Net.AddressText
import FlowParity.Time.Millis
/-!
# Flow records

A record is one observation of a flow by an exporter: who talked to whom, when,
and how much. A biflow-aware exporter adds the **reverse** side, the traffic that
came back. Records with one key may be pieces of one flow, which `Record.absorb`
puts together: earliest start, latest end, summed counters, side by side for the
two directions.
-/

namespace FlowParity

/-- The traffic in one direction: its first and last instant and what was counted. -/
structure Traffic where
  /-- The instant of the first packet. -/
  start : Timestamp
  /-- The instant of the last packet. -/
  finish : Timestamp
  /-- The number of packets. -/
  packets : Counter
  /-- The number of bytes. -/
  bytes : Counter
  deriving DecidableEq

namespace Traffic

/-- Both kinds of traffic taken together. -/
def merge (a b : Traffic) : Traffic where
  start := a.start.min b.start
  finish := a.finish.max b.finish
  packets := a.packets + b.packets
  bytes := a.bytes + b.bytes

/-- Whether the traffic does not end before it starts. -/
def isOrdered (t : Traffic) : Bool := t.start ≤ t.finish

/-- The traffic with both instants moved by an offset. -/
def shift (t : Traffic) (offset : Millis) : Traffic :=
  { t with start := t.start.shift offset, finish := t.finish.shift offset }

end Traffic

/-- One end of a flow. -/
structure Endpoint where
  /-- The address. -/
  address : Address
  /-- The port. -/
  port : UInt16
  deriving DecidableEq

/-- The order of endpoints: by address, then by port. -/
def Endpoint.le (a b : Endpoint) : Bool :=
  if a.address = b.address then a.port.toNat ≤ b.port.toNat else a.address.le b.address

/-- The identity of a flow. Both directions of a conversation have keys of their own. -/
structure Key where
  /-- The end that sends the forward traffic. -/
  source : Endpoint
  /-- The end that receives it. -/
  target : Endpoint
  /-- The network protocol. -/
  l3 : UInt8
  /-- The transport protocol. -/
  l4 : UInt8
  deriving DecidableEq

namespace Key

/-- The key of the opposite direction. -/
def opposite (k : Key) : Key := { k with source := k.target, target := k.source }

/-- The one of the two directions of a conversation whose source comes first. -/
def normalized (k : Key) : Key := if k.source.le k.target then k else k.opposite

/-- The text of a key. -/
def toText (k : Key) : String :=
  let source := k.source.address.toText ++ ":" ++ toString k.source.port.toNat
  let target := k.target.address.toText ++ ":" ++ toString k.target.port.toNat
  let l3 := k.l3.toNat
  let l4 := k.l4.toNat
  s!"{source} -> {target} (l3={l3}, l4={l4})"

end Key

/-- One exported observation of a flow. -/
structure Record where
  /-- The identity of the flow. -/
  key : Key
  /-- The traffic from source to target. -/
  forward : Traffic
  /-- The traffic from target to source, where the exporter reports it. -/
  reverse : Option Traffic
  deriving DecidableEq

namespace Record

/-- The earliest start in either direction. -/
def spanStart (r : Record) : Timestamp :=
  match r.reverse with
  | none => r.forward.start
  | some back => r.forward.start.min back.start

/-- The latest end in either direction. -/
def spanEnd (r : Record) : Timestamp :=
  match r.reverse with
  | none => r.forward.finish
  | some back => r.forward.finish.max back.finish

/-- Whether no direction ends before it starts. -/
def isOrdered (r : Record) : Bool :=
  r.forward.isOrdered && r.reverse.all Traffic.isOrdered

/-- The packets of both directions. -/
def totalPackets (r : Record) : Counter :=
  r.forward.packets + (r.reverse.map Traffic.packets).getD .zero

/-- The bytes of both directions. -/
def totalBytes (r : Record) : Counter :=
  r.forward.bytes + (r.reverse.map Traffic.bytes).getD .zero

/-- The record with every instant moved by an offset. -/
def shift (r : Record) (offset : Millis) : Record :=
  { r with
    forward := r.forward.shift offset
    reverse := r.reverse.map (·.shift offset) }

/-- The reverse sides of two pieces taken together; one that stands alone is kept as it is. -/
def mergeReverse : Option Traffic → Option Traffic → Option Traffic
  | some a, some b => some (a.merge b)
  | some a, none => some a
  | none, other => other

/-- **Two pieces of one flow as one record**, under the key of the first. -/
def absorb (r other : Record) : Record where
  key := r.key
  forward := r.forward.merge other.forward
  reverse := mergeReverse r.reverse other.reverse

end Record

end FlowParity
