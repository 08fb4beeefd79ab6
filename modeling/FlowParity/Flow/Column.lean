import FlowParity.Text.Blank
import FlowParity.Text.Fields
/-!
# The columns of a flow table

A flow table names its columns in a header. Ten columns are required; four more
describe the reverse direction of biflow records. Other columns are ignored.
-/

namespace FlowParity

/-- The columns with a meaning. -/
inductive Column
  /-- The source address. -/
  | srcIp
  /-- The target address. -/
  | dstIp
  /-- The first instant of the forward traffic. -/
  | startTime
  /-- The last instant of the forward traffic. -/
  | endTime
  /-- The network protocol. -/
  | l3Proto
  /-- The transport protocol. -/
  | l4Proto
  /-- The source port. -/
  | srcPort
  /-- The target port. -/
  | dstPort
  /-- The packets of the forward traffic. -/
  | packets
  /-- The bytes of the forward traffic. -/
  | bytes
  /-- The packets of the reverse traffic. -/
  | packetsRev
  /-- The bytes of the reverse traffic. -/
  | bytesRev
  /-- The first instant of the reverse traffic. -/
  | startTimeRev
  /-- The last instant of the reverse traffic. -/
  | endTimeRev
  deriving DecidableEq, Repr

namespace Column

/-- All columns, in the order in which missing ones are reported. -/
def all : List Column :=
  [srcIp, dstIp, startTime, endTime, l3Proto, l4Proto, srcPort, dstPort, packets, bytes,
   packetsRev, bytesRev, startTimeRev, endTimeRev]

/-- The name of a column in a header. -/
def name : Column → String
  | srcIp => "SRC_IP"
  | dstIp => "DST_IP"
  | startTime => "START_TIME"
  | endTime => "END_TIME"
  | l3Proto => "L3_PROTO"
  | l4Proto => "L4_PROTO"
  | srcPort => "SRC_PORT"
  | dstPort => "DST_PORT"
  | packets => "PACKETS"
  | bytes => "BYTES"
  | packetsRev => "PACKETS_REV"
  | bytesRev => "BYTES_REV"
  | startTimeRev => "START_TIME_REV"
  | endTimeRev => "END_TIME_REV"

/-- Whether every table must have the column: all but those of the reverse traffic. -/
def isRequired : Column → Bool
  | packetsRev | bytesRev | startTimeRev | endTimeRev => false
  | _ => true

/-- The column named by a header field, in any letter case. -/
def ofHeader? (field : List Char) : Option Column :=
  all.find? fun c => Text.sameLetters c.name.toList field

end Column

end FlowParity
