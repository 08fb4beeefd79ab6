import FlowParity.Flow.Column
import FlowParity.Flow.Record
import FlowParity.Time.Timestamp
/-!
# Reading rows

The header of a table fixes its **layout**: which column each field holds. A row
is read through the layout, field by field in a fixed order, and the first field
that cannot be read is the fault of the row.
-/

namespace FlowParity

open Text

/-- Why a line of a flow table cannot be read. -/
inductive LineFault
  /-- The header names a column twice. -/
  | duplicateColumn (column : Column)
  /-- The header lacks required columns. -/
  | missingColumns (columns : List Column)
  /-- The header has one of the two reverse counters without the other. -/
  | unpairedReverse
  /-- The row does not have as many fields as the header. -/
  | fieldCount (expected found : Nat)
  /-- The row has no such field. -/
  | absent (column : Column)
  /-- The field is not an integer of its range. -/
  | integer (column : Column) (text : String) (fault : IntegerFault)
  /-- The field is not an address. -/
  | address (column : Column) (text : String)
  /-- The field is not a timestamp. -/
  | timestamp (column : Column) (fault : TimestampFault)
  deriving DecidableEq, Repr

/-- The text of a line fault. -/
def LineFault.message : LineFault → String
  | .duplicateColumn column => "duplicate column " ++ column.name
  | .missingColumns columns =>
    "missing required columns: " ++ ", ".intercalate (columns.map Column.name)
  | .unpairedReverse => "PACKETS_REV and BYTES_REV must be present together"
  | .fieldCount expected found => s!"expected {expected} fields, found {found}"
  | .absent column => "column " ++ column.name ++ " is not present"
  | .integer column text fault =>
    "column " ++ column.name ++ ": '" ++ text ++ "': " ++ fault.message
  | .address column text =>
    "column " ++ column.name ++ ": '" ++ text ++ "': invalid IP address syntax"
  | .timestamp column fault => "column " ++ column.name ++ ": " ++ fault.message

/-- The content of a field: without the blanks and then the double quotes around it. -/
def fieldContent (field : List Char) : List Char :=
  strip (· = '"') (trim field)

/-- The meaning of the fields of a table: for each the column it holds, if it is a known one. -/
structure Layout where
  /-- The columns in the order of the fields. -/
  columns : List (Option Column)
  deriving DecidableEq, Repr

namespace Layout

/-- The first column that occurs a second time. -/
def firstRepeated? (seen : List Column) : List (Option Column) → Option Column
  | [] => none
  | none :: rest => firstRepeated? seen rest
  | some c :: rest => if c ∈ seen then some c else firstRepeated? (c :: seen) rest

/-- Whether the table has the column. -/
def has (layout : Layout) (column : Column) : Bool :=
  some column ∈ layout.columns

/-- The layout that a header line describes. -/
def ofHeader (header : List Char) : Except LineFault Layout :=
  let layout : Layout := ⟨(split ',' header).map fun f => Column.ofHeader? (fieldContent f)⟩
  let missing := Column.all.filter fun c => c.isRequired && !layout.has c
  match firstRepeated? [] layout.columns with
  | some column => .error (.duplicateColumn column)
  | none =>
    if !missing.isEmpty then .error (.missingColumns missing)
    else if layout.has .packetsRev != layout.has .bytesRev then .error .unpairedReverse
    else .ok layout

/-- The content of the field of a column. -/
def field? (layout : Layout) (fields : List (List Char)) (column : Column) :
    Option (List Char) :=
  ((layout.columns.zip fields).find? fun p => p.1 = some column).map fun p => fieldContent p.2

/-- The field of a column as an integer of at most `limit`. -/
def integer (layout : Layout) (fields : List (List Char)) (column : Column) (limit : Nat) :
    Except LineFault Nat :=
  match layout.field? fields column with
  | none => .error (.absent column)
  | some field => match readNat limit field with
    | .ok n => .ok n
    | .error fault => .error (.integer column (String.ofList field) fault)

/-- The field of a column as a counter. -/
def counter (layout : Layout) (fields : List (List Char)) (column : Column) :
    Except LineFault Counter :=
  (layout.integer fields column Counter.maximum).map Counter.clamp

/-- The field of a column as a port. -/
def port (layout : Layout) (fields : List (List Char)) (column : Column) :
    Except LineFault UInt16 :=
  (layout.integer fields column 65535).map UInt16.ofNat

/-- The field of a column as a protocol number. -/
def protocol (layout : Layout) (fields : List (List Char)) (column : Column) :
    Except LineFault UInt8 :=
  (layout.integer fields column 255).map UInt8.ofNat

/-- The field of a column as an address. -/
def address (layout : Layout) (fields : List (List Char)) (column : Column) :
    Except LineFault Address :=
  match layout.field? fields column with
  | none => .error (.absent column)
  | some field => match Address.parseChars? field with
    | some a => .ok a
    | none => .error (.address column (String.ofList field))

/-- The field of a column as a timestamp, if the table has the column. -/
def timestamp? (layout : Layout) (fields : List (List Char)) (column : Column) :
    Except LineFault (Option Timestamp) :=
  match layout.field? fields column with
  | none => .ok none
  | some field => match Timestamp.parseTrimmed (trim field) with
    | .ok t => .ok (some t)
    | .error fault => .error (.timestamp column fault)

/-- The field of a column as a timestamp. -/
def timestamp (layout : Layout) (fields : List (List Char)) (column : Column) :
    Except LineFault Timestamp := do
  match ← layout.timestamp? fields column with
  | some t => .ok t
  | none => .error (.absent column)

/-- The reverse traffic of a row. Instants that the table leaves out are those of the forward
traffic. -/
def reverse (layout : Layout) (fields : List (List Char)) (start finish : Timestamp) :
    Except LineFault (Option Traffic) :=
  if layout.has .packetsRev then do
    let backStart ← layout.timestamp? fields .startTimeRev
    let backFinish ← layout.timestamp? fields .endTimeRev
    let packets ← layout.counter fields .packetsRev
    let bytes ← layout.counter fields .bytesRev
    return some ⟨backStart.getD start, backFinish.getD finish, packets, bytes⟩
  else return none

/-- **The record of a row.** -/
def record (layout : Layout) (row : List Char) : Except LineFault Record := do
  let fields := split ',' row
  if fields.length ≠ layout.columns.length then
    throw (.fieldCount layout.columns.length fields.length)
  let start ← layout.timestamp fields .startTime
  let finish ← layout.timestamp fields .endTime
  let reverse ← layout.reverse fields start finish
  let srcIp ← layout.address fields .srcIp
  let dstIp ← layout.address fields .dstIp
  let srcPort ← layout.port fields .srcPort
  let dstPort ← layout.port fields .dstPort
  let l3 ← layout.protocol fields .l3Proto
  let l4 ← layout.protocol fields .l4Proto
  let packets ← layout.counter fields .packets
  let bytes ← layout.counter fields .bytes
  return {
    key := ⟨⟨srcIp, srcPort⟩, ⟨dstIp, dstPort⟩, l3, l4⟩
    forward := ⟨start, finish, packets, bytes⟩
    reverse := reverse }

end Layout

end FlowParity
