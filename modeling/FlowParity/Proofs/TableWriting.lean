import FlowParity.Proofs.AddressReading
import FlowParity.Proofs.FieldText
import FlowParity.Proofs.TableReading
/-!
# Writing tables

The texts that show given records, and that each of them is read as these records. The writer is
free in everything that carries no meaning (`Renders`): the order of the columns and the letter
case of their names, further columns with whatever content, blanks and double quotes around the
fields, lines in between that do not count, and how lines end.

What is read is what was written (`parse_renders`), except for one thing that a table may leave
out: without the columns for the bounds of reverse traffic, these are the bounds of the forward
traffic (`Record.asRead`).
-/

namespace FlowParity

open Text

/-! ## Values -/

/-- The text of what a record has at a column, if it has something there. -/
def Record.valueText? (r : Record) : Column → Option String
  | .srcIp => some r.key.source.address.toText
  | .dstIp => some r.key.target.address.toText
  | .startTime => some r.forward.start.toText
  | .endTime => some r.forward.finish.toText
  | .l3Proto => some (toString r.key.l3.toNat)
  | .l4Proto => some (toString r.key.l4.toNat)
  | .srcPort => some (toString r.key.source.port.toNat)
  | .dstPort => some (toString r.key.target.port.toNat)
  | .packets => some (toString r.forward.packets.toNat)
  | .bytes => some (toString r.forward.bytes.toNat)
  | .packetsRev => r.reverse.map fun back => toString back.packets.toNat
  | .bytesRev => r.reverse.map fun back => toString back.bytes.toNat
  | .startTimeRev => r.reverse.map fun back => back.start.toText
  | .endTimeRev => r.reverse.map fun back => back.finish.toText

/-- The record that a table with some layout is read as: where it leaves out a bound of the
reverse traffic, that of the forward traffic stands for it. -/
def Record.asRead (layout : Layout) (r : Record) : Record :=
  { r with
    reverse := r.reverse.map fun back =>
      { back with
        start := if Column.startTimeRev ∈ layout.known then back.start else r.forward.start
        finish := if Column.endTimeRev ∈ layout.known then back.finish else r.forward.finish } }

/-- Nothing is left out for a record without reverse traffic, or by a layout with its bounds. -/
theorem Record.asRead_eq_self {layout : Layout} {r : Record}
    (h : r.reverse.isSome = true →
      Column.startTimeRev ∈ layout.known ∧ Column.endTimeRev ∈ layout.known) :
    r.asRead layout = r := by
  obtain ⟨key, forward, reverse⟩ := r
  cases reverse with
  | none => rfl
  | some back => simp [asRead, h rfl]

/-! ## Texts of tables -/

/-- A layout has room for records: the columns that each record fills, the reverse counters if
the records have reverse traffic, and none twice. -/
structure Layout.Carries (layout : Layout) (records : List Record) : Prop where
  /-- No known column comes twice. -/
  once : layout.known.Nodup
  /-- The required columns are there. -/
  required : ∀ c : Column, c.isRequired = true → c ∈ layout.known
  /-- The reverse counters come together. -/
  paired : Column.packetsRev ∈ layout.known ↔ Column.bytesRev ∈ layout.known
  /-- They are there exactly for reverse traffic. -/
  reverse : ∀ r ∈ records, r.reverse.isSome = true ↔ Column.packetsRev ∈ layout.known

/-- A header field for a column: its name in any letter case, or for another column anything that
names no known one. -/
inductive Names : Option Column → List Char → Prop
  /-- A known column. -/
  | known {c : Column} {name field : List Char}
    (hname : sameLetters c.name.toList name = true) (hfield : Shows name field) :
    Names (some c) field
  /-- Another column. -/
  | other {field : List Char} (hfree : IsFree field)
    (hname : Column.ofHeader? (fieldContent field) = none) : Names none field

/-- A field of a record at a column: its value there, or anything where it has none. -/
inductive Record.Gives (r : Record) : Option Column → List Char → Prop
  /-- A value. -/
  | value {c : Column} {text : String} {field : List Char} (hvalue : r.valueText? c = some text)
    (hfield : Shows text.toList field) : r.Gives (some c) field
  /-- A column without a value. -/
  | none {c : Column} {field : List Char} (hvalue : r.valueText? c = none)
    (hfree : IsFree field) : r.Gives (some c) field
  /-- Another column. -/
  | other {field : List Char} (hfree : IsFree field) : r.Gives none field

namespace FlowTable

/-- Some lines with others in between that do not count. -/
inductive Spread : List (List Char) → List (List Char) → Prop
  /-- No lines. -/
  | nil : Spread [] []
  /-- A blank line or a comment. -/
  | skip {line : List Char} {kept lines : List (List Char)} (hline : '\n' ∉ line)
    (hskipped : isSignificant (trim line) = false) (h : Spread kept lines) :
    Spread kept (line :: lines)
  /-- A line that is kept. -/
  | keep {line : List Char} {kept lines : List (List Char)} (h : Spread kept lines) :
    Spread (line :: kept) (line :: lines)

/-- The text of some lines, each with one of the two line ends, of which the last is optional. -/
inductive Lines : List (List Char) → List Char → Prop
  /-- The last line. -/
  | last {line : List Char} : Lines [line] line
  /-- A line feed. -/
  | lf {line : List Char} {lines : List (List Char)} {s : List Char} (h : Lines lines s) :
    Lines (line :: lines) (line ++ '\n' :: s)
  /-- A carriage return and a line feed. -/
  | crlf {line : List Char} {lines : List (List Char)} {s : List Char} (h : Lines lines s) :
    Lines (line :: lines) (line ++ '\r' :: '\n' :: s)

/-- **The texts that show some records** in a layout: a header, a row for each record, and lines
in between. Neither the header nor a row looks like a comment. -/
def Renders (layout : Layout) (records : List Record) (content : List Char) : Prop :=
  ∃ header rows lines, List.Forall₂ Names layout.columns header ∧
    List.Forall₂ (fun r row => List.Forall₂ (Record.Gives r) layout.columns row) records rows ∧
    (∀ fields ∈ header :: rows, (trim (join ',' fields)).head? ≠ some '#') ∧
    Spread ((header :: rows).map (join ',')) lines ∧ Lines lines content

end FlowTable

variable {layout : Layout} {records : List Record} {r : Record} {fields : List (List Char)}

/-! ## What fields say -/

theorem isPlain_of_isAddressChar {c : Char} (h : Address.IsAddressChar c) : IsPlain c := by
  have hdigit : ∀ d < 16, IsPlain (Nat.digitChar d) := by decide
  rcases h with rfl | rfl | ⟨d, hd, rfl⟩
  · decide
  · decide
  · exact hdigit d hd

theorem isPlain_of_mem_toDigits {n : Nat} : ∀ c ∈ Nat.toDigits 10 n, IsPlain c := fun _ hc =>
  isPlain_of_isAddressChar (Address.isAddressChar_of_mem_toDigits (by decide) (by decide) hc)

theorem isPlain_of_mem_toText {t : Timestamp} : ∀ c ∈ t.toText.toList, IsPlain c := by
  rw [Millis.toList_toText]
  split
  · rw [List.forall_mem_cons]
    exact ⟨by decide, isPlain_of_mem_toDigits⟩
  · exact isPlain_of_mem_toDigits

/-- A value is put in a field as it is. -/
theorem Record.isPlain_of_valueText? {c : Column} {text : String}
    (h : r.valueText? c = some text) : ∀ ch ∈ text.toList, IsPlain ch := by
  have haddress : ∀ a : Address, ∀ ch ∈ a.toText.toList, IsPlain ch := fun a ch hch =>
    isPlain_of_isAddressChar (Address.isAddressChar_of_mem_toText ch hch)
  have hnumber : ∀ n : Nat, ∀ ch ∈ (toString n).toList, IsPlain ch := fun n => by
    rw [toList_toString]
    exact isPlain_of_mem_toDigits
  cases c
  all_goals
    simp only [Record.valueText?, Option.map_eq_some_iff, Option.some.injEq] at h
  case srcIp | dstIp => exact h ▸ haddress _
  case startTime | endTime => exact h ▸ isPlain_of_mem_toText
  case startTimeRev | endTimeRev =>
    obtain ⟨back, -, rfl⟩ := h
    exact isPlain_of_mem_toText
  case packetsRev | bytesRev =>
    obtain ⟨back, -, rfl⟩ := h
    exact hnumber _
  all_goals exact h ▸ hnumber _

theorem Record.Gives.isFree {c? : Option Column} {field : List Char} (h : r.Gives c? field) :
    IsFree field := by
  cases h with
  | value hvalue hfield => exact hfield.isFree (r.isPlain_of_valueText? hvalue)
  | none _ hfree => exact hfree
  | other hfree => exact hfree

theorem Column.isPlain_of_sameLetters {c : Column} {name : List Char}
    (h : sameLetters c.name.toList name = true) : ∀ ch ∈ name, IsPlain ch := by
  have hplain : (lower c.name.toList).all (fun ch => decide (IsPlain ch)) = true := by
    cases c <;> decide
  refine Text.isPlain_of_sameLetters (fun ch hch => ?_) h
  exact of_decide_eq_true (List.all_eq_true.1 hplain ch hch)

/-- No two columns differ by the case of letters only. -/
theorem Column.ofHeader?_eq_some {c : Column} {name : List Char}
    (h : sameLetters c.name.toList name = true) : ofHeader? name = some c := by
  have hlower : lower c.name.toList = lower name := of_decide_eq_true h
  simp only [ofHeader?, sameLetters, ← hlower]
  cases c <;> decide

theorem Names.isFree {c? : Option Column} {field : List Char} (h : Names c? field) :
    IsFree field := by
  cases h with
  | known hname hfield => exact hfield.isFree (Column.isPlain_of_sameLetters hname)
  | other hfree _ => exact hfree

theorem Names.ofHeader?_eq {c? : Option Column} {field : List Char} (h : Names c? field) :
    Column.ofHeader? (fieldContent field) = c? := by
  cases h with
  | known hname hfield =>
    rw [hfield.fieldContent_eq (Column.isPlain_of_sameLetters hname)]
    exact Column.ofHeader?_eq_some hname
  | other _ hname => exact hname

/-! ## What lines say -/

theorem forall_mem_of_forall₂ {α β : Type} {R : α → β → Prop} {P : β → Prop} {as : List α}
    {bs : List β} (h : List.Forall₂ R as bs) (hP : ∀ a b, R a b → P b) : ∀ b ∈ bs, P b := by
  induction h with
  | nil => simp
  | cons hab _ ih => exact List.forall_mem_cons.2 ⟨hP _ _ hab, ih⟩

theorem exists_getElem?_of_forall₂ {α β : Type} {R : α → β → Prop} {as : List α} {bs : List β}
    (h : List.Forall₂ R as bs) {i : Nat} {a : α} (ha : as[i]? = some a) :
    ∃ b, bs[i]? = some b ∧ R a b := by
  induction h generalizing i with
  | nil => simp at ha
  | cons hab _ ih =>
    cases i with
    | zero =>
      obtain rfl := Option.some.inj ha
      exact ⟨_, rfl, hab⟩
    | succ i => exact ih ha

theorem Layout.Carries.two_le_length (h : layout.Carries records) :
    2 ≤ layout.columns.length := by
  have hsrc := Layout.mem_known.1 (h.required .srcIp rfl)
  have hdst := Layout.mem_known.1 (h.required .dstIp rfl)
  match hcolumns : layout.columns with
  | [] => simp [hcolumns] at hsrc
  | [column] =>
    -- one column cannot hold both addresses
    rw [hcolumns, List.mem_singleton] at hsrc hdst
    exact absurd (hsrc.trans hdst.symm) (by decide)
  | _ :: _ :: rest => simp

theorem Layout.Carries.ne_nil (hlayout : layout.Carries records)
    {R : Option Column → List Char → Prop} (h : List.Forall₂ R layout.columns fields) :
    fields ≠ [] := by
  have hlength := hlayout.two_le_length
  rw [h.length_eq] at hlength
  exact List.ne_nil_of_length_pos (by omega)

theorem columns_eq_of_names {columns : List (Option Column)}
    (h : List.Forall₂ Names columns fields) :
    columns = (fields.map fieldContent).map Column.ofHeader? := by
  induction h with
  | nil => rfl
  | cons hname _ ih => rw [List.map_cons, List.map_cons, hname.ofHeader?_eq, ← ih]

/-- A header names the columns it was written for. -/
theorem Layout.Carries.isHeader (hlayout : layout.Carries records)
    (h : List.Forall₂ Names layout.columns fields) : layout.IsHeader (trim (join ',' fields)) := by
  refine ⟨?_, hlayout.once, hlayout.required, hlayout.paired⟩
  rw [columns_eq_of_names h, ← map_fieldContent_split (hlayout.ne_nil h)
    (forall_mem_of_forall₂ h fun _ _ => Names.isFree), List.map_map]
  rfl

section Row

variable (hlayout : layout.Carries records)
  (hrow : List.Forall₂ (Record.Gives r) layout.columns fields)
  {c : Column} {n limit : Nat} {a : Address} {t : Timestamp}
include hlayout hrow

theorem length_of_gives :
    (split ',' (trim (join ',' fields))).length = layout.columns.length := by
  have hmap := congrArg List.length (map_fieldContent_split (hlayout.ne_nil hrow)
    (forall_mem_of_forall₂ hrow fun _ _ => Record.Gives.isFree))
  rw [List.length_map, List.length_map] at hmap
  rw [hmap, hrow.length_eq]

/-- What a record has at a column stands there in its row. -/
theorem at_of_gives {text : String} (hvalue : r.valueText? c = some text)
    (hc : c ∈ layout.known) :
    layout.At (split ',' (trim (join ',' fields))) c text.toList := by
  obtain ⟨i, hi⟩ := List.mem_iff_getElem?.1 (Layout.mem_known.1 hc)
  obtain ⟨field, hfield, hgives⟩ := exists_getElem?_of_forall₂ hrow hi
  have hcontent : fieldContent field = text.toList := by
    cases hgives with
    | value hvalue' hshows =>
      obtain rfl := Option.some.inj (hvalue.symm.trans hvalue')
      exact hshows.fieldContent_eq (r.isPlain_of_valueText? hvalue)
    | none hvalue' _ =>
      rw [hvalue] at hvalue'
      cases hvalue'
  -- the line was trimmed, so the field may have lost blanks, but not its content
  have hread := congrArg (·[i]?) (map_fieldContent_split (hlayout.ne_nil hrow)
    (forall_mem_of_forall₂ hrow fun _ _ => Record.Gives.isFree))
  simp only [List.getElem?_map, hfield, Option.map_some, Option.map_eq_some_iff] at hread
  obtain ⟨field', hfield', hsame⟩ := hread
  exact ⟨i, field', hi, hfield', (hsame.trans hcontent).symm⟩

theorem numberAt_of_gives (hvalue : r.valueText? c = some (toString n)) (hc : c ∈ layout.known)
    (hn : n ≤ limit) : layout.NumberAt (split ',' (trim (join ',' fields))) c limit n := by
  refine ⟨_, at_of_gives hlayout hrow hvalue hc, ?_⟩
  rw [toList_toString, readNat_toDigits hn]

theorem addressAt_of_gives (hvalue : r.valueText? c = some a.toText) (hc : c ∈ layout.known) :
    layout.AddressAt (split ',' (trim (join ',' fields))) c a :=
  ⟨_, at_of_gives hlayout hrow hvalue hc, Address.parseChars?_toText a⟩

theorem instantAt_of_gives (hvalue : r.valueText? c = some t.toText) (hc : c ∈ layout.known) :
    layout.InstantAt (split ',' (trim (join ',' fields))) c t := by
  refine ⟨_, at_of_gives hlayout hrow hvalue hc, ?_⟩
  rw [trim, strip_of_forall fun c hc => (isPlain_of_mem_toText c hc).1,
    Timestamp.parseTrimmed_toText]

/-- The reverse traffic is read with the bounds that are there. -/
theorem reverseAt_of_gives (hr : r ∈ records) :
    layout.ReverseAt (split ',' (trim (join ',' fields))) r.forward (r.asRead layout).reverse := by
  cases hreverse : r.reverse with
  | none =>
    have habsent : Column.packetsRev ∉ layout.known := fun hc => by
      simpa [hreverse] using (hlayout.reverse r hr).2 hc
    simpa [Record.asRead, hreverse, Layout.ReverseAt] using habsent
  | some back =>
    have hpackets : Column.packetsRev ∈ layout.known :=
      (hlayout.reverse r hr).1 (by rw [hreverse]; rfl)
    have hbytes : Column.bytesRev ∈ layout.known := hlayout.paired.1 hpackets
    simp only [Record.asRead, hreverse, Option.map_some, Layout.ReverseAt]
    refine ⟨numberAt_of_gives hlayout hrow ?_ hpackets back.packets.le_max,
      numberAt_of_gives hlayout hrow ?_ hbytes back.bytes.le_max,
      ⟨fun hc => ?_, fun hc => if_neg hc⟩, fun hc => ?_, fun hc => if_neg hc⟩
    · rw [Record.valueText?, hreverse, Option.map_some]
    · rw [Record.valueText?, hreverse, Option.map_some]
    · rw [if_pos hc]
      exact instantAt_of_gives hlayout hrow (by rw [Record.valueText?, hreverse]; rfl) hc
    · rw [if_pos hc]
      exact instantAt_of_gives hlayout hrow (by rw [Record.valueText?, hreverse]; rfl) hc

/-- **A row is read as the record it was written for.** -/
theorem reads_of_gives (hr : r ∈ records) :
    layout.Reads (trim (join ',' fields)) (r.asRead layout) where
  count := length_of_gives hlayout hrow
  srcIp := addressAt_of_gives hlayout hrow rfl (hlayout.required _ rfl)
  dstIp := addressAt_of_gives hlayout hrow rfl (hlayout.required _ rfl)
  startTime := instantAt_of_gives hlayout hrow rfl (hlayout.required _ rfl)
  endTime := instantAt_of_gives hlayout hrow rfl (hlayout.required _ rfl)
  l3Proto := numberAt_of_gives hlayout hrow rfl (hlayout.required _ rfl)
    (Nat.le_of_lt_succ r.key.l3.toNat_lt)
  l4Proto := numberAt_of_gives hlayout hrow rfl (hlayout.required _ rfl)
    (Nat.le_of_lt_succ r.key.l4.toNat_lt)
  srcPort := numberAt_of_gives hlayout hrow rfl (hlayout.required _ rfl)
    (Nat.le_of_lt_succ r.key.source.port.toNat_lt)
  dstPort := numberAt_of_gives hlayout hrow rfl (hlayout.required _ rfl)
    (Nat.le_of_lt_succ r.key.target.port.toNat_lt)
  packets := numberAt_of_gives hlayout hrow rfl (hlayout.required _ rfl) r.forward.packets.le_max
  bytes := numberAt_of_gives hlayout hrow rfl (hlayout.required _ rfl) r.forward.bytes.le_max
  reverse := reverseAt_of_gives hlayout hrow hr

end Row

/-! ## What texts say -/

theorem not_mem_join {sep c : Char} (hc : c ≠ sep) {pieces : List (List Char)}
    (h : ∀ piece ∈ pieces, c ∉ piece) : c ∉ join sep pieces := by
  induction pieces with
  | nil => simp [join]
  | cons piece pieces ih =>
    rw [List.forall_mem_cons] at h
    cases pieces with
    | nil => exact h.1
    | cons next pieces => simp [join, h.1, hc, ih h.2]

/-- A line of two fields or more is not blank. -/
theorem isSignificant_trim_join (hfields : 2 ≤ fields.length)
    (hfree : ∀ field ∈ fields, IsFree field)
    (hcomment : (trim (join ',' fields)).head? ≠ some '#') :
    FlowTable.isSignificant (trim (join ',' fields)) = true := by
  have hne : fields ≠ [] := by
    rintro rfl
    simp at hfields
  have hblank : trim (join ',' fields) ≠ [] := by
    intro h
    have hmap := congrArg List.length (map_fieldContent_split hne hfree)
    rw [h, List.length_map, List.length_map] at hmap
    have hone : (split ',' ([] : List Char)).length = 1 := rfl
    omega
  simpa [FlowTable.isSignificant, hblank] using hcomment

namespace FlowTable

variable {kept lines : List (List Char)} {s : List Char}

theorem Spread.forall_mem (h : Spread kept lines) (hkept : ∀ line ∈ kept, '\n' ∉ line) :
    ∀ line ∈ lines, '\n' ∉ line := by
  induction h with
  | nil => exact hkept
  | skip hline _ _ ih => exact List.forall_mem_cons.2 ⟨hline, ih hkept⟩
  | keep _ ih =>
    rw [List.forall_mem_cons] at hkept
    exact List.forall_mem_cons.2 ⟨hkept.1, ih hkept.2⟩

/-- The lines that are kept are the significant ones. -/
theorem Spread.significant_eq (h : Spread kept lines)
    (hkept : ∀ line ∈ kept, isSignificant (trim line) = true) :
    significant (lines.map trim) = kept.map trim := by
  induction h with
  | nil => rfl
  | skip _ hskipped _ ih =>
    rw [List.map_cons, significant, List.filter_cons_of_neg (by simp [hskipped])]
    exact ih hkept
  | keep _ ih =>
    rw [List.forall_mem_cons] at hkept
    rw [List.map_cons, significant, List.filter_cons_of_pos hkept.1, List.map_cons,
      ← ih hkept.2]
    rfl

/-- A carriage return before the end of a line is a blank like any other. -/
theorem Lines.map_trim_split (h : Lines lines s) (hlines : ∀ line ∈ lines, '\n' ∉ line) :
    (split '\n' s).map trim = lines.map trim := by
  induction h with
  | last => rw [split_of_not_mem (hlines _ (List.mem_singleton_self _))]
  | lf _ ih =>
    rw [List.forall_mem_cons] at hlines
    rw [split_append_cons hlines.1, List.map_cons, List.map_cons, ih hlines.2]
  | @crlf line lines s _ ih =>
    rw [List.forall_mem_cons] at hlines
    have hline : '\n' ∉ line ++ ['\r'] := by simp [hlines.1]
    have htrim : trim (line ++ ['\r']) = trim line :=
      trim_append (l := []) (by simp) (List.forall_mem_singleton.2 (by decide))
    have hsplit := split_append_cons hline s
    rw [List.append_assoc, List.singleton_append] at hsplit
    rw [hsplit, List.map_cons, List.map_cons, htrim, ih hlines.2]

/-- A text that shows some records is a table of them, as far as they are read. -/
theorem Renders.isTable {content : String} (hcontent : Renders layout records content.toList)
    (hlayout : layout.Carries records) :
    IsTable (significant (linesOf content)) (records.map (Record.asRead layout)) := by
  obtain ⟨header, rows, lines, hheader, hrows, hcomment, hspread, htext⟩ := hcontent
  have hfree : ∀ fields ∈ header :: rows, ∀ field ∈ fields, IsFree field :=
    List.forall_mem_cons.2 ⟨forall_mem_of_forall₂ hheader fun _ _ => Names.isFree,
      forall_mem_of_forall₂ hrows fun _ _ hrow =>
        forall_mem_of_forall₂ hrow fun _ _ => Record.Gives.isFree⟩
  have hlength : ∀ fields ∈ header :: rows, 2 ≤ fields.length :=
    List.forall_mem_cons.2 ⟨hheader.length_eq ▸ hlayout.two_le_length,
      forall_mem_of_forall₂ hrows fun _ _ hrow => hrow.length_eq ▸ hlayout.two_le_length⟩
  -- no line is broken into two, and none of the kept ones is skipped
  have hlines : ∀ line ∈ lines, '\n' ∉ line := by
    refine hspread.forall_mem (List.forall_mem_map.2 fun fields hfields => ?_)
    exact not_mem_join (by decide) fun field hfield => (hfree fields hfields field hfield).2
  have hkept : significant (linesOf content) =
      ((header :: rows).map (join ',')).map trim := by
    rw [linesOf, htext.map_trim_split hlines]
    refine hspread.significant_eq (List.forall_mem_map.2 fun fields hfields => ?_)
    exact isSignificant_trim_join (hlength fields hfields) (hfree fields hfields)
      (hcomment fields hfields)
  refine ⟨trim (join ',' header), (rows.map (join ',')).map trim, layout, hkept,
    hlayout.isHeader hheader, ?_⟩
  rw [List.map_map, List.forall₂_map_left_iff, List.forall₂_map_right_iff]
  have hmem := (List.forall₂_and_left (p := (· ∈ records)) records rows).2 ⟨fun _ => id, hrows⟩
  exact hmem.flip.imp fun row r h => reads_of_gives hlayout h.2 h.1

/-! ## A text for every table -/

/-- A dash, where nothing in particular has to stand. -/
def dash : List Char := ['-']

theorem isPlain_of_mem_dash : ∀ ch ∈ dash, IsPlain ch :=
  List.forall_mem_singleton.2 (by decide)

/-- The plainest header field for a column. -/
def plainName : Option Column → List Char
  | some c => c.name.toList
  | none => dash

/-- The plainest field of a record at a column. -/
def plainValue (r : Record) : Option Column → List Char
  | some c => (r.valueText? c).elim dash String.toList
  | none => dash

theorem names_plainName (c? : Option Column) : Names c? (plainName c?) := by
  cases c? with
  | none => exact .other (isFree_of_isPlain isPlain_of_mem_dash) (by decide)
  | some c => exact .known (decide_eq_true rfl) (.self _)

theorem gives_plainValue (r : Record) (c? : Option Column) : r.Gives c? (plainValue r c?) := by
  have hfree : IsFree dash := isFree_of_isPlain isPlain_of_mem_dash
  cases c? with
  | none => exact .other hfree
  | some c =>
    rw [plainValue]
    cases hvalue : r.valueText? c with
    | none => exact .none hvalue hfree
    | some text => exact .value hvalue (.self _)

theorem isPlain_of_mem_plainName {c? : Option Column} : ∀ ch ∈ plainName c?, IsPlain ch := by
  cases c? with
  | none => exact isPlain_of_mem_dash
  | some c => exact Column.isPlain_of_sameLetters (decide_eq_true rfl)

theorem isPlain_of_mem_plainValue {c? : Option Column} : ∀ ch ∈ plainValue r c?, IsPlain ch := by
  cases c? with
  | none => exact isPlain_of_mem_dash
  | some c =>
    rw [plainValue]
    cases hvalue : r.valueText? c with
    | none => exact isPlain_of_mem_dash
    | some text => exact r.isPlain_of_valueText? hvalue

theorem Spread.refl (lines : List (List Char)) : Spread lines lines := by
  induction lines with
  | nil => exact .nil
  | cons line lines ih => exact .keep ih

theorem lines_join (hne : lines ≠ []) : Lines lines (join '\n' lines) := by
  induction lines with
  | nil => exact absurd rfl hne
  | cons line lines ih =>
    cases lines with
    | nil => exact .last
    | cons next lines => exact .lf (ih (List.cons_ne_nil _ _))

/-- Plain fields never make a line look like a comment. -/
theorem head?_trim_join_ne (h : ∀ field ∈ fields, ∀ c ∈ field, IsPlain c) :
    (trim (join ',' fields)).head? ≠ some '#' := by
  intro hhead
  have hmem := mem_of_mem_trim (List.mem_of_head? hhead)
  exact not_mem_join (by decide)
    (fun field hfield hhash => absurd (h field hfield _ hhash) (by decide)) hmem

/-- Every record has a row, and every layout a header. -/
theorem exists_renders (layout : Layout) (records : List Record) :
    ∃ content : String, Renders layout records content.toList := by
  have hmap : ∀ {f : Option Column → List Char} {R : Option Column → List Char → Prop},
      (∀ c?, R c? (f c?)) → List.Forall₂ R layout.columns (layout.columns.map f) := by
    intro f R h
    rw [List.forall₂_map_right_iff, List.forall₂_same]
    exact fun c? _ => h c?
  let lines := (layout.columns.map plainName :: records.map fun r =>
    layout.columns.map (plainValue r)).map (join ',')
  refine ⟨String.ofList (join '\n' lines), layout.columns.map plainName,
    records.map fun r => layout.columns.map (plainValue r), lines, hmap names_plainName, ?_, ?_,
    .refl _, ?_⟩
  · rw [List.forall₂_map_right_iff, List.forall₂_same]
    exact fun r _ => hmap (gives_plainValue r)
  · refine List.forall_mem_cons.2 ⟨head?_trim_join_ne ?_, List.forall_mem_map.2 fun r _ =>
      head?_trim_join_ne ?_⟩
    · exact List.forall_mem_map.2 fun _ _ => isPlain_of_mem_plainName
    · exact List.forall_mem_map.2 fun _ _ => isPlain_of_mem_plainValue
  · rw [String.toList_ofList]
    exact lines_join (List.cons_ne_nil _ _)

/-! ## There and back -/

/-- **What is written is read.** Records can be shown in every layout that carries them, and every
text that shows them is read as these records, one for each and in their order. Only where the
layout leaves out a bound of the reverse traffic, it is that of the forward traffic; if it leaves
out none, or the records have no reverse traffic, they are read as they are. -/
theorem parse_renders (hlayout : layout.Carries records) :
    (∃ content : String, Renders layout records content.toList) ∧
      ∀ content : String, Renders layout records content.toList →
        parse content = .ok (records.map (Record.asRead layout)) ∧
          ((Column.packetsRev ∈ layout.known →
              Column.startTimeRev ∈ layout.known ∧ Column.endTimeRev ∈ layout.known) →
            parse content = .ok records) := by
  refine ⟨exists_renders layout records, fun content hcontent => ?_⟩
  have hread : parse content = .ok (records.map (Record.asRead layout)) :=
    parse_eq_ok.2 (hcontent.isTable hlayout)
  refine ⟨hread, fun hbounds => ?_⟩
  rw [hread]
  congr 1
  refine (List.map_congr_left fun r hr => ?_).trans (List.map_id records)
  exact Record.asRead_eq_self fun h => hbounds ((hlayout.reverse r hr).1 h)

end FlowTable

namespace Sample

/-- A layout with columns in no usual order and a further one, without the bounds of reverse
traffic. -/
def shuffled : Layout :=
  ⟨[some .bytes, none, some .packets, some .dstPort, some .srcPort, some .l4Proto, some .l3Proto,
    some .endTime, some .startTime, some .dstIp, some .srcIp, some .bytesRev, some .packetsRev]⟩

/-- A record of the longest time and the most packets, with something in return. -/
def allTimes : Record where
  key := ⟨⟨.ofNat .v6 0x20010db8000000000000000000000001, 443⟩, ⟨.ofNat .v4 0x0a000001, 0⟩, 6, 255⟩
  forward := ⟨.minimum, .maximum, .clamp 18446744073709551615, .zero⟩
  reverse := some ⟨.zero, .zero, .clamp 1, .clamp 2⟩

/-- Field names as somebody might type them. -/
def typedHeader : List (List Char) :=
  ["Bytes".toList, "note".toList, [' '] ++ ('"' :: ("packets".toList ++ ['"'])) ++ ['\t'],
    "dst_port".toList, "src_port".toList, "l4_proto".toList, "l3_proto".toList, "END_TIME".toList,
    "start_time".toList, "dst_ip".toList, "src_ip".toList, "bytes_rev".toList,
    [' '] ++ "Packets_Rev".toList ++ []]

/-- The fields of the record. -/
def typedRow : List (List Char) :=
  ["0".toList, "see #4".toList,
    [] ++ ('"' :: ("18446744073709551615".toList ++ ['"'])) ++ [' '], "0".toList, "443".toList,
    "255".toList, "6".toList, "9223372036854775807".toList, "-9223372036854775808".toList,
    "10.0.0.1".toList, "2001:db8::1".toList, "2".toList, "1".toList]

/-- The text with these fields, a comment, blank lines and both line ends. -/
def typed : String :=
  " # typed by hand\r\n\n" ++
    "Bytes,note, \"packets\"\t,dst_port,src_port,l4_proto,l3_proto,END_TIME,start_time," ++
    "dst_ip,src_ip,bytes_rev, Packets_Rev\r\n" ++
    "0,see #4,\"18446744073709551615\" ,0,443,255,6,9223372036854775807," ++
    "-9223372036854775808,10.0.0.1,2001:db8::1,2,1\n"

theorem names_typedHeader : List.Forall₂ Names shuffled.columns typedHeader := by
  have hname : ∀ {c : Column} {name : List Char}, sameLetters c.name.toList name = true →
      Names (some c) name := fun h => .known h (.self _)
  simp only [shuffled, typedHeader, List.forall₂_cons]
  refine ⟨hname ?_, .other ?_ ?_, .known ?_ (.quoted ?_ ?_), hname ?_, hname ?_, hname ?_,
    hname ?_, hname ?_, hname ?_, hname ?_, hname ?_, hname ?_, .known ?_ (.bare ?_ ?_), .nil⟩
  all_goals decide +kernel

theorem gives_typedRow : List.Forall₂ (Record.Gives allTimes) shuffled.columns typedRow := by
  have hvalue : ∀ {c : Column} {text : String}, allTimes.valueText? c = some text →
      allTimes.Gives (some c) text.toList := fun h => .value h (.self _)
  simp only [shuffled, typedRow, List.forall₂_cons]
  refine ⟨hvalue ?_, .other ?_, .value ?_ (.quoted ?_ ?_), hvalue ?_, hvalue ?_, hvalue ?_,
    hvalue ?_, hvalue ?_, hvalue ?_, hvalue ?_, hvalue ?_, hvalue ?_, hvalue ?_, .nil⟩
  all_goals decide +kernel

theorem renders_typed : FlowTable.Renders shuffled [allTimes] typed.toList := by
  refine ⟨typedHeader, [typedRow], [" # typed by hand".toList, [], join ',' typedHeader,
    join ',' typedRow, []], names_typedHeader, .cons gives_typedRow .nil, by decide +kernel, ?_, ?_⟩
  · refine .skip ?_ ?_ (.skip ?_ ?_ (.keep (.keep (.skip ?_ ?_ .nil))))
    all_goals decide +kernel
  · have htext : typed.toList = " # typed by hand".toList ++ '\r' :: '\n' :: ([] ++ '\n' ::
        (join ',' typedHeader ++ '\r' :: '\n' :: (join ',' typedRow ++ '\n' :: []))) := by
      rw [← String.ofList_inj, String.ofList_toList]
      decide +kernel
    rw [htext]
    exact .crlf (.lf (.crlf (.lf .last)))

end Sample

/-- A text that somebody typed is read as the record it shows, the bounds of its reverse traffic
being those of the forward traffic. -/
theorem parse_renders_sample :
    FlowTable.Renders Sample.shuffled [Sample.allTimes] Sample.typed.toList ∧
      FlowTable.parse Sample.typed = .ok [⟨Sample.allTimes.key, Sample.allTimes.forward,
        some ⟨.minimum, .maximum, .clamp 1, .clamp 2⟩⟩] := by
  have hcarries : Sample.shuffled.Carries [Sample.allTimes] := by
    refine ⟨by decide, ?_, by decide, by decide +kernel⟩
    intro c hc
    cases c <;> first | decide | cases hc
  refine ⟨Sample.renders_typed, ?_⟩
  rw [((FlowTable.parse_renders hcarries).2 _ Sample.renders_typed).1]
  rfl

end FlowParity
