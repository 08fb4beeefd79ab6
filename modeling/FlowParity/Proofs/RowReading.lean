import FlowParity.Flow.Layout
import FlowParity.Proofs.Results
import Mathlib.Data.List.ReduceOption
/-!
# Reading headers and rows

What a header says and what a row says under it, apart from how either is read. A header
names every known column once at most, all required ones, and both reverse counters or none
(`IsHeader`). A row has a field for each column, and what stands at a column is read as what
the column holds (`Reads`).

The header makes reading a row safe. A row has as many fields as the header has columns, so
whatever known column is asked for, its field is there (`field?_eq_some`).
-/

namespace FlowParity

open Text

/-! ## Integers of a range -/

/-- A number that is read stays within its limit. -/
theorem Text.readDigits_le {limit acc n : Nat} {s : List Char} (hacc : acc ≤ limit)
    (h : readDigits limit acc s = .ok n) : n ≤ limit := by
  induction s generalizing acc with
  | nil =>
    cases h
    exact hacc
  | cons c rest ih =>
    rw [readDigits] at h
    split at h
    · cases h
    · simp only at h
      split at h
      · rename_i hnext
        exact ih hnext h
      · cases h

theorem Text.readNat_le {limit n : Nat} {s : List Char} (h : readNat limit s = .ok n) :
    n ≤ limit := by
  unfold readNat at h
  split at h
  · cases h
  · cases h
  · exact readDigits_le (Nat.zero_le _) h
  · exact readDigits_le (Nat.zero_le _) h

/-- Every column is listed. -/
theorem Column.mem_all (c : Column) : c ∈ all := by
  cases c <;> decide

namespace Layout

variable {layout : Layout} {header row : List Char} {fields : List (List Char)} {column : Column}

/-! ## Headers -/

/-- The columns with a meaning, in their order. -/
def known (layout : Layout) : List Column := layout.columns.reduceOption

theorem mem_known : column ∈ layout.known ↔ some column ∈ layout.columns :=
  List.reduceOption_mem_iff

theorem has_iff : layout.has column = true ↔ column ∈ layout.known := by
  rw [has, decide_eq_true_eq, mem_known]

variable (header layout) in
/-- **What a header says**: which column each of its fields names, where no known column is named
twice, no required one is missing, and the reverse counters come together. -/
structure IsHeader : Prop where
  /-- Each field names a column, if it names a known one. -/
  columns : layout.columns = (split ',' header).map fun f => Column.ofHeader? (fieldContent f)
  /-- No known column is named twice. -/
  once : layout.known.Nodup
  /-- No required column is missing. -/
  required : ∀ c : Column, c.isRequired = true → c ∈ layout.known
  /-- The reverse counters come together. -/
  paired : Column.packetsRev ∈ layout.known ↔ Column.bytesRev ∈ layout.known

/-- Nothing is repeated exactly if the known columns are new and pairwise different. -/
theorem firstRepeated?_eq_none {seen : List Column} {columns : List (Option Column)} :
    firstRepeated? seen columns = none ↔
      columns.reduceOption.Nodup ∧ ∀ c ∈ columns.reduceOption, c ∉ seen := by
  induction columns generalizing seen with
  | nil => simp [firstRepeated?]
  | cons c? rest ih =>
    cases c? with
    | none => rw [firstRepeated?, List.reduceOption_cons_of_none, ih]
    | some c =>
      rw [firstRepeated?, List.reduceOption_cons_of_some, List.nodup_cons]
      by_cases hc : c ∈ seen
      · simp [hc]
      · rw [if_neg hc, ih]
        simp only [List.mem_cons, not_or, forall_eq_or_imp, hc, not_false_eq_true, true_and]
        constructor
        · rintro ⟨hnodup, hnew⟩
          exact ⟨⟨fun hmem => (hnew c hmem).1 rfl, hnodup⟩, fun d hd => (hnew d hd).2⟩
        · rintro ⟨⟨hmem, hnodup⟩, hnew⟩
          refine ⟨hnodup, fun d hd => ⟨?_, hnew d hd⟩⟩
          rintro rfl
          exact hmem hd

/-- **A header is accepted for what it says.** -/
theorem ofHeader_eq_ok : ofHeader header = .ok layout ↔ layout.IsHeader header := by
  have hmissing : ∀ l : Layout, (Column.all.filter fun c => c.isRequired && !l.has c).isEmpty =
      true ↔ ∀ c : Column, c.isRequired = true → c ∈ l.known := by
    intro l
    simp only [List.isEmpty_iff, List.filter_eq_nil_iff, Column.mem_all, forall_const,
      Bool.and_eq_true, Bool.not_eq_true', ← has_iff, not_and, Bool.not_eq_false]
  have hpaired : ∀ l : Layout, (l.has .packetsRev != l.has .bytesRev) = false ↔
      (Column.packetsRev ∈ l.known ↔ Column.bytesRev ∈ l.known) := by
    intro l
    rw [bne_eq_false_iff_eq, Bool.eq_iff_iff, has_iff, has_iff]
  simp only [ofHeader]
  constructor
  · -- one check after the other has to be passed
    intro h
    split at h
    · cases h
    · rename_i hrepeated
      split at h
      · cases h
      · rename_i hrequired
        split at h
        · cases h
        · rename_i hunpaired
          obtain rfl := Except.ok.inj h
          refine ⟨rfl, (firstRepeated?_eq_none.1 hrepeated).1, (hmissing _).1 ?_, (hpaired _).1 ?_⟩
          · simpa using hrequired
          · simpa using hunpaired
  · rintro ⟨hcolumns, honce, hrequired, hpairs⟩
    obtain ⟨columns⟩ := layout
    obtain rfl := hcolumns
    rw [firstRepeated?_eq_none.2 ⟨honce, by simp⟩]
    simp only [(hmissing _).2 hrequired, (hpaired _).2 hpairs]
    rfl

/-! ## What stands at a column -/

variable (layout fields column) in
/-- What stands at a column of a row: the content of the field at its position. -/
def At (content : List Char) : Prop :=
  ∃ (i : Nat) (field : List Char), layout.columns[i]? = some (some column) ∧
    fields[i]? = some field ∧ content = fieldContent field

/-- Looking for a column finds what stands at it, since no column comes twice. -/
theorem field?_eq_some (hlayout : layout.known.Nodup) {content : List Char} :
    layout.field? fields column = some content ↔ layout.At fields column content := by
  obtain ⟨columns⟩ := layout
  simp only [known, field?, At] at hlayout ⊢
  -- columns and fields are gone through side by side
  induction columns generalizing fields with
  | nil => simp
  | cons c? rest ih =>
    cases fields with
    | nil => simp
    | cons field fields =>
      have hrest : rest.reduceOption.Nodup := by
        cases c? with
        | none => rwa [List.reduceOption_cons_of_none] at hlayout
        | some c =>
          rw [List.reduceOption_cons_of_some, List.nodup_cons] at hlayout
          exact hlayout.2
      rw [List.zip_cons_cons, List.find?_cons]
      by_cases hc : c? = some column
      · subst hc
        rw [List.reduceOption_cons_of_some, List.nodup_cons] at hlayout
        simp only [decide_true, Option.map_some, Option.some.injEq]
        constructor
        · rintro rfl
          exact ⟨0, field, rfl, rfl, rfl⟩
        · rintro ⟨i, f, hi, hf, rfl⟩
          cases i with
          | zero =>
            obtain rfl : field = f := by simpa using hf
            rfl
          | succ i =>
            -- the column would come again
            have hmem : some column ∈ rest := List.mem_of_getElem? (by simpa using hi)
            exact absurd (List.reduceOption_mem_iff.2 hmem) hlayout.1
      · -- another column comes first, and the position is one less among the rest
        simp only [hc, decide_false]
        rw [ih hrest]
        constructor
        · rintro ⟨i, f, hi, hf, rfl⟩
          exact ⟨i + 1, f, by simpa using hi, by simpa using hf, rfl⟩
        · rintro ⟨i, f, hi, hf, rfl⟩
          cases i with
          | zero => exact absurd (by simpa using hi) hc
          | succ i => exact ⟨i, f, by simpa using hi, by simpa using hf, rfl⟩

/-- **A row never runs out of fields**: if it has as many as the header, what stands at a known
column lies within it. -/
theorem exists_field?_eq_some (hlayout : layout.known.Nodup)
    (hcount : fields.length = layout.columns.length) (hcolumn : column ∈ layout.known) :
    ∃ i, ∃ h : i < fields.length, layout.columns[i]? = some (some column) ∧
      layout.field? fields column = some (fieldContent fields[i]) := by
  obtain ⟨i, hi⟩ := List.mem_iff_getElem?.1 (mem_known.1 hcolumn)
  have hlt : i < fields.length := by
    rw [hcount]
    exact (List.getElem?_eq_some_iff.1 hi).1
  exact ⟨i, hlt, hi, (field?_eq_some hlayout).2
    ⟨i, fields[i], hi, List.getElem?_eq_getElem hlt, rfl⟩⟩

theorem field?_eq_none (hlayout : layout.known.Nodup)
    (hcount : fields.length = layout.columns.length) :
    layout.field? fields column = none ↔ column ∉ layout.known := by
  constructor
  · intro h hcolumn
    obtain ⟨i, hi, -, hfield⟩ := exists_field?_eq_some hlayout hcount hcolumn
    rw [h] at hfield
    cases hfield
  · intro hcolumn
    by_contra h
    obtain ⟨content, hcontent⟩ := Option.ne_none_iff_exists'.1 h
    obtain ⟨i, field, hi, -, -⟩ := (field?_eq_some hlayout).1 hcontent
    exact hcolumn (mem_known.2 (List.mem_of_getElem? hi))

/-! ## Fields -/

variable (layout fields column) in
/-- A column holds a number within a limit. -/
def NumberAt (limit n : Nat) : Prop :=
  ∃ content, layout.At fields column content ∧ readNat limit content = .ok n

variable (layout fields column) in
/-- A column holds an address. -/
def AddressAt (a : Address) : Prop :=
  ∃ content, layout.At fields column content ∧ Address.parseChars? content = some a

variable (layout fields column) in
/-- A column holds an instant. -/
def InstantAt (t : Timestamp) : Prop :=
  ∃ content, layout.At fields column content ∧ Timestamp.parseTrimmed (trim content) = .ok t

variable (layout fields column) in
/-- A column holds an instant, or the table does without it and the instant is another one. -/
def BoundAt (otherwise t : Timestamp) : Prop :=
  (column ∈ layout.known → layout.InstantAt fields column t) ∧
    (column ∉ layout.known → t = otherwise)

theorem integer_eq_ok (hlayout : layout.known.Nodup) {limit n : Nat} :
    layout.integer fields column limit = .ok n ↔ layout.NumberAt fields column limit n := by
  simp only [NumberAt, ← field?_eq_some hlayout, integer]
  cases layout.field? fields column with
  | none => simp
  | some content => cases hread : readNat limit content <;> simp [hread]

/-- A number of a type that has just the numbers within the limit. -/
theorem map_integer_eq_ok (hlayout : layout.known.Nodup) {α : Type} {limit : Nat} {f : Nat → α}
    {g : α → Nat} (hfg : ∀ a, f (g a) = a) (hgf : ∀ n ≤ limit, g (f n) = n) {a : α} :
    (layout.integer fields column limit).map f = .ok a ↔
      layout.NumberAt fields column limit (g a) := by
  rw [← integer_eq_ok hlayout]
  constructor
  · intro h
    cases hn : layout.integer fields column limit with
    | error fault =>
      rw [hn] at h
      cases h
    | ok n =>
      rw [hn] at h
      obtain rfl := Except.ok.inj h
      obtain ⟨_, -, hread⟩ := (integer_eq_ok hlayout).1 hn
      rw [hgf n (readNat_le hread)]
  · intro h
    rw [h, Except.map, hfg]

theorem counter_eq_ok (hlayout : layout.known.Nodup) {k : Counter} :
    layout.counter fields column = .ok k ↔
      layout.NumberAt fields column Counter.maximum k.toNat := by
  refine map_integer_eq_ok hlayout (fun a => ?_) (fun n hn => ?_)
  · ext
    exact Nat.min_eq_left a.le_max
  · exact Nat.min_eq_left hn

theorem port_eq_ok (hlayout : layout.known.Nodup) {p : UInt16} :
    layout.port fields column = .ok p ↔ layout.NumberAt fields column 65535 p.toNat :=
  map_integer_eq_ok hlayout (fun a => by simp) (fun n hn => by simp; omega)

theorem protocol_eq_ok (hlayout : layout.known.Nodup) {p : UInt8} :
    layout.protocol fields column = .ok p ↔ layout.NumberAt fields column 255 p.toNat :=
  map_integer_eq_ok hlayout (fun a => by simp) (fun n hn => by simp; omega)

theorem address_eq_ok (hlayout : layout.known.Nodup) {a : Address} :
    layout.address fields column = .ok a ↔ layout.AddressAt fields column a := by
  simp only [AddressAt, ← field?_eq_some hlayout, address]
  cases layout.field? fields column with
  | none => simp
  | some content => cases hread : Address.parseChars? content <;> simp [hread]

theorem timestamp_eq_ok (hlayout : layout.known.Nodup) {t : Timestamp} :
    layout.timestamp fields column = .ok t ↔ layout.InstantAt fields column t := by
  simp only [InstantAt, ← field?_eq_some hlayout, timestamp, timestamp?]
  cases layout.field? fields column with
  | none => simp [bind, Except.bind]
  | some content =>
    cases hread : Timestamp.parseTrimmed (trim content) <;> simp [hread, bind, Except.bind]

/-- An instant of reverse traffic is the one that is written, or that of the forward traffic. -/
theorem exists_timestamp?_eq_ok (hlayout : layout.known.Nodup)
    (hcount : fields.length = layout.columns.length) {otherwise t : Timestamp} :
    (∃ t?, layout.timestamp? fields column = .ok t? ∧ t?.getD otherwise = t) ↔
      layout.BoundAt fields column otherwise t := by
  simp only [BoundAt, InstantAt, ← field?_eq_some hlayout, timestamp?]
  by_cases hcolumn : column ∈ layout.known
  · obtain ⟨i, hi, -, hfield⟩ := exists_field?_eq_some hlayout hcount hcolumn
    rw [hfield]
    cases hread : Timestamp.parseTrimmed (trim (fieldContent fields[i])) <;>
      simp [hread, hcolumn]
  · rw [(field?_eq_none hlayout hcount).2 hcolumn]
    simp [hcolumn, eq_comm]

/-! ## Rows -/

variable (layout fields) in
/-- What a row says of the reverse traffic: its counters and bounds, if the table counts it at
all. A bound without a column is that of the forward traffic. -/
def ReverseAt (forward : Traffic) : Option Traffic → Prop
  | none => Column.packetsRev ∉ layout.known
  | some back =>
    layout.NumberAt fields .packetsRev Counter.maximum back.packets.toNat ∧
      layout.NumberAt fields .bytesRev Counter.maximum back.bytes.toNat ∧
      layout.BoundAt fields .startTimeRev forward.start back.start ∧
      layout.BoundAt fields .endTimeRev forward.finish back.finish

variable (layout row) in
/-- **What a row says**: it has a field for each column of the header, and what stands at the known
columns makes up the record. -/
structure Reads (r : Record) : Prop where
  /-- There is a field for each column. -/
  count : (split ',' row).length = layout.columns.length
  /-- The source address. -/
  srcIp : layout.AddressAt (split ',' row) .srcIp r.key.source.address
  /-- The target address. -/
  dstIp : layout.AddressAt (split ',' row) .dstIp r.key.target.address
  /-- The first instant of the forward traffic. -/
  startTime : layout.InstantAt (split ',' row) .startTime r.forward.start
  /-- The last instant of the forward traffic. -/
  endTime : layout.InstantAt (split ',' row) .endTime r.forward.finish
  /-- The network protocol. -/
  l3Proto : layout.NumberAt (split ',' row) .l3Proto 255 r.key.l3.toNat
  /-- The transport protocol. -/
  l4Proto : layout.NumberAt (split ',' row) .l4Proto 255 r.key.l4.toNat
  /-- The source port. -/
  srcPort : layout.NumberAt (split ',' row) .srcPort 65535 r.key.source.port.toNat
  /-- The target port. -/
  dstPort : layout.NumberAt (split ',' row) .dstPort 65535 r.key.target.port.toNat
  /-- The packets of the forward traffic. -/
  packets : layout.NumberAt (split ',' row) .packets Counter.maximum r.forward.packets.toNat
  /-- The bytes of the forward traffic. -/
  bytes : layout.NumberAt (split ',' row) .bytes Counter.maximum r.forward.bytes.toNat
  /-- The reverse traffic. -/
  reverse : layout.ReverseAt (split ',' row) r.forward r.reverse

theorem reverse_eq_ok (hlayout : layout.known.Nodup)
    (hcount : fields.length = layout.columns.length) (forward : Traffic) {back? : Option Traffic} :
    layout.reverse fields forward.start forward.finish = .ok back? ↔
      layout.ReverseAt fields forward back? := by
  rw [reverse]
  by_cases hhas : layout.has .packetsRev = true
  · rw [if_pos hhas]
    cases back? with
    | none =>
      simp only [ReverseAt, ← has_iff, hhas, not_true_eq_false, iff_false, bind_eq_ok, pure,
        Except.pure, not_exists, not_and]
      intro _ _ _ _ _ _ _ _ h
      cases h
    | some back =>
      simp only [ReverseAt, ← counter_eq_ok hlayout, ← exists_timestamp?_eq_ok hlayout hcount,
        bind_eq_ok, pure, Except.pure, Except.ok.injEq, Option.some.injEq]
      constructor
      · rintro ⟨start?, hstart, finish?, hfinish, packets, hpackets, bytes, hbytes, rfl⟩
        exact ⟨hpackets, hbytes, ⟨start?, hstart, rfl⟩, finish?, hfinish, rfl⟩
      · rintro ⟨hpackets, hbytes, ⟨start?, hstart, hs⟩, finish?, hfinish, hf⟩
        exact ⟨start?, hstart, finish?, hfinish, _, hpackets, _, hbytes, by rw [hs, hf]⟩
  · rw [if_neg hhas]
    have habsent : Column.packetsRev ∉ layout.known := mt has_iff.2 hhas
    cases back? with
    | none => simp [ReverseAt, habsent, pure, Except.pure]
    | some back =>
      simp only [ReverseAt, pure, Except.pure, Except.ok.injEq, reduceCtorEq, false_iff]
      rintro ⟨⟨_, ⟨i, _, hi, -, -⟩, -⟩, -⟩
      exact habsent (mem_known.2 (List.mem_of_getElem? hi))

/-- A row of another width is refused before any of its fields is read. -/
theorem record_of_length_ne (hcount : (split ',' row).length ≠ layout.columns.length) :
    layout.record row =
      .error (.fieldCount layout.columns.length (split ',' row).length) := by
  simp [record, hcount, bind, Except.bind, throw, throwThe, MonadExceptOf.throw]

/-- **A row is accepted for what it says.** -/
theorem record_eq_ok (hlayout : layout.known.Nodup) {r : Record} :
    layout.record row = .ok r ↔ layout.Reads row r := by
  by_cases hcount : (split ',' row).length = layout.columns.length
  · simp only [record, hcount, ne_eq, not_true_eq_false, if_false, bind_eq_ok, pure, Except.pure,
      timestamp_eq_ok hlayout, address_eq_ok hlayout, port_eq_ok hlayout,
      protocol_eq_ok hlayout, counter_eq_ok hlayout]
    constructor
    · rintro ⟨start, hstart, finish, hfinish, back?, hback, srcIp, hsrcIp, dstIp, hdstIp,
        srcPort, hsrcPort, dstPort, hdstPort, l3, hl3, l4, hl4, packets, hpackets, bytes, hbytes,
        heq⟩
      obtain rfl := Except.ok.inj heq
      have hreverse := (reverse_eq_ok hlayout hcount ⟨start, finish, packets, bytes⟩).1 hback
      exact ⟨hcount, hsrcIp, hdstIp, hstart, hfinish, hl3, hl4, hsrcPort, hdstPort, hpackets,
        hbytes, hreverse⟩
    · intro h
      exact ⟨_, h.startTime, _, h.endTime, _, (reverse_eq_ok hlayout hcount r.forward).2 h.reverse,
        _, h.srcIp, _, h.dstIp, _, h.srcPort, _, h.dstPort, _, h.l3Proto, _, h.l4Proto,
        _, h.packets, _, h.bytes, rfl⟩
  · constructor
    · intro h
      rw [record_of_length_ne hcount] at h
      cases h
    · intro h
      exact absurd h.count hcount

end Layout

end FlowParity
