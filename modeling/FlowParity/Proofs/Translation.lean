import FlowParity.Proofs.Chaining
import FlowParity.Proofs.ExactPass
/-!
# Translation in time

Moving all instants of a dataset by one offset moves its flows by that offset and changes
nothing else (`reconcile_shift`). Durations, gaps and the order of the spans are the same before
and after, as long as no instant is stopped at an end of 64 bits (`Movable`); so the same records
are cut off from each other, and the earliest start and the latest end move along with the records
they are taken from. A window of time that is moved as well has the same traffic inside
(`Segment.matchesRecord_shift`), and what is between two networks does not depend on times at all.
-/

namespace FlowParity

/-! ## Instants -/

namespace Millis

variable {a b offset : Millis}

/-- **An instant can be moved by an offset** without leaving 64 bits. -/
def Movable (a offset : Millis) : Prop :=
  -9223372036854775808 ≤ a.ms + offset.ms ∧ a.ms + offset.ms ≤ 9223372036854775807

instance (a offset : Millis) : Decidable (a.Movable offset) := inferInstanceAs (Decidable (_ ∧ _))

theorem ms_shift (h : a.Movable offset) : (a.shift offset).ms = a.ms + offset.ms := by
  obtain ⟨hl, hu⟩ := h
  rw [shift, ms_ofInt]
  omega

theorem shift_le_shift_iff (ha : a.Movable offset) (hb : b.Movable offset) :
    a.shift offset ≤ b.shift offset ↔ a ≤ b := by
  rw [le_def, le_def, ms_shift ha, ms_shift hb]
  omega

theorem shift_lt_shift_iff (ha : a.Movable offset) (hb : b.Movable offset) :
    a.shift offset < b.shift offset ↔ a < b := by
  rw [lt_def, lt_def, ms_shift ha, ms_shift hb]
  omega

theorem shift_inj (ha : a.Movable offset) (hb : b.Movable offset) :
    a.shift offset = b.shift offset ↔ a = b := by
  rw [Millis.ext_iff, Millis.ext_iff, ms_shift ha, ms_shift hb]
  omega

/-- The time from one instant to another is the same after both have been moved. -/
theorem since_shift (ha : a.Movable offset) (hb : b.Movable offset) :
    (a.shift offset).since (b.shift offset) = a.since b := by
  rw [since, since, ms_shift ha, ms_shift hb, Int.add_sub_add_right]

/-- Of two instants the earlier one stays the earlier one, even where the range ends. -/
theorem min_shift (a b offset : Millis) :
    (a.shift offset).min (b.shift offset) = (a.min b).shift offset := by
  ext
  simp only [shift, ms_min, ms_ofInt]
  omega

/-- And the later one the later one. -/
theorem max_shift (a b offset : Millis) :
    (a.shift offset).max (b.shift offset) = (a.max b).shift offset := by
  ext
  simp only [shift, ms_max, ms_ofInt]
  omega

theorem Movable.min (ha : a.Movable offset) (hb : b.Movable offset) :
    (a.min b).Movable offset := by
  unfold Millis.min
  split
  · exact ha
  · exact hb

theorem Movable.max (ha : a.Movable offset) (hb : b.Movable offset) :
    (a.max b).Movable offset := by
  unfold Millis.max
  split
  · exact hb
  · exact ha

end Millis

/-! ## Records -/

/-- Both instants of a direction can be moved. -/
def Traffic.Movable (t : Traffic) (offset : Millis) : Prop :=
  t.start.Movable offset ∧ t.finish.Movable offset

instance (t : Traffic) (offset : Millis) : Decidable (t.Movable offset) :=
  inferInstanceAs (Decidable (_ ∧ _))

theorem Traffic.Movable.merge {s t : Traffic} {offset : Millis} (hs : s.Movable offset)
    (ht : t.Movable offset) : (s.merge t).Movable offset :=
  ⟨hs.1.min ht.1, hs.2.max ht.2⟩

theorem Traffic.merge_shift (s t : Traffic) (offset : Millis) :
    (s.shift offset).merge (t.shift offset) = (s.merge t).shift offset := by
  simp only [merge, shift, Millis.min_shift, Millis.max_shift]

theorem Traffic.isOrdered_shift {t : Traffic} {offset : Millis} (h : t.Movable offset) :
    (t.shift offset).isOrdered = t.isOrdered :=
  decide_eq_decide.2 (Millis.shift_le_shift_iff h.1 h.2)

namespace Record

variable {a b r : Record} {offset : Millis}

/-- **Every instant of a record can be moved.** -/
def Movable (r : Record) (offset : Millis) : Prop :=
  r.forward.Movable offset ∧ ∀ back ∈ r.reverse, back.Movable offset

instance (r : Record) (offset : Millis) : Decidable (r.Movable offset) :=
  inferInstanceAs (Decidable (_ ∧ _))

theorem Movable.spanStart (h : r.Movable offset) : r.spanStart.Movable offset := by
  unfold Record.spanStart
  cases hr : r.reverse with
  | none => exact h.1.1
  | some back => exact h.1.1.min (h.2 back hr).1

theorem Movable.spanEnd (h : r.Movable offset) : r.spanEnd.Movable offset := by
  unfold Record.spanEnd
  cases hr : r.reverse with
  | none => exact h.1.2
  | some back => exact h.1.2.max (h.2 back hr).2

theorem Movable.absorb (ha : a.Movable offset) (hb : b.Movable offset) :
    (a.absorb b).Movable offset := by
  refine ⟨ha.1.merge hb.1, fun back hback => ?_⟩
  rw [Option.mem_def, Record.absorb] at hback
  cases hra : a.reverse with
  | none =>
    rw [hra] at hback
    exact hb.2 back hback
  | some s =>
    cases hrb : b.reverse with
    | none =>
      rw [hra, hrb] at hback
      exact ha.2 back (hra.trans hback)
    | some t =>
      rw [hra, hrb] at hback
      cases hback
      exact (ha.2 s hra).merge (hb.2 t hrb)

@[simp] theorem key_shift (r : Record) (offset : Millis) : (r.shift offset).key = r.key := rfl

/-- The span moves along with its record. -/
theorem spanStart_shift (r : Record) (offset : Millis) :
    (r.shift offset).spanStart = r.spanStart.shift offset := by
  unfold spanStart
  cases hr : r.reverse <;> simp [shift, hr, Traffic.shift, Millis.min_shift]

theorem spanEnd_shift (r : Record) (offset : Millis) :
    (r.shift offset).spanEnd = r.spanEnd.shift offset := by
  unfold spanEnd
  cases hr : r.reverse <;> simp [shift, hr, Traffic.shift, Millis.max_shift]

/-- **It makes no difference whether pieces are moved before or after they are put together.** -/
theorem absorb_shift (a b : Record) (offset : Millis) :
    (a.shift offset).absorb (b.shift offset) = (a.absorb b).shift offset := by
  simp only [absorb, shift, Traffic.merge_shift, Record.mk.injEq, true_and]
  cases a.reverse <;> cases b.reverse <;> simp [mergeReverse, Traffic.merge_shift]

end Record

/-! ## Reconciliation -/

/-- A reversed record with its instants moved by an offset. -/
def ReversedRecord.shift (fault : ReversedRecord) (offset : Millis) : ReversedRecord :=
  { fault with start := fault.start.shift offset, finish := fault.finish.shift offset }

/-- The flows moved by an offset; how they came about stays the same. -/
def Reconciliation.shift (r : Reconciliation) (offset : Millis) : Reconciliation :=
  { r with flows := r.flows.map (·.shift offset) }

/-- A search finds the same if it looks the same at every element. -/
theorem findSome?_congr {α β : Type} {f g : α → Option β} {l : List α}
    (h : ∀ a ∈ l, f a = g a) : l.findSome? f = l.findSome? g := by
  induction l with
  | nil => rfl
  | cons a l ih =>
    obtain ⟨ha, hl⟩ := List.forall_mem_cons.1 h
    rw [List.findSome?_cons, List.findSome?_cons, ha, ih hl]

namespace Reconciliation

variable {t : Timeouts} {offset : Millis} {rs : List Record} {k : Key}

theorem reversedTraffic?_shift {r : Record} (h : r.Movable offset) :
    reversedTraffic? (r.shift offset) = (reversedTraffic? r).map (·.shift offset) := by
  have hforward : (r.shift offset).forward.isOrdered = r.forward.isOrdered :=
    Traffic.isOrdered_shift h.1
  rw [reversedTraffic?, reversedTraffic?, hforward]
  split
  · rfl
  · cases hr : r.reverse with
    | none => simp [Record.shift, hr]
    | some back =>
      have hback := Traffic.isOrdered_shift (h.2 back hr)
      cases ho : back.isOrdered <;> simp [Record.shift, hr, Option.filter, hback, ho]

/-- The first record that ends before it starts is the same one. -/
theorem firstReversed?_shift (h : ∀ r ∈ rs, r.Movable offset) :
    firstReversed? (rs.map (·.shift offset)) = (firstReversed? rs).map (·.shift offset) := by
  rw [firstReversed?, List.zipIdx_map, List.findSome?_map, firstReversed?, List.map_findSome?]
  refine findSome?_congr fun entry hentry => ?_
  obtain ⟨r, position⟩ := entry
  simp only [Function.comp_apply, Prod.map_apply, id_eq, Option.map_map,
    reversedTraffic?_shift (h r (List.fst_mem_of_mem_zipIdx hentry))]
  rfl

/-- **Whether a record continues another does not change** when both are moved. -/
theorem continues_shift {p q : Record} (hp : p.Movable offset) (hq : q.Movable offset) :
    continues t (p.shift offset) (q.shift offset) = continues t p q := by
  simp only [continues, Record.spanStart_shift, Record.spanEnd_shift,
    Millis.since_shift hp.spanEnd hp.spanStart, Millis.since_shift hq.spanStart hp.spanEnd]

/-- Nor does their order. -/
theorem spanLe_shift {p q : Record} (hp : p.Movable offset) (hq : q.Movable offset) :
    spanLe (p.shift offset) (q.shift offset) = spanLe p q := by
  simp only [spanLe, Record.spanStart_shift, Record.spanEnd_shift,
    Millis.shift_lt_shift_iff hp.spanStart hq.spanStart,
    Millis.shift_inj hp.spanStart hq.spanStart, Millis.shift_le_shift_iff hp.spanEnd hq.spanEnd]

theorem keysOf_shift (rs : List Record) (offset : Millis) :
    keysOf (rs.map (·.shift offset)) = keysOf rs := by
  rw [keysOf, List.map_map]
  rfl

/-- The pieces of a key are moved in their order. -/
theorem pieces_shift (h : ∀ r ∈ rs, r.Movable offset) (k : Key) :
    pieces (rs.map (·.shift offset)) k = (pieces rs k).map (·.shift offset) := by
  have hmem : ∀ r ∈ rs.filter fun r => r.key = k, r.Movable offset := fun r hr =>
    h r (List.mem_filter.1 hr).1
  rw [pieces, List.filter_map, pieces,
    List.map_mergeSort fun p hp q hq => (spanLe_shift (hmem p hp) (hmem q hq)).symm]
  rfl

/-- And cut at the same places. -/
theorem chains_shift (h : ∀ r ∈ rs, r.Movable offset) (k : Key) :
    chains t (rs.map (·.shift offset)) k =
      (chains t rs k).map (List.map (·.shift offset)) := by
  have hmem : ∀ r ∈ pieces rs k, r.Movable offset := fun r hr => h r (mem_pieces.1 hr).1
  rw [chains, pieces_shift h, chains,
    map_splitBy_of_mem fun p hp q hq => (continues_shift (hmem p hp) (hmem q hq)).symm]

theorem flow?_shift (chain : List Record) (offset : Millis) :
    flow? (chain.map (·.shift offset)) = (flow? chain).map (·.shift offset) := by
  cases chain with
  | nil => rfl
  | cons first rest =>
    simp only [List.map_cons, flow?, Option.map_some, Option.some.injEq]
    induction rest generalizing first with
    | nil => rfl
    | cons r rest ih =>
      rw [List.map_cons, List.foldl_cons, List.foldl_cons, Record.absorb_shift, ih]

theorem allChains_shift (h : ∀ r ∈ rs, r.Movable offset) :
    allChains t (rs.map (·.shift offset)) = (allChains t rs).map (List.map (·.shift offset)) := by
  rw [allChains, allChains, keysOf_shift, List.map_flatMap]
  exact List.flatMap_congr fun k _ => chains_shift h k

theorem ofOrdered_eq (t : Timeouts) (rs : List Record) :
    ofOrdered t rs = ⟨(allChains t rs).filterMap flow?, {
      recordsIn := rs.length
      flowsOut := ((allChains t rs).filterMap flow?).length
      merges := (allChains t rs).foldr (fun chain count => chain.length - 1 + count) 0
      keys := (keysOf rs).length
      conversations := ((keysOf rs).map Key.normalized).eraseDups.length }⟩ := rfl

/-- **Moved records have moved flows**, and the same counts describe how they came about. -/
theorem ofOrdered_shift (h : ∀ r ∈ rs, r.Movable offset) :
    ofOrdered t (rs.map (·.shift offset)) = (ofOrdered t rs).shift offset := by
  have hflows : (allChains t (rs.map (·.shift offset))).filterMap flow? =
      ((allChains t rs).filterMap flow?).map (·.shift offset) := by
    rw [allChains_shift h, List.filterMap_map, List.map_filterMap]
    exact List.filterMap_congr fun chain _ => flow?_shift chain offset
  have hmerges : (allChains t (rs.map (·.shift offset))).foldr
      (fun chain count => chain.length - 1 + count) 0 =
        (allChains t rs).foldr (fun chain count => chain.length - 1 + count) 0 := by
    rw [allChains_shift h, List.foldr_map]
    simp only [List.length_map]
  rw [ofOrdered_eq, ofOrdered_eq, shift, hflows, hmerges, keysOf_shift, List.length_map,
    List.length_map]

/-- The flows of records that can be moved can be moved. -/
theorem movable_of_mem_flows (h : ∀ r ∈ rs, r.Movable offset) :
    ∀ f ∈ (ofOrdered t rs).flows, f.Movable offset := by
  intro f hf
  obtain ⟨chain, hchain, hflow⟩ := List.mem_filterMap.1 hf
  have hmem : ∀ r ∈ chain, r.Movable offset := fun r hr =>
    h r ((flatten_allChains_perm t rs).mem_iff.1 (List.mem_flatten.2 ⟨chain, hchain, hr⟩))
  revert hmem
  refine flow?_induction (P := fun chain f => (∀ r ∈ chain, r.Movable offset) → f.Movable offset)
    (fun r hr => hr r (by simp)) (fun a chain f _ ih hmem => ?_) hflow
  obtain ⟨ha, hrest⟩ := List.forall_mem_cons.1 hmem
  exact ha.absorb (ih hrest)

end Reconciliation

open Reconciliation

/-- **Reconciliation commutes with moving records in time**: the first record that ends before it
starts is the same one, or else the flows are the moved flows. -/
theorem reconcile_map_shift {t : Timeouts} {offset : Millis} {rs : List Record}
    (h : ∀ r ∈ rs, r.Movable offset) :
    reconcile t (rs.map (·.shift offset)) =
      ((reconcile t rs).map (·.shift offset)).mapError (·.shift offset) := by
  rw [reconcile, firstReversed?_shift h, reconcile]
  cases firstReversed? rs with
  | some fault => rfl
  | none =>
    rw [Option.map_none]
    exact congrArg Except.ok (ofOrdered_shift h)

/-! ## Segments -/

/-- The bounds of a window moved by an offset. -/
def TimeWindow.shift (w : TimeWindow) (offset : Millis) : TimeWindow :=
  ⟨w.start.map (·.shift offset), w.finish.map (·.shift offset)⟩

/-- A segment moved in time. Networks stay where they are. -/
def Segment.shift : Segment → Millis → Segment
  | subnet pair, _ => subnet pair
  | time w, offset => time (w.shift offset)

/-- **The bounds of a segment can be moved**, where it has any. -/
def Segment.Movable : Segment → Millis → Prop
  | subnet _, _ => True
  | time w, offset => (∀ s ∈ w.start, s.Movable offset) ∧ ∀ e ∈ w.finish, e.Movable offset

/-- **Moved records are in a moved segment** exactly if they were in it before. -/
theorem Segment.matchesRecord_shift {segment : Segment} {r : Record} {offset : Millis}
    (hsegment : segment.Movable offset) (hr : r.Movable offset) :
    (segment.shift offset).matchesRecord (r.shift offset) = segment.matchesRecord r := by
  cases segment with
  | subnet pair => exact matchesRecord_congr_key (some pair) (Record.key_shift r offset)
  | time w =>
    obtain ⟨hstart, hfinish⟩ := hsegment
    have hstart : (w.start.map (·.shift offset)).all (· ≤ (r.shift offset).spanStart) =
        w.start.all (· ≤ r.spanStart) := by
      rw [Record.spanStart_shift]
      cases hs : w.start with
      | none => rfl
      | some s => exact decide_eq_decide.2 (Millis.shift_le_shift_iff (hstart s hs) hr.spanStart)
    have hfinish : (w.finish.map (·.shift offset)).all ((r.shift offset).spanEnd ≤ ·) =
        w.finish.all (r.spanEnd ≤ ·) := by
      rw [Record.spanEnd_shift]
      cases he : w.finish with
      | none => rfl
      | some e => exact decide_eq_decide.2 (Millis.shift_le_shift_iff hr.spanEnd (hfinish e he))
    simp only [shift, matchesRecord, TimeWindow.matchesRecord, TimeWindow.shift, hstart, hfinish]

/-- Moved records count in a moved segment what they counted in it before. -/
theorem Measure.total_select_shift (m : Measure) {segment : Option Segment} {rs : List Record}
    {offset : Millis} (hsegment : ∀ s ∈ segment, s.Movable offset)
    (hrs : ∀ r ∈ rs, r.Movable offset) :
    m.total (Segment.select (segment.map (·.shift offset)) (rs.map (·.shift offset))) =
      m.total (Segment.select segment rs) := by
  rw [total_select, total_select, List.map_map]
  refine congrArg List.sum (List.map_congr_left fun r hr => ?_)
  have hmatches : (segment.map (·.shift offset)).all (·.matchesRecord (r.shift offset)) =
      segment.all (·.matchesRecord r) := by
    cases segment with
    | none => rfl
    | some s => exact Segment.matchesRecord_shift (hsegment s rfl) (hrs r hr)
  have hvalue : m.value (r.shift offset) = m.value r := congrArg Counter.clamp (m.count_shift r _)
  rw [Function.comp_apply, hmatches, hvalue]

/-- A dataset with its flows moved by an offset. -/
def Dataset.shift (d : Dataset) (offset : Millis) : Dataset :=
  { d with flows := d.flows.map (·.shift offset) }

/-- **The dataset with an offset** is the moved dataset without one. -/
theorem Dataset.ofRecords_shift (role : Role) {t : Timeouts} {rs : List Record} {offset : Millis}
    (h : ∀ r ∈ rs, r.Movable offset) :
    ofRecords role t (some offset) rs =
      ((ofRecords role t none rs).map (·.shift offset)).mapError (·.shift offset) := by
  rw [ofRecords, moved, reconcile_map_shift h, ofRecords, moved]
  cases reconcile t rs <;> rfl

/-- It has over a moved segment the totals that the other has over the segment. -/
theorem Dataset.total_shift {role : Role} {t : Timeouts} {rs : List Record} {offset : Millis}
    (h : ∀ r ∈ rs, r.Movable offset) {d : Dataset} (hd : ofRecords role t none rs = .ok d)
    (m : Measure) {segment : Option Segment} (hsegment : ∀ s ∈ segment, s.Movable offset) :
    (d.shift offset).total m (segment.map (·.shift offset)) = d.total m segment := by
  obtain ⟨-, rfl⟩ := ofRecords_eq_ok.1 hd
  exact m.total_select_shift hsegment (movable_of_mem_flows h)

/-- **Moving a dataset in time is a translation.** Let no instant of its records leave 64 bits when
the offset is added. Then
- reconciliation of the moved records fails exactly if it does for the records as they are, at the
  same record, and otherwise gives the moved flows with the same statistics;
- a dataset with the offset can be built exactly if one without can, and over every segment whose
  bounds, if it has any, can be moved as well it has the same total of every measure as the other
  has over the segment before it is moved: over windows of time with both bounds moved, over pairs
  of networks and over the whole traffic as they are. -/
theorem reconcile_shift {offset : Millis} {rs : List Record}
    (h : ∀ r ∈ rs, r.Movable offset) (t : Timeouts) :
    (∀ fault, reconcile t rs = .error fault →
      reconcile t (rs.map (·.shift offset)) = .error (fault.shift offset)) ∧
    (∀ r, reconcile t rs = .ok r → ∃ r', reconcile t (rs.map (·.shift offset)) = .ok r' ∧
      r'.flows = r.flows.map (·.shift offset) ∧ r'.statistics = r.statistics) ∧
    ∀ role,
      ((∃ d, Dataset.ofRecords role t (some offset) rs = .ok d) ↔
        ∃ d, Dataset.ofRecords role t none rs = .ok d) ∧
      ∀ d d', Dataset.ofRecords role t none rs = .ok d →
        Dataset.ofRecords role t (some offset) rs = .ok d' →
        ∀ (m : Measure) (segment : Option Segment), (∀ s ∈ segment, s.Movable offset) →
          d'.total m (segment.map (·.shift offset)) = d.total m segment := by
  have hmap := reconcile_map_shift (t := t) h
  -- the dataset with the offset is built exactly from the one without
  have hdataset : ∀ role d', Dataset.ofRecords role t (some offset) rs = .ok d' ↔
      ∃ d, Dataset.ofRecords role t none rs = .ok d ∧ d.shift offset = d' := fun role d' => by
    rw [Dataset.ofRecords_shift role h, mapError_eq_ok, map_eq_ok]
  refine ⟨fun fault hfault => ?_, fun r hr => ?_, fun role => ⟨?_, ?_⟩⟩
  · rw [hmap, hfault]
    rfl
  · exact ⟨r.shift offset, by rw [hmap, hr]; rfl, rfl, rfl⟩
  · simp only [hdataset]
    constructor
    · rintro ⟨_, d, hd, -⟩
      exact ⟨d, hd⟩
    · rintro ⟨d, hd⟩
      exact ⟨_, d, hd, rfl⟩
  · intro d d' hd hd' m segment hsegment
    obtain ⟨_, hd₁, rfl⟩ := (hdataset role d').1 hd'
    obtain rfl := Except.ok.inj (hd.symm.trans hd₁)
    exact Dataset.total_shift h hd m hsegment

namespace Sample

/-- A flow in two pieces at the end of the range, of which the first has a reverse side. -/
def late : List Record :=
  [⟨key, traffic 9223372036854000000 9223372036854300000 2,
      some (traffic 9223372036853999000 9223372036854300020 4)⟩,
    record 9223372036854300030 9223372036854310000 3]

/-- A window that opens when the first piece starts and stays open. -/
def sinceLate : Segment := .time ⟨some (.ofInt 9223372036853999000), none⟩

end Sample

/-- What happens in the last minutes of the range may be moved to where timestamps are negative. -/
theorem reconcile_shift_sample :
    (∀ r ∈ Sample.late, r.Movable .minimum) ∧ Sample.sinceLate.Movable .minimum ∧
      ∃ d d', Dataset.ofRecords .reference Sample.timeouts none Sample.late = .ok d ∧
        Dataset.ofRecords .reference Sample.timeouts (some .minimum) Sample.late = .ok d' ∧
        ∀ m : Measure, d'.total m (some (Sample.sinceLate.shift .minimum)) =
          d.total m (some Sample.sinceLate) := by
  have hlate : ∀ r ∈ Sample.late, r.Movable .minimum := by decide
  have hsince : Sample.sinceLate.Movable .minimum := ⟨by decide, by decide⟩
  obtain ⟨-, -, hdatasets⟩ := reconcile_shift hlate Sample.timeouts
  obtain ⟨hiff, htotal⟩ := hdatasets .reference
  have hd : Dataset.ofRecords .reference Sample.timeouts none Sample.late = .ok _ :=
    Dataset.ofRecords_eq_ok.2 ⟨by decide, rfl⟩
  obtain ⟨d', hd'⟩ := hiff.2 ⟨_, hd⟩
  exact ⟨hlate, hsince, _, d', hd, hd', fun m =>
    htotal _ d' hd hd' m (some Sample.sinceLate) fun s hs => Option.some.inj hs ▸ hsince⟩

end FlowParity
