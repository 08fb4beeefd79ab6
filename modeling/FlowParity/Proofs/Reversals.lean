import FlowParity.Proofs.RuleAgreement
import FlowParity.Proofs.Translation
/-!
# Records that end before they start

No order of spans can be trusted if a record ends before it starts, so a comparison is refused
at the first such record. Records are looked at once they are moved to absolute times, and an
instant that would leave 64 bits stops at their end. That may take both instants of a reversed
direction to one end, where it is not reversed any more (`exists_ofRecords_of_reversed`). In
every other case a direction **stays reversed**, and that is all a comparison is refused for:
at the first record of the candidate that does, else at the first one of the reference
(`ofRecords_reversed`).
-/

namespace FlowParity

open Reconciliation

/-! ## Directions -/

/-- The milliseconds that an offset adds, none if there is no offset. -/
def addedBy (offset : Option Millis) : Int := (offset.map Millis.ms).getD 0

namespace Traffic

/-- The traffic moved by an offset, if there is one. -/
def moved (offset : Option Millis) (t : Traffic) : Traffic := offset.elim t t.shift

/-- **A direction stays reversed**: it ends before it starts, and an offset does not take both
instants to the same end of 64 bits. -/
def StaysReversed (offset : Option Millis) (t : Traffic) : Prop :=
  t.finish < t.start ∧ t.finish.ms + addedBy offset < 9223372036854775807 ∧
    -9223372036854775808 < t.start.ms + addedBy offset

instance (offset : Option Millis) (t : Traffic) : Decidable (t.StaysReversed offset) :=
  inferInstanceAs (Decidable (_ ∧ _))

variable {offset : Option Millis} {t : Traffic}

/-- **Which is to say that it is reversed after it has been moved.** -/
theorem staysReversed_iff :
    t.StaysReversed offset ↔ (t.moved offset).finish < (t.moved offset).start := by
  have hlower := t.start.lower
  have hupper := t.start.upper
  have hlower' := t.finish.lower
  have hupper' := t.finish.upper
  cases offset with
  | none =>
    simp only [StaysReversed, addedBy, moved, Option.map_none, Option.getD_none, Option.elim_none,
      Millis.lt_def]
    omega
  | some d =>
    simp only [StaysReversed, addedBy, moved, Option.map_some, Option.getD_some, Option.elim_some,
      Traffic.shift, Millis.lt_def, Millis.shift, Millis.ms_ofInt]
    omega

theorem isOrdered_moved : (t.moved offset).isOrdered = false ↔ t.StaysReversed offset := by
  rw [staysReversed_iff, isOrdered, decide_eq_false_iff_not, Millis.le_def, Millis.lt_def,
    Int.not_le]

/-- Where nothing leaves 64 bits, what is reversed stays so. -/
theorem staysReversed_iff_of_movable (h : ∀ d ∈ offset, t.Movable d) :
    t.StaysReversed offset ↔ t.finish < t.start := by
  rw [staysReversed_iff]
  cases offset with
  | none => rfl
  | some d =>
    obtain ⟨hstart, hfinish⟩ := h d rfl
    exact Millis.shift_lt_shift_iff hfinish hstart

end Traffic

/-! ## Records -/

namespace Record

/-- The record moved by an offset, if there is one. -/
def moved (offset : Option Millis) (r : Record) : Record := offset.elim r r.shift

/-- **A record stays reversed** if a direction of it does. -/
def StaysReversed (offset : Option Millis) (r : Record) : Prop :=
  r.forward.StaysReversed offset ∨ ∃ back ∈ r.reverse, back.StaysReversed offset

instance (offset : Option Millis) (r : Record) : Decidable (r.StaysReversed offset) :=
  inferInstanceAs (Decidable (_ ∨ _))

variable {offset : Option Millis} {r : Record}

@[simp] theorem key_moved : (r.moved offset).key = r.key := by
  cases offset <;> rfl

@[simp] theorem forward_moved : (r.moved offset).forward = r.forward.moved offset := by
  cases offset <;> rfl

@[simp] theorem reverse_moved :
    (r.moved offset).reverse = r.reverse.map (Traffic.moved offset) := by
  cases offset with
  | none => cases hr : r.reverse <;> simp [moved, hr, Traffic.moved]
  | some d => rfl

end Record

/-- **The direction that a record is refused for**: the forward one if that stays reversed, else
the reverse one. -/
inductive Record.IsRefusedFor (offset : Option Millis) (r : Record) : Traffic → Prop
  /-- The forward direction stays reversed. -/
  | forward (h : r.forward.StaysReversed offset) : r.IsRefusedFor offset r.forward
  /-- Only the reverse direction does. -/
  | reverse {back : Traffic} (hf : ¬ r.forward.StaysReversed offset) (hback : back ∈ r.reverse)
      (h : back.StaysReversed offset) : r.IsRefusedFor offset back

namespace Record.IsRefusedFor

variable {offset : Option Millis} {r : Record} {t : Traffic}

theorem staysReversed (h : r.IsRefusedFor offset t) : t.StaysReversed offset := by
  cases h with
  | forward h => exact h
  | reverse hf hback h => exact h

theorem record_staysReversed (h : r.IsRefusedFor offset t) : r.StaysReversed offset := by
  cases h with
  | forward h => exact .inl h
  | reverse hf hback h => exact .inr ⟨t, hback, h⟩

end Record.IsRefusedFor

namespace Reconciliation

variable {offset : Option Millis} {r : Record} {rs : List Record}

/-- **A moved record is refused for a direction that stays reversed**, with its moved instants. -/
theorem reversedTraffic?_moved {u : Traffic} :
    reversedTraffic? (r.moved offset) = some u ↔
      ∃ t, r.IsRefusedFor offset t ∧ t.moved offset = u := by
  rw [reversedTraffic?, Record.forward_moved, Record.reverse_moved]
  by_cases hf : r.forward.StaysReversed offset
  · have hordered := Traffic.isOrdered_moved.2 hf
    rw [hordered, Bool.not_false, if_pos rfl, Option.some.injEq]
    constructor
    · rintro rfl
      exact ⟨_, .forward hf, rfl⟩
    · rintro ⟨t, ht, rfl⟩
      cases ht with
      | forward h => rfl
      | reverse hf' _ _ => exact absurd hf hf'
  · have hordered : (r.forward.moved offset).isOrdered = true := by
      rw [← Bool.not_eq_false, Traffic.isOrdered_moved]
      exact hf
    rw [hordered, Bool.not_true, if_neg Bool.false_ne_true, Option.filter_eq_some_iff]
    simp only [Option.map_eq_some_iff, Bool.not_eq_true']
    constructor
    · rintro ⟨⟨back, hback, rfl⟩, h⟩
      exact ⟨back, .reverse hf hback (Traffic.isOrdered_moved.1 h), rfl⟩
    · rintro ⟨t, ht, rfl⟩
      cases ht with
      | forward h => exact absurd h hf
      | reverse _ hback h => exact ⟨⟨t, hback, rfl⟩, Traffic.isOrdered_moved.2 h⟩

/-- So a record is ordered once it is moved unless it stays reversed. -/
theorem isOrdered_moved_iff : (r.moved offset).isOrdered ↔ ¬ r.StaysReversed offset := by
  rw [← reversedTraffic?_eq_none, Option.eq_none_iff_forall_ne_some]
  simp only [ne_eq, reversedTraffic?_moved]
  constructor
  · rintro h hr
    by_cases hf : r.forward.StaysReversed offset
    · exact h _ ⟨_, .forward hf, rfl⟩
    · obtain ⟨back, hback, hb⟩ := hr.resolve_left hf
      exact h _ ⟨back, .reverse hf hback hb, rfl⟩
  · rintro h u ⟨t, ht, -⟩
    exact h ht.record_staysReversed

end Reconciliation

/-! ## Datasets -/

theorem Dataset.moved_eq_map (offset : Option Millis) (rs : List Record) :
    moved offset rs = rs.map (Record.moved offset) := by
  cases offset with
  | none => exact (List.map_id rs).symm
  | some d => rfl

/-- Whether all records of a dataset are ordered once they are moved. -/
theorem Dataset.forall_mem_moved_isOrdered {offset : Option Millis} {rs : List Record} :
    (∀ r ∈ moved offset rs, r.isOrdered) ↔ ∀ r ∈ rs, ¬ r.StaysReversed offset := by
  rw [moved_eq_map, List.forall_mem_map]
  simp only [isOrdered_moved_iff]

/-- **A fault that names the first record that stays reversed**, here the record `r` with `i`
records before it. -/
structure ReversedRecord.IsFirst (fault : ReversedRecord) (offset : Option Millis)
    (rs : List Record) (i : Nat) (r : Record) : Prop where
  /-- The record is one of the dataset. -/
  getElem : rs[i]? = some r
  /-- It stays reversed. -/
  staysReversed : r.StaysReversed offset
  /-- None before it does. -/
  earlier : ∀ j < i, ∀ p, rs[j]? = some p → ¬ p.StaysReversed offset
  /-- The fault tells its position, from one. -/
  position : fault.position = i + 1
  /-- And its key. -/
  key : fault.key = r.key
  /-- And the moved instants of the direction that it is refused for. -/
  instants : ∃ t, r.IsRefusedFor offset t ∧ fault.start = (t.moved offset).start ∧
    fault.finish = (t.moved offset).finish
  /-- Which are in the wrong order. -/
  finish_lt_start : fault.finish < fault.start

theorem Reconciliation.firstReversed?_moved {offset : Option Millis} {rs : List Record}
    {fault : ReversedRecord} (h : firstReversed? (Dataset.moved offset rs) = some fault) :
    ∃ i r, fault.IsFirst offset rs i r := by
  rw [firstReversed?, findSome?_zipIdx_eq_some] at h
  obtain ⟨i, q, hq, hfault, hbefore⟩ := h
  simp only [Dataset.moved_eq_map, List.getElem?_map, Option.map_eq_some_iff] at hq hbefore hfault
  obtain ⟨r, hr, rfl⟩ := hq
  obtain ⟨u, hu, rfl⟩ := hfault
  obtain ⟨t, ht, rfl⟩ := reversedTraffic?_moved.1 hu
  refine ⟨i, r, hr, ht.record_staysReversed, ?_, Nat.add_comm 1 i, Record.key_moved,
    ⟨t, ht, rfl, rfl⟩, Traffic.staysReversed_iff.1 ht.staysReversed⟩
  intro j hj p hp
  have hnone := hbefore j hj (p.moved offset) ⟨p, hp, rfl⟩
  rw [Option.map_eq_none_iff, reversedTraffic?_eq_none] at hnone
  exact isOrdered_moved_iff.1 hnone

namespace Dataset

variable (role : Role) (t : Timeouts) {offset : Option Millis} {rs : List Record}

/-- **A dataset without records that stay reversed can be built.** -/
theorem exists_ofRecords_eq_ok (h : ∀ r ∈ rs, ¬ r.StaysReversed offset) :
    ∃ d, ofRecords role t offset rs = .ok d :=
  ⟨_, ofRecords_eq_ok.2 ⟨forall_mem_moved_isOrdered.2 h, rfl⟩⟩

/-- **One with such a record is refused at the first of them.** -/
theorem exists_ofRecords_eq_error (h : ∃ r ∈ rs, r.StaysReversed offset) :
    ∃ fault i r, ofRecords role t offset rs = .error fault ∧ fault.IsFirst offset rs i r := by
  cases hfirst : firstReversed? (moved offset rs) with
  | none =>
    obtain ⟨r, hr, hreversed⟩ := h
    exact absurd hreversed (forall_mem_moved_isOrdered.1 (firstReversed?_eq_none.1 hfirst) r hr)
  | some fault =>
    obtain ⟨i, r, hfault⟩ := firstReversed?_moved hfirst
    refine ⟨fault, i, r, ?_, hfault⟩
    rw [ofRecords, reconcile, hfirst]

end Dataset

/-- **A comparison is refused for records that stay reversed and for nothing else.** For all records
and all settings with a positive active timeout, where a dataset has the offset of its side: if the
candidate has a record that stays reversed, the comparison is refused with the first one of the
candidate; if only the reference has one, with the first one of the reference; and otherwise the
comparison can be made. A record that can be moved without leaving 64 bits, or is not moved, stays
reversed exactly if it ends before it starts in one of its directions. -/
theorem ofRecords_reversed {s : Settings} (hactive : 0 < s.active.toNat)
    (candidate reference : List Record) :
    ((∃ r ∈ candidate, r.StaysReversed s.candidateOffset) →
      ∃ fault i r, Comparison.ofRecords s candidate reference =
        .error (.dataset .candidate (.reversed fault)) ∧
          fault.IsFirst s.candidateOffset candidate i r) ∧
    ((∀ r ∈ candidate, ¬ r.StaysReversed s.candidateOffset) →
      (∃ r ∈ reference, r.StaysReversed s.referenceOffset) →
      ∃ fault i r, Comparison.ofRecords s candidate reference =
        .error (.dataset .reference (.reversed fault)) ∧
          fault.IsFirst s.referenceOffset reference i r) ∧
    ((∃ c, Comparison.ofRecords s candidate reference = .ok c) ↔
      (∀ r ∈ candidate, ¬ r.StaysReversed s.candidateOffset) ∧
        ∀ r ∈ reference, ¬ r.StaysReversed s.referenceOffset) ∧
    ∀ (offset : Option Millis) (r : Record), (∀ d ∈ offset, r.Movable d) →
      (r.StaysReversed offset ↔ r.forward.finish < r.forward.start ∨
        ∃ back ∈ r.reverse, back.finish < back.start) := by
  have hcheck : s.check = .ok () := Settings.check_eq_ok.2 (Nat.ne_of_gt hactive)
  refine ⟨fun h => ?_, fun hcandidate h => ?_, ?_, fun offset r hr => ?_⟩
  · obtain ⟨fault, i, r, hfault, hfirst⟩ :=
      Dataset.exists_ofRecords_eq_error .candidate s.timeouts h
    refine ⟨fault, i, r, ?_, hfirst⟩
    simp only [Comparison.ofRecords, hcheck, hfault]
    rfl
  · obtain ⟨d, hd⟩ :=
      Dataset.exists_ofRecords_eq_ok .candidate s.timeouts hcandidate
    obtain ⟨fault, i, r, hfault, hfirst⟩ :=
      Dataset.exists_ofRecords_eq_error .reference s.timeouts h
    refine ⟨fault, i, r, ?_, hfirst⟩
    simp only [Comparison.ofRecords, hcheck, hd, hfault]
    rfl
  · rw [Comparison.exists_ofRecords_eq_ok, Dataset.forall_mem_moved_isOrdered,
      Dataset.forall_mem_moved_isOrdered]
    exact and_iff_right hcheck
  · rw [Record.StaysReversed, Traffic.staysReversed_iff_of_movable fun d hd => (hr d hd).1]
    refine or_congr_right (exists_congr fun back => and_congr_right fun hback => ?_)
    exact Traffic.staysReversed_iff_of_movable fun d hd => (hr d hd).2 back hback

namespace Sample

/-- Settings that move the reference by ten milliseconds. -/
def startingLate : Settings := { Settings.default with startTime := some (.ofInt 10) }

/-- A record that ends before it starts. -/
def backwards (start : Int) : Record := record start (start - 1) 1

end Sample

/-- The second record of the reference is the first one that is moved backwards. -/
theorem ofRecords_reversed_sample :
    0 < Sample.startingLate.active.toNat ∧
      (∀ r ∈ [Sample.record 0 1000 5], ¬ r.StaysReversed Sample.startingLate.candidateOffset) ∧
      ∃ fault i r, Comparison.ofRecords Sample.startingLate [Sample.record 0 1000 5]
          [Sample.record 0 1000 5, Sample.backwards 500] =
        .error (.dataset .reference (.reversed fault)) ∧
          fault.IsFirst Sample.startingLate.referenceOffset
            [Sample.record 0 1000 5, Sample.backwards 500] i r := by
  have hactive : 0 < Sample.startingLate.active.toNat := by decide
  obtain ⟨-, hreference, -, -⟩ := ofRecords_reversed hactive [Sample.record 0 1000 5]
    [Sample.record 0 1000 5, Sample.backwards 500]
  have hcandidate : ∀ r ∈ [Sample.record 0 1000 5],
      ¬ r.StaysReversed Sample.startingLate.candidateOffset := by
    decide
  exact ⟨hactive, hcandidate, hreference hcandidate
    ⟨Sample.backwards 500, by decide, .inl (by decide)⟩⟩

/-- **The end of 64 bits hides a reversed record**: in the last milliseconds of the range it is
moved to one instant. -/
theorem exists_ofRecords_of_reversed :
    ∃ s candidate reference c, 0 < s.active.toNat ∧
      (∃ r ∈ reference, r.forward.finish < r.forward.start) ∧
      Comparison.ofRecords s candidate reference = .ok c := by
  have hok : ∃ c, Comparison.ofRecords Sample.startingLate []
      [Sample.backwards 9223372036854775807] = .ok c :=
    Comparison.exists_ofRecords_eq_ok.2 ⟨rfl, by decide, by decide⟩
  obtain ⟨c, hc⟩ := hok
  exact ⟨_, _, _, c, by decide, ⟨_, List.mem_singleton.2 rfl, by decide⟩, hc⟩

end FlowParity
