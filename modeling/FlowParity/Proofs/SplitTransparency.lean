import FlowParity.Proofs.Chaining
import FlowParity.Proofs.Conservation
/-!
# How visible a split is

An exporter that reaches its active timeout reports one record as two. What
that does to the dataset around it is told exactly here: packets and bytes
never change, and the number of flows does not either if and only if the later
fragment fits in where it falls (`Fits`), that is, if it makes as many cuts
with its two neighbours as these made with each other (`split_transparent`).

The earlier fragment is never noticed. It starts where the whole record did and
is long enough to be continued by the later one, and so by everything that
starts before that: `cuts_place_bridge`. The later fragment may be short, and then
what used to continue the whole record does not continue it. In the order of
the spans records with the same key may come between the two fragments, which is
why the neighbours of the later one decide.
-/

namespace FlowParity

open Reconciliation

/-! ## Placing a span -/

/-- Spans that start together, each continued by all that start up to some instant. -/
structure Bridge (t : Timeouts) (start limit : Timestamp) (ss : List Span) : Prop where
  /-- There is one. -/
  ne_nil : ss ≠ []
  /-- They start together. -/
  start_eq : ∀ s ∈ ss, s.start = start
  /-- They are continued up to the limit. -/
  joins : ∀ s ∈ ss, ∀ x : Span, x.start ≤ limit → t.joins s x

section Placing

variable {t : Timeouts} {start limit : Timestamp}

/-- Spans that start with a long enough one and end no earlier are a bridge. -/
theorem bridge_of_finish_le {e : Span} (hreach : t.Reaches e) (hforward : e.Forward)
    (hpause : e.finish.ms ≤ limit.ms) (hgap : limit.ms - e.finish.ms ≤ t.inactive.ms)
    {ss : List Span} (hne : ss ≠ [])
    (hss : ∀ s ∈ ss, s.start = e.start ∧ e.finish.ms ≤ s.finish.ms) :
    Bridge t e.start limit ss := by
  refine ⟨hne, fun s hs => (hss s hs).1, fun s hs x hx => ?_⟩
  obtain ⟨hstart, hfinish⟩ := hss s hs
  rw [Millis.le_def] at hx
  simp only [Timeouts.Reaches, Span.Forward] at hreach hforward
  rw [Timeouts.joins_iff (by rw [Span.Forward, hstart]; omega), Timeouts.Reaches, hstart]
  omega

/-- A bridge has no cuts, nor is there one after it. -/
theorem Bridge.cuts_append {X B : List Span} (h : Bridge t start limit X) (hl : start ≤ limit)
    (hB : ∀ b ∈ B.head?, b.start ≤ limit) : cuts t.joins (X ++ B) = cuts t.joins B := by
  have hX : cuts t.joins X = 0 := by
    refine cuts_eq_zero (List.Pairwise.isChain ?_)
    refine List.pairwise_of_forall_mem_list fun x hx y hy => h.joins x hx y ?_
    rw [h.start_eq y hy]
    exact hl
  have hseam : seam t.joins X.getLast? B.head? = 0 := by
    rw [List.getLast?_eq_some_getLast h.ne_nil]
    cases hb : B.head? with
    | none => rfl
    | some b => exact seam_eq_zero (h.joins _ (List.getLast_mem h.ne_nil) b (hB b hb))
  rw [FlowParity.cuts_append, hX, hseam, Nat.zero_add]

/-- **Bridges between the same starts are interchangeable.** -/
theorem Bridge.cuts_congr {A X Y B : List Span} (hX : Bridge t start limit X)
    (hY : Bridge t start limit Y) (hl : start ≤ limit) (hB : ∀ b ∈ B.head?, b.start ≤ limit) :
    cuts t.joins (A ++ (X ++ B)) = cuts t.joins (A ++ (Y ++ B)) := by
  obtain ⟨x, X, rfl⟩ := List.exists_cons_of_ne_nil hX.ne_nil
  obtain ⟨y, Y, rfl⟩ := List.exists_cons_of_ne_nil hY.ne_nil
  -- what comes before looks at the start of a bridge only, and what comes after is joined by it
  have hxy : x.start = y.start := by rw [hX.start_eq x (by simp), hY.start_eq y (by simp)]
  have hseam : seam t.joins A.getLast? (some x) = seam t.joins A.getLast? (some y) := by
    cases A.getLast? with
    | none => rfl
    | some a => simp only [seam, Timeouts.joins_congr hxy]
  rw [FlowParity.cuts_append A, FlowParity.cuts_append A, hX.cuts_append hl hB,
    hY.cuts_append hl hB, List.cons_append, List.cons_append, List.head?_cons, List.head?_cons,
    hseam]

/-- Two spans placed in one list differ by what lies between them. -/
theorem exists_place_eq {ss : List Span} (hs : Span.Sorted ss) {e w : Span} (hew : e.le w) :
    ∃ A E B, Span.place e ss = A ++ (([e] ++ E) ++ B) ∧ Span.place w ss = A ++ ((E ++ [w]) ++ B) ∧
      (∀ s ∈ E, ¬ s.le e ∧ s.le w) ∧ Span.Sorted B ∧ ∀ s ∈ ss, ¬ s.le w → s ∈ B := by
  -- `A` comes before both places, `E` lies between them and `B` comes after both
  let A := ss.filter fun a => a.le e
  let M := ss.filter fun a => !a.le e
  let E := M.filter fun a => a.le w
  let B := M.filter fun a => !a.le w
  have hAM : A ++ M = ss := hs.filter_append fun _ _ hab hb => Span.le_trans hab hb
  have hM : Span.Sorted M := hs.filter _
  have hEB : E ++ B = M := hM.filter_append fun _ _ hab hb => Span.le_trans hab hb
  have hAw : ∀ a ∈ A, a.le w := fun a ha => Span.le_trans (List.mem_filter.1 ha).2 hew
  have hearly : (ss.filter fun a => a.le w) = A ++ E := by
    conv_lhs => rw [← hAM, List.filter_append]
    rw [List.filter_eq_self.2 hAw]
  have hlate : (ss.filter fun a => !a.le w) = B := by
    conv_lhs => rw [← hAM, List.filter_append]
    rw [List.filter_eq_nil_iff.2 fun a ha => by simp [hAw a ha], List.nil_append]
  refine ⟨A, E, B, ?_, ?_, ?_, hM.filter _, ?_⟩
  · rw [List.append_assoc, hEB]
    rfl
  · rw [Span.place, hearly, hlate]
    simp
  · intro s hsE
    obtain ⟨hsM, hsw⟩ := List.mem_filter.1 hsE
    exact ⟨by simpa using (List.mem_filter.1 hsM).2, hsw⟩
  · intro s hss hsw
    rw [← hlate, List.mem_filter]
    exact ⟨hss, by simpa using hsw⟩

/-- **Where a later span bridges the gap, an earlier end is not noticed.** A
span may be replaced by one with the same start that is still continued by a
span that comes later in the list. -/
theorem cuts_place_bridge {ss : List Span} (hs : Span.Sorted ss) {w e l : Span} (hl : l ∈ ss)
    (hstart : e.start = w.start) (hfinish : e.finish.ms ≤ w.finish.ms)
    (hreach : t.Reaches e) (hforward : e.Forward) (hlater : w.start.ms < l.start.ms)
    (hpause : e.finish.ms ≤ l.start.ms) (hgap : l.start.ms - e.finish.ms ≤ t.inactive.ms) :
    cuts t.joins (Span.place w ss) = cuts t.joins (Span.place e ss) := by
  obtain ⟨A, E, B, he, hw, hE, hB, hlate⟩ :=
    exists_place_eq hs (Span.le_iff.2 (by rw [hstart]; omega) : e.le w)
  have hlB : l ∈ B := hlate l hl (by rw [Span.le_iff]; omega)
  -- all of them start with the earlier end and reach the span that comes later
  have hmiddle : ∀ s ∈ E, s.start = e.start ∧ e.finish.ms ≤ s.finish.ms := by
    intro s hs
    obtain ⟨hse, hsw⟩ := hE s hs
    rw [Span.le_iff] at hse hsw
    rw [← hstart] at hsw
    exact ⟨Millis.ext (by omega), by omega⟩
  have hearlier : ∀ s ∈ [e] ++ E, s.start = e.start ∧ e.finish.ms ≤ s.finish.ms :=
    List.forall_mem_append.2 ⟨by simp, hmiddle⟩
  have hwhole : ∀ s ∈ E ++ [w], s.start = e.start ∧ e.finish.ms ≤ s.finish.ms :=
    List.forall_mem_append.2 ⟨hmiddle, by simp [hstart, hfinish]⟩
  rw [he, hw]
  refine Bridge.cuts_congr (bridge_of_finish_le hreach hforward hpause hgap (by simp) hwhole)
    (bridge_of_finish_le hreach hforward hpause hgap (by simp) hearlier) ?_ (hB.head_start_le hlB)
  rw [Millis.le_def, hstart]
  omega

/-- One more span turns the cut at its place into those with its two neighbours. -/
theorem cuts_place {ss : List Span} (hs : Span.Sorted ss) (x : Span) :
    cuts t.joins (Span.place x ss) +
        seam t.joins (ss.filter fun a => a.le x).getLast? (ss.filter fun a => !a.le x).head? =
      cuts t.joins ss +
        (seam t.joins (ss.filter fun a => a.le x).getLast? (some x) +
          seam t.joins (some x) (ss.filter fun a => !a.le x).head?) := by
  have hsplit : (ss.filter fun a => a.le x) ++ (ss.filter fun a => !a.le x) = ss :=
    hs.filter_append fun _ _ hab hb => Span.le_trans hab hb
  have hcuts := cuts_append (r := t.joins) (ss.filter fun a => a.le x) (ss.filter fun a => !a.le x)
  rw [hsplit] at hcuts
  rw [Span.place, cuts_append, List.head?_cons, cuts, hcuts]
  omega

end Placing

/-! ## The number of flows -/

/-- Two lists of records with the same keys have equally many flows if those
of one key are equally many and the other keys bring the same records. -/
theorem length_flows_eq_iff {t : Timeouts} {rs rs' : List Record} {k : Key}
    (hkeys : (keysOf rs).Perm (keysOf rs')) (hk : k ∈ keysOf rs)
    (hother : ∀ x ≠ k, (ofKey rs x).Perm (ofKey rs' x)) :
    (ofOrdered t rs).flows.length = (ofOrdered t rs').flows.length ↔
      (flowsOf t rs k).length = (flowsOf t rs' k).length := by
  have hsum : ∀ rs'' : List Record, (keysOf rs'').Perm (keysOf rs) →
      (ofOrdered t rs'').flows.length = (flowsOf t rs'' k).length +
        (((keysOf rs).erase k).map fun x => (flowsOf t rs'' x).length).sum := by
    intro rs'' hperm
    have hone := sum_flows_eq_add (fun _ => 1) t (hperm.trans (List.perm_cons_erase hk))
    simpa using hone
  -- for the other keys equal spans are enough, as the sort may still arrange ties differently
  have hrest : ((keysOf rs).erase k).map (fun x => (flowsOf t rs x).length) =
      ((keysOf rs).erase k).map fun x => (flowsOf t rs' x).length := by
    refine List.map_congr_left fun x hx => ?_
    have hne : x ≠ k := ((nodup_keysOf rs).mem_erase_iff.1 hx).1
    have hspans : (pieces rs x).map Record.span = (pieces rs' x).map Record.span :=
      map_span_pieces (sorted_pieces rs' x)
        (((hother x hne).trans (pieces_perm rs' x).symm).map _)
    have hchains := map_span_chains t rs x
    rw [hspans, ← map_span_chains] at hchains
    have hlength := congrArg List.length hchains
    rwa [List.length_map, List.length_map, ← length_flowsOf, ← length_flowsOf] at hlength
  rw [hsum rs (List.Perm.refl _), hsum rs' hkeys.symm, hrest]
  omega

/-- The last record of its key that comes no later than a record. -/
def before? (rs : List Record) (x : Record) : Option Record :=
  ((pieces rs x.key).filter fun a => spanLe a x).getLast?

/-- The first record of its key that comes later. -/
def after? (rs : List Record) (x : Record) : Option Record :=
  ((pieces rs x.key).filter fun a => !spanLe a x).head?

/-- **A record fits in** if it makes as many cuts with its two neighbours as
these make with each other. Where there is no neighbour there is no cut. -/
def Fits (t : Timeouts) (rs : List Record) (x : Record) : Prop :=
  seam (continues t) (before? rs x) (some x) + seam (continues t) (some x) (after? rs x) =
    seam (continues t) (before? rs x) (after? rs x)

instance (t : Timeouts) (rs : List Record) (x : Record) : Decidable (Fits t rs x) :=
  inferInstanceAs (Decidable (_ = _))

/-- Fitting in is a matter of spans. -/
theorem fits_iff {t : Timeouts} {rs : List Record} {x : Record} {ss : List Span}
    (hs : (pieces rs x.key).map Record.span = ss) :
    Fits t rs x ↔
      seam t.joins (ss.filter fun a => a.le x.span).getLast? (some x.span) +
          seam t.joins (some x.span) (ss.filter fun a => !a.le x.span).head? =
        seam t.joins (ss.filter fun a => a.le x.span).getLast?
          (ss.filter fun a => !a.le x.span).head? := by
  have hbefore : (ss.filter fun a => a.le x.span).getLast? = (before? rs x).map Record.span := by
    rw [← hs, List.filter_map, List.getLast?_map]
    rfl
  have hafter : (ss.filter fun a => !a.le x.span).head? = (after? rs x).map Record.span := by
    rw [← hs, List.filter_map, List.head?_map]
    rfl
  rw [hbefore, hafter, ← Option.map_some, seam_map (continues_eq t), seam_map (continues_eq t),
    seam_map (continues_eq t), Fits]

/-! ## Splitting a record -/

/-- A one-way record and the two records that an exporter reports in its place
when its active timeout expires. -/
structure ActiveSplit (t : Timeouts) where
  /-- The record as it would be reported without a timeout. -/
  whole : Record
  /-- The fragment up to the timeout. -/
  earlier : Record
  /-- The fragment after it. -/
  later : Record
  /-- The first fragment has the same key. -/
  key_earlier : earlier.key = whole.key
  /-- And so has the second. -/
  key_later : later.key = whole.key
  /-- None of them has a reverse side. -/
  oneWay : whole.reverse = none ∧ earlier.reverse = none ∧ later.reverse = none
  /-- The first fragment starts where the record does. -/
  start_eq : earlier.forward.start = whole.forward.start
  /-- The second fragment ends where the record does. -/
  finish_eq : later.forward.finish = whole.forward.finish
  /-- The first fragment lasts as long as the active timeout. -/
  reaches : t.active.ms ≤ earlier.forward.finish.ms - earlier.forward.start.ms
  /-- The second fragment comes after the first. -/
  pause : earlier.forward.finish ≤ later.forward.start
  /-- It does not end before it starts. -/
  ordered : later.forward.start ≤ later.forward.finish
  /-- The time between them is no longer than the inactive timeout. -/
  gap : later.forward.start.ms - earlier.forward.finish.ms ≤ t.inactive.ms
  /-- The fragments share the packets. -/
  packets : earlier.forward.packets.toNat + later.forward.packets.toNat =
    whole.forward.packets.toNat
  /-- The fragments share the bytes. -/
  bytes : earlier.forward.bytes.toNat + later.forward.bytes.toNat = whole.forward.bytes.toNat

namespace ActiveSplit

variable {t : Timeouts} (s : ActiveSplit t)

/-- The fragments add to packets and bytes what the record does. -/
theorem value_add {m : Measure} (hm : m ≠ .flows) :
    m.value s.earlier + m.value s.later = m.value s.whole := by
  obtain ⟨hw, he, hl⟩ := s.oneWay
  simp only [Measure.value, ← Counter.clamp_add]
  cases m with
  | packets => simp [Measure.count, hw, he, hl, s.packets]
  | bytes => simp [Measure.count, hw, he, hl, s.bytes]
  | flows => exact absurd rfl hm

/-- A one-way record has the span of its traffic. -/
theorem span_of_oneWay {r : Record} (h : r.reverse = none) :
    r.span = ⟨r.forward.start, r.forward.finish⟩ := by
  simp [Record.span, Record.spanStart, Record.spanEnd, h]

/-- A one-way record is ordered if its traffic is. -/
theorem isOrdered_of_oneWay {r : Record} (h : r.reverse = none) :
    r.isOrdered ↔ r.forward.start.ms ≤ r.forward.finish.ms := by
  simp [Record.isOrdered, Traffic.isOrdered, h, Millis.le_def]

/-- The record and its fragments are all ordered. -/
theorem isOrdered (ha : 0 < t.active.ms) :
    s.whole.isOrdered ∧ s.earlier.isOrdered ∧ s.later.isOrdered := by
  obtain ⟨hw, he, hl⟩ := s.oneWay
  have h₁ := s.reaches
  have h₂ := s.pause
  have h₃ := s.ordered
  rw [Millis.le_def] at h₂ h₃
  rw [isOrdered_of_oneWay hw, isOrdered_of_oneWay he, isOrdered_of_oneWay hl, ← s.start_eq,
    ← s.finish_eq]
  omega

/-- Beside the later fragment the earlier one is as good as the record. -/
theorem cuts_place_eq (ha : 0 < t.active.ms) {ss : List Span} (h : Span.Sorted ss) :
    cuts t.joins (Span.place s.whole.span (Span.place s.later.span ss)) =
      cuts t.joins (Span.place s.earlier.span (Span.place s.later.span ss)) := by
  obtain ⟨hw, he, hl⟩ := s.oneWay
  have hreach := s.reaches
  have hpause := s.pause
  have hstart := congrArg Millis.ms s.start_eq
  have hfinish := congrArg Millis.ms s.finish_eq
  have hordered := s.ordered
  rw [Millis.le_def] at hpause hordered
  have hmem : (⟨s.later.forward.start, s.later.forward.finish⟩ : Span) ∈
      Span.place s.later.span ss := by
    rw [span_of_oneWay hl, (Span.place_perm _ _).mem_iff]
    exact List.mem_cons_self
  rw [span_of_oneWay hw, span_of_oneWay he]
  refine cuts_place_bridge (Span.sorted_place _ h) hmem s.start_eq ?_ hreach ?_ ?_ hpause s.gap
  · simp only
    omega
  · simp only [Span.Forward]
    omega
  · simp only
    omega

variable {others whole split : List Record} (hw : whole.Perm (s.whole :: others))
  (hs : split.Perm (s.earlier :: s.later :: others))

include hw hs

/-- A dataset can be reconciled with the record if it can be with the fragments. -/
theorem forall_isOrdered_iff (ha : 0 < t.active.ms) :
    (∀ r ∈ whole, r.isOrdered) ↔ ∀ r ∈ split, r.isOrdered := by
  obtain ⟨h₁, h₂, h₃⟩ := s.isOrdered ha
  simp only [hw.mem_iff, hs.mem_iff, List.forall_mem_cons, h₁, h₂, h₃, true_and]

/-- **Packets and bytes do not tell the fragments from the record.** -/
theorem total_eq {m : Measure} (hm : m ≠ .flows) :
    m.total (ofOrdered t whole).flows = m.total (ofOrdered t split).flows := by
  have hconserve : ∀ rs : List Record, m.total (ofOrdered t rs).flows = m.total rs := by
    intro rs
    rw [Measure.total_eq_sum, Measure.total_eq_sum]
    exact sum_flows (fun a b _ => Measure.value_absorb hm a b) t rs
  rw [hconserve, hconserve, Measure.total_eq_sum, Measure.total_eq_sum, (hw.map _).sum_eq,
    (hs.map _).sum_eq]
  simp only [List.map_cons, List.sum_cons, ← s.value_add hm, add_assoc]

/-- **The number of flows is kept if and only if the later fragment fits in.** -/
theorem length_flows_eq_iff_fits (ha : 0 < t.active.ms) :
    (ofOrdered t whole).flows.length = (ofOrdered t split).flows.length ↔
      Fits t whole s.later := by
  have hkey : s.whole.key ∈ keysOf whole :=
    mem_keysOf.2 ⟨s.whole, hw.mem_iff.2 List.mem_cons_self, rfl⟩
  have hkeys : (keysOf whole).Perm (keysOf split) := by
    rw [List.perm_ext_iff_of_nodup (nodup_keysOf whole) (nodup_keysOf split)]
    intro k
    simp only [mem_keysOf, hw.mem_iff, hs.mem_iff, List.exists_mem_cons_iff, s.key_earlier,
      s.key_later]
    tauto
  have hother : ∀ x ≠ s.whole.key, (ofKey whole x).Perm (ofKey split x) := by
    intro x hx
    refine (hw.filter _).trans (List.Perm.trans ?_ (hs.filter _).symm)
    simp [s.key_earlier, s.key_later, hx.symm]
  rw [length_flows_eq_iff hkeys hkey hother]
  -- the spans of the key, with the record and with the fragments
  let O := (pieces others s.whole.key).map Record.span
  have hO : Span.Sorted O := sorted_pieces _ _
  have hwhole : (pieces whole s.whole.key).map Record.span = Span.place s.whole.span O :=
    map_span_pieces_cons hw rfl
  have hsplit : (pieces split s.whole.key).map Record.span =
      Span.place s.earlier.span (Span.place s.later.span O) := by
    rw [map_span_pieces_cons hs s.key_earlier, map_span_pieces_cons (.refl _) s.key_later]
  have hfits : Fits t whole s.later ↔ _ := fits_iff (by rw [s.key_later, hwhole])
  have hcuts := cuts_place (t := t) (Span.sorted_place s.whole.span hO) s.later.span
  rw [Span.place_comm hO, s.cuts_place_eq ha hO] at hcuts
  rw [length_flowsOf_eq hwhole (Span.place_ne_nil _ _),
    length_flowsOf_eq hsplit (Span.place_ne_nil _ _), hfits]
  omega

/-- **An active-timeout split is visible in the number of flows at most.**
Whatever else is in the dataset, it can be reconciled with the record if it can
be with the fragments, it has the same packets and bytes, and it has as many
flows if and only if the later fragment fits in. -/
theorem split_transparent (ha : 0 < t.active.ms) :
    (reconcile t whole).isOk = (reconcile t split).isOk ∧
      ∀ a b, reconcile t whole = .ok a → reconcile t split = .ok b →
        (∀ m : Measure, m ≠ .flows ∨ Fits t whole s.later →
          m.total a.flows = m.total b.flows) ∧
        (a.flows.length = b.flows.length ↔ Fits t whole s.later) := by
  have hfits := s.length_flows_eq_iff_fits hw hs ha
  refine ⟨?_, fun a b hwhole hsplit => ?_⟩
  · rw [Bool.eq_iff_iff, isOk_reconcile, isOk_reconcile]
    exact s.forall_isOrdered_iff hw hs ha
  · obtain ⟨-, rfl⟩ := reconcile_eq_ok.1 hwhole
    obtain ⟨-, rfl⟩ := reconcile_eq_ok.1 hsplit
    refine ⟨fun m hm => ?_, hfits⟩
    by_cases hflows : m = .flows
    · subst hflows
      rw [Measure.total, Measure.total, hfits.2 (hm.resolve_left fun h => h rfl)]
    · exact s.total_eq hw hs hflows

end ActiveSplit

section Sample

/-- A record of ten minutes. -/
def Sample.long : Record := Sample.record 0 600000 12

/-- It was cut after five minutes and has a short rest. -/
def Sample.split : ActiveSplit Sample.timeouts where
  whole := Sample.long
  earlier := Sample.record 0 300000 5
  later := Sample.record 300004 600000 7
  key_earlier := rfl
  key_later := rfl
  oneWay := ⟨rfl, rfl, rfl⟩
  start_eq := rfl
  finish_eq := rfl
  reaches := by decide
  pause := by decide
  ordered := by decide
  gap := by decide
  packets := by decide
  bytes := by decide

/-- A record that continues the long one. -/
def Sample.next : Record := Sample.record 610000 620000 1

/-- **A split can be visible.** The long record is continued by the next one, and
its rest is too short to be: one flow becomes two. -/
theorem exists_split_length_ne : ∃ (t : Timeouts) (s : ActiveSplit t) (others : List Record),
    0 < t.active.ms ∧ 0 ≤ t.inactive.ms ∧ s.whole.isOrdered ∧
      ∃ a b, reconcile t (s.whole :: others) = .ok a ∧
        reconcile t (s.earlier :: s.later :: others) = .ok b ∧
        Measure.flows.total a.flows ≠ Measure.flows.total b.flows := by
  refine ⟨Sample.timeouts, Sample.split, [Sample.next], by decide, by decide, by decide,
    _, _, reconcile_eq_ok.2 ⟨by decide, rfl⟩, reconcile_eq_ok.2 ⟨by decide, rfl⟩, ?_⟩
  rw [flows_of_sorted (k := Sample.key) (by simp) (by decide) (by decide),
    flows_of_sorted (k := Sample.key) (by simp) (by decide) (by decide)]
  decide

/-- A record after a longer silence. -/
def Sample.apart : Record := Sample.record 700000 800000 2

/-- Before such a record the split is not visible at all. -/
theorem split_transparent_sample : ∃ a b,
    reconcile Sample.timeouts [Sample.long, Sample.apart] = .ok a ∧
      reconcile Sample.timeouts [Sample.apart, Sample.split.later, Sample.split.earlier] = .ok b ∧
      ∀ m : Measure, m.total a.flows = m.total b.flows := by
  have hw : [Sample.long, Sample.apart].Perm [Sample.split.whole, Sample.apart] := .refl _
  have hs : [Sample.apart, Sample.split.later, Sample.split.earlier].Perm
      [Sample.split.earlier, Sample.split.later, Sample.apart] := by decide
  have ha := reconcile_eq_ok (t := Sample.timeouts).2
    ⟨(by decide : ∀ r ∈ [Sample.long, Sample.apart], r.isOrdered), rfl⟩
  have hb := reconcile_eq_ok (t := Sample.timeouts).2
    ⟨(by decide : ∀ r ∈ [Sample.apart, Sample.split.later, Sample.split.earlier], r.isOrdered),
      rfl⟩
  have hfits : Fits Sample.timeouts [Sample.long, Sample.apart] Sample.split.later := by
    rw [Fits, before?, after?, pieces_of_sorted (by decide) (by decide)]
    decide
  exact ⟨_, _, ha, hb, fun m =>
    ((Sample.split.split_transparent hw hs (by decide)).2 _ _ ha hb).1 m (Or.inr hfits)⟩

end Sample

end FlowParity
