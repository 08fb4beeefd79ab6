import FlowParity.Proofs.Conservation
import FlowParity.Proofs.Judging
import FlowParity.Proofs.Ties
/-!
# The order of the rows

How far a comparison depends on the order in which the records of its datasets
were listed. It can be made in one order if it can in another, the same rules are
faulty, and every total that is `OrderFree` is the same (`judge_perm`): all
numbers of flows, all packets and bytes of the whole traffic or between networks,
and those in a window of time as long as ties agree. Where they do not, the order
shows: `exists_judge_ne`.

The number of flows and their spans depend on the spans of the records alone. The
packets and bytes of a pair of networks are those of its records, by conservation.
A window of time looks at the spans of flows and adds up what they bring, and
`entries_flowsOf_perm` says when these two together stay as they were.
-/

namespace FlowParity

open Reconciliation

section Totals

variable {t : Timeouts} {m : Measure} {rs rs' : List Record}

/-- What can be read off the flows of each key in any order can be read off all of them. -/
theorem map_flows_perm {β : Type} {u : Record → β} (h : rs.Perm rs')
    (hkey : ∀ k, ((flowsOf t rs k).map u).Perm ((flowsOf t rs' k).map u)) :
    ((ofOrdered t rs).flows.map u).Perm ((ofOrdered t rs').flows.map u) := by
  rw [flows_ofOrdered, flows_ofOrdered, List.map_flatMap, List.map_flatMap]
  exact (keysOf_perm h).flatMap fun k _ => hkey k

/-- **The number of flows and their spans do not depend on the order of the records.** -/
theorem flows_entries_flowsOf_perm (h : rs.Perm rs') (k : Key) :
    ((flowsOf t rs k).map Measure.flows.entry).Perm
      ((flowsOf t rs' k).map Measure.flows.entry) := by
  have hentry : Measure.flows.entry = (fun s => (s, Counter.clamp 1)) ∘ Record.span := rfl
  rw [hentry, ← List.map_map, ← List.map_map, map_span_flowsOf, map_span_flowsOf,
    map_span_chains_perm h]

/-- A record with a key and a span that counts nothing. -/
def Record.outline (k : Key) (s : Span) : Record :=
  ⟨k, ⟨s.start, s.finish, .zero, .zero⟩, none⟩

/-- Segments look at the outline of a record only. -/
theorem Segment.matchesRecord_outline (segment : Segment) (r : Record) :
    segment.matchesRecord (.outline r.key r.span) = segment.matchesRecord r := by
  cases segment <;> rfl

/-- Flows with the same entries have the same total over any segment. -/
theorem total_select_flows_congr (segment : Option Segment) (h : rs.Perm rs')
    (hentries : ∀ k, ((flowsOf t rs k).map m.entry).Perm ((flowsOf t rs' k).map m.entry)) :
    m.total (Segment.select segment (ofOrdered t rs).flows) =
      m.total (Segment.select segment (ofOrdered t rs').flows) := by
  rw [total_select, total_select]
  refine (map_flows_perm h fun k => ?_).sum_eq
  -- what a flow adds is read off its entry
  have hread : ∀ rs'' : List Record, (flowsOf t rs'' k).map (fun r =>
      if segment.all (·.matchesRecord r) then m.value r else 0) =
        ((flowsOf t rs'' k).map m.entry).map fun e =>
          if segment.all (·.matchesRecord (.outline k e.1)) then e.2 else 0 := by
    intro rs''
    rw [List.map_map]
    refine List.map_congr_left fun f hf => ?_
    rw [← key_of_mem_flowsOf hf]
    simp only [Function.comp_apply, Measure.entry, Segment.matchesRecord_outline]
  rw [hread rs, hread rs']
  exact (hentries k).map _

/-- **The order of the records cannot tell** on the total of a measure over a
segment. For packets and bytes in a window of time ties have to agree; all else
is free. -/
def OrderFree (t : Timeouts) (rs : List Record) (m : Measure) : Option Segment → Prop
  | some (.time _) => m = .flows ∨ TiesAgree t m rs
  | _ => True

theorem orderFree_flows (hm : m = .flows) {segment : Option Segment} :
    OrderFree t rs m segment := by
  match segment with
  | none => trivial
  | some (.subnet _) => trivial
  | some (.time _) => exact Or.inl hm

/-- **Where the order cannot tell, it does not.** -/
theorem total_select_perm (hordered : ∀ r ∈ rs, r.isOrdered) (h : rs.Perm rs')
    {segment : Option Segment} (hfree : OrderFree t rs m segment) :
    m.total (Segment.select segment (ofOrdered t rs).flows) =
      m.total (Segment.select segment (ofOrdered t rs').flows) := by
  by_cases hm : m = .flows
  · subst hm
    exact total_select_flows_congr segment h (flows_entries_flowsOf_perm h)
  have hconserved : ∀ pair : Option SubnetPair,
      m.total (Segment.select (pair.map .subnet) (ofOrdered t rs).flows) =
        m.total (Segment.select (pair.map .subnet) (ofOrdered t rs').flows) := by
    intro pair
    rw [total_select_flows hm, total_select_flows hm, total_select, total_select]
    exact (h.map _).sum_eq
  match segment, hfree with
  | none, _ => exact hconserved none
  | some (.subnet pair), _ => exact hconserved (some pair)
  | some (.time w), hfree =>
    exact total_select_flows_congr _ h
      (entries_flowsOf_perm hm hordered (hfree.resolve_left hm) h)

end Totals

/-! ## Datasets and comparisons -/

namespace Dataset

theorem moved_perm {offset : Option Millis} {rs rs' : List Record} (h : rs.Perm rs') :
    (moved offset rs).Perm (moved offset rs') := by
  cases offset with
  | none => exact h
  | some d => exact h.map _

/-- A total that the order cannot tell on is the same for rows in another order. -/
theorem total_perm {role : Role} {t : Timeouts} {offset : Option Millis} {rs rs' : List Record}
    {d d' : Dataset} (h : rs.Perm rs') (hd : ofRecords role t offset rs = .ok d)
    (hd' : ofRecords role t offset rs' = .ok d') {m : Measure} {segment : Option Segment}
    (hfree : OrderFree t (moved offset rs) m segment) :
    d'.total m segment = d.total m segment := by
  obtain ⟨hordered, rfl⟩ := ofRecords_eq_ok.1 hd
  obtain ⟨-, rfl⟩ := ofRecords_eq_ok.1 hd'
  exact (total_select_perm hordered (moved_perm h) hfree).symm

end Dataset

/-- **Two outcomes say the same** of datasets in different orders: they answer one
request, and where the order cannot tell the totals are the same. -/
structure Outcome.SameUpToOrder (t : Timeouts) (candidate reference : List Record)
    (o o' : Outcome) : Prop where
  /-- The metric is the same. -/
  metric : o'.metric = o.metric
  /-- So is the segment. -/
  segment : o'.segment = o.segment
  /-- The candidate totals are the same. -/
  value : OrderFree t candidate o.metric.measure o.segment → o'.value = o.value
  /-- The reference totals are the same. -/
  reference : OrderFree t reference o.metric.measure o.segment → o'.reference = o.reference

/-- Where the order cannot tell on either side, the outcomes are equal. -/
theorem Outcome.SameUpToOrder.eq {t : Timeouts} {candidate reference : List Record}
    {o o' : Outcome} (h : o.SameUpToOrder t candidate reference o')
    (hc : OrderFree t candidate o.metric.measure o.segment)
    (hr : OrderFree t reference o.metric.measure o.segment) : o' = o := by
  obtain ⟨metric, segment, value, total⟩ := o'
  obtain ⟨hmetric, hsegment, hvalue, htotal⟩ := h
  simp only at hmetric hsegment hvalue htotal
  rw [hmetric, hsegment, hvalue hc, htotal hr]

section Comparing

variable {s : Settings} {candidate candidate' reference reference' : List Record}
  {c c' : Comparison} (hc : candidate.Perm candidate') (hr : reference.Perm reference')

include hc hr

/-- Whether a comparison can be made does not depend on the order of the rows. -/
theorem isOk_ofRecords_perm : (Comparison.ofRecords s candidate reference).isOk =
    (Comparison.ofRecords s candidate' reference').isOk := by
  rw [Bool.eq_iff_iff, isOk_iff, isOk_iff, Comparison.exists_ofRecords_eq_ok,
    Comparison.exists_ofRecords_eq_ok]
  simp only [(Dataset.moved_perm hc).mem_iff, (Dataset.moved_perm hr).mem_iff]

/-- What one request is answered. -/
theorem outcome_perm (h : Comparison.ofRecords s candidate reference = .ok c)
    (h' : Comparison.ofRecords s candidate' reference' = .ok c') (segment : Option Segment)
    (metric : Metric) :
    (c.outcome segment metric).SameUpToOrder s.timeouts
      (Dataset.moved s.candidateOffset candidate) (Dataset.moved s.referenceOffset reference)
      (c'.outcome segment metric) := by
  obtain ⟨-, d, e, hd, he, rfl⟩ := Comparison.ofRecords_eq_ok.1 h
  obtain ⟨-, d', e', hd', he', rfl⟩ := Comparison.ofRecords_eq_ok.1 h'
  exact ⟨rfl, rfl, Dataset.total_perm hc hd hd', Dataset.total_perm hr he he'⟩

/-- **The order of the rows never matters but to ties.** With the rows of both
datasets in another order a comparison can be made if it could be before, the
same rule is faulty, and outcome by outcome the report says the same up to
order. Where the order cannot tell on any outcome, the reports are equal. -/
theorem judge_perm :
    (Comparison.ofRecords s candidate reference).isOk =
        (Comparison.ofRecords s candidate' reference').isOk ∧
      ∀ c c', Comparison.ofRecords s candidate reference = .ok c →
        Comparison.ofRecords s candidate' reference' = .ok c' → ∀ rules,
        (∀ fault, c.judge rules = .error fault → c'.judge rules = .error fault) ∧
        ∀ report, c.judge rules = .ok report → ∃ report', c'.judge rules = .ok report' ∧
          List.Forall₂ (Outcome.SameUpToOrder s.timeouts
            (Dataset.moved s.candidateOffset candidate)
            (Dataset.moved s.referenceOffset reference)) report.outcomes report'.outcomes ∧
          ((∀ o ∈ report.outcomes,
            OrderFree s.timeouts (Dataset.moved s.candidateOffset candidate)
              o.metric.measure o.segment ∧
            OrderFree s.timeouts (Dataset.moved s.referenceOffset reference)
              o.metric.measure o.segment) → report' = report) := by
  refine ⟨isOk_ofRecords_perm hc hr, fun c c' h h' rules => ⟨fun fault hfault => ?_,
    fun report hreport => ?_⟩⟩
  · rw [Comparison.judge_eq_error] at hfault ⊢
    exact hfault
  · obtain ⟨hrules, rfl⟩ := Comparison.judge_eq_ok.1 hreport
    refine ⟨_, Comparison.judge_eq_ok.2 ⟨hrules, rfl⟩, ?_, fun hfree => ?_⟩
    · rw [List.forall₂_map_left_iff, List.forall₂_map_right_iff, List.forall₂_same]
      exact fun q _ => outcome_perm hc hr h h' q.1 q.2
    · simp only [List.forall_mem_map] at hfree
      refine congrArg Report.mk (List.map_congr_left fun q hq => ?_)
      exact (outcome_perm hc hr h h' q.1 q.2).eq (hfree q hq).1 (hfree q hq).2

end Comparing

namespace Sample

/-- A record that was cut off, and two that could continue it, listed in either order. -/
def tied (first second : Nat) : List Record :=
  [record 0 300000 1, record 300000 300010 first, record 300000 300010 second]

/-- The comparison of tied records in one order with those in the other. -/
def tiedComparison (first second : Nat) : Comparison where
  candidate := ⟨.candidate, none, 3, (ofOrdered timeouts (tied first second)).flows,
    (ofOrdered timeouts (tied first second)).statistics⟩
  reference := ⟨.reference, none, 3, (ofOrdered timeouts (tied 20 10)).flows,
    (ofOrdered timeouts (tied 20 10)).statistics⟩
  settings := .default

/-- The packets from the instant of the cut on. -/
def lateRule : Rule where
  metrics := [⟨.packets, .zero, by decide⟩]
  segment := some (.time ⟨some (.ofInt 300000), none⟩)
  name := none

end Sample

/-- **The order of the rows can matter.** Of two records that tie the one that is
listed first continues an earlier flow and leaves the window with it. -/
theorem exists_judge_ne :
    ∃ (s : Settings) (candidate candidate' reference reference' : List Record)
      (c c' : Comparison) (rules : List Rule),
      candidate.Perm candidate' ∧ reference.Perm reference' ∧
        Comparison.ofRecords s candidate reference = .ok c ∧
        Comparison.ofRecords s candidate' reference' = .ok c' ∧
        c.judge rules ≠ c'.judge rules := by
  have hok : ∀ first second, (∀ r ∈ Sample.tied first second, r.isOrdered) →
      Comparison.ofRecords .default (Sample.tied first second) (Sample.tied 20 10) =
        .ok (Sample.tiedComparison first second) := fun first second hordered =>
    Comparison.ofRecords_eq_ok.2 ⟨rfl, _, _, Dataset.ofRecords_eq_ok.2 ⟨hordered, rfl⟩,
      Dataset.ofRecords_eq_ok.2 ⟨by decide, rfl⟩, rfl⟩
  have hjudge : ∀ c : Comparison, c.judge [Sample.lateRule] =
      .ok ⟨[c.outcome Sample.lateRule.segment ⟨.packets, .zero, by decide⟩]⟩ := fun c =>
    Comparison.judge_eq_ok.2 ⟨rfl, rfl⟩
  refine ⟨.default, Sample.tied 10 20, Sample.tied 20 10, Sample.tied 20 10, Sample.tied 20 10,
    _, _, [Sample.lateRule], by decide, .refl _, hok 10 20 (by decide), hok 20 10 (by decide),
    fun heq => ?_⟩
  rw [hjudge, hjudge] at heq
  have hvalue := congrArg Outcome.value (List.cons.inj (Report.mk.inj (Except.ok.inj heq))).1
  simp only [Comparison.outcome, Dataset.total, Sample.tiedComparison] at hvalue
  rw [flows_of_sorted (k := Sample.key) (by simp [Sample.tied]) (by decide) (by decide),
    flows_of_sorted (k := Sample.key) (by simp [Sample.tied]) (by decide) (by decide)] at hvalue
  revert hvalue
  decide

/-- Rules that ask for flows only are answered alike for the tied records in either order. -/
theorem judge_perm_sample :
    ∃ c c', Comparison.ofRecords .default (Sample.tied 10 20) (Sample.tied 20 10) = .ok c ∧
      Comparison.ofRecords .default (Sample.tied 20 10) (Sample.tied 10 20) = .ok c' ∧
      ∀ rules report, c.judge rules = .ok report →
        (∀ o ∈ report.outcomes, o.metric.measure = .flows) → c'.judge rules = .ok report := by
  have hperm : (Sample.tied 10 20).Perm (Sample.tied 20 10) := by decide
  have hok : ∃ c, Comparison.ofRecords .default (Sample.tied 10 20) (Sample.tied 20 10) = .ok c :=
    Comparison.exists_ofRecords_eq_ok.2 ⟨rfl, by decide, by decide⟩
  have hok' : ∃ c, Comparison.ofRecords .default (Sample.tied 20 10) (Sample.tied 10 20) = .ok c :=
    Comparison.exists_ofRecords_eq_ok.2 ⟨rfl, by decide, by decide⟩
  obtain ⟨c, hc⟩ := hok
  obtain ⟨c', hc'⟩ := hok'
  refine ⟨c, c', hc, hc', fun rules report hreport hflows => ?_⟩
  obtain ⟨-, hjudge⟩ := (judge_perm hperm hperm.symm).2 c c' hc hc' rules
  obtain ⟨report', hreport', -, heq⟩ := hjudge report hreport
  rw [hreport', heq fun o ho => ⟨orderFree_flows (hflows o ho), orderFree_flows (hflows o ho)⟩]

end FlowParity
