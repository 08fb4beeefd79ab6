import FlowParity.Proofs.RuleAgreement
/-!
# Batches of rules

A list of rules is judged as a whole or not at all. The rules are looked through before any
is judged, so what comes back is either the first rule that repeats a measure, and then
nothing has been judged, or a report that has an outcome for each metric. Judging keeps
nothing from one rule to the next, so the report on two lists in a row is the two reports in
a row (`judge_append`).

A report is asked for a measure over a segment. Several rules may ask for the same, but the
totals depend on nothing else, so it does not matter which of their outcomes is found
(`find?_of_asks`).
-/

namespace FlowParity

/-! ## Rules that repeat a measure -/

/-- A measure that is found again occurs twice, or has been seen before. -/
theorem two_le_count_of_repeatedAfter? {seen measures : List Measure} {m : Measure}
    (h : repeatedAfter? seen measures = some m) : 2 ≤ (seen ++ measures).count m := by
  induction measures generalizing seen with
  | nil => cases h
  | cons first rest ih =>
    rw [repeatedAfter?] at h
    by_cases hseen : first ∈ seen
    · rw [if_pos hseen] at h
      obtain rfl := Option.some.inj h
      have hbefore : 0 < seen.count first := List.count_pos_iff.2 hseen
      rw [List.count_append, List.count_cons_self]
      omega
    · rw [if_neg hseen] at h
      have hcount := ih h
      rw [List.cons_append, List.perm_middle.symm.count_eq] at hcount
      exact hcount

namespace Rule

/-- A rule **repeats** a measure if two of its metrics, at least, are about it. -/
def Repeats (r : Rule) (m : Measure) : Prop :=
  2 ≤ (r.metrics.map Metric.measure).count m

instance (r : Rule) (m : Measure) : Decidable (r.Repeats m) :=
  inferInstanceAs (Decidable (2 ≤ _))

/-- The measure that is found is a repeated one. -/
theorem repeats_of_repeatedMeasure? {r : Rule} {m : Measure} (h : r.repeatedMeasure? = some m) :
    r.Repeats m := by
  rw [repeatedMeasure?, firstRepeated?_eq] at h
  exact two_le_count_of_repeatedAfter? h

/-- None is found only where there is none. -/
theorem repeatedMeasure?_eq_none {r : Rule} :
    r.repeatedMeasure? = none ↔ ∀ m, ¬ r.Repeats m := by
  rw [repeatedMeasure?, firstRepeated?_eq, repeatedAfter?_eq_none, List.nodup_iff_count_le_one]
  simp only [Repeats, List.not_mem_nil, not_false_eq_true, implies_true, and_true]
  exact forall_congr' fun m => by omega

end Rule

namespace Comparison

variable {c : Comparison} {rules later : List Rule} {report report' : Report}

/-- **The fault of a list of rules** is about the first of them that repeats a measure. -/
theorem firstRepetition?_eq_some {fault : RuleListFault} :
    firstRepetition? rules = some fault ↔
      ∃ r m, rules[fault.index]? = some r ∧ r.repeatedMeasure? = some m ∧
        fault = ⟨fault.index, Rule.label fault.index r.name, .repeatedMeasure m⟩ ∧
        ∀ j < fault.index, ∀ r', rules[j]? = some r' → r'.repeatedMeasure? = none := by
  simp only [firstRepetition?, findSome?_zipIdx_eq_some, Nat.zero_add, Option.map_eq_some_iff,
    Option.map_eq_none_iff]
  constructor
  · rintro ⟨i, r, hr, ⟨m, hm, rfl⟩, hbefore⟩
    exact ⟨r, m, hr, hm, rfl, hbefore⟩
  · rintro ⟨r, m, hr, hm, hfault, hbefore⟩
    exact ⟨fault.index, r, hr, ⟨m, hm, hfault.symm⟩, hbefore⟩

/-- A list is refused exactly if one of its rules repeats a measure. -/
theorem exists_judge_eq_error :
    (∃ fault, c.judge rules = .error fault) ↔ ∃ r ∈ rules, ∃ m, r.Repeats m := by
  simp only [judge_eq_error, ← Option.ne_none_iff_exists', ne_eq, firstRepetition?_eq_none,
    Rule.repeatedMeasure?_eq_none]
  push Not
  rfl

/-! ## Two lists in a row -/

theorem requests_append (rules later : List Rule) :
    requests (rules ++ later) = requests rules ++ requests later :=
  List.flatMap_append

theorem length_requests (rules : List Rule) :
    (requests rules).length = (rules.map fun r => r.metrics.length).sum := by
  simp [requests, List.length_flatMap]

/-- **Judging keeps nothing from one rule to the next.** -/
theorem judge_append (h : c.judge rules = .ok report) (h' : c.judge later = .ok report') :
    c.judge (rules ++ later) = .ok ⟨report.outcomes ++ report'.outcomes⟩ := by
  obtain ⟨hrules, rfl⟩ := judge_eq_ok.1 h
  obtain ⟨hlater, rfl⟩ := judge_eq_ok.1 h'
  refine judge_eq_ok.2 ⟨?_, ?_⟩
  · rw [firstRepetition?_eq_none] at hrules hlater ⊢
    intro r hr
    exact (List.mem_append.1 hr).elim (hrules r) (hlater r)
  · rw [requests_append, List.map_append]

/-! ## What a report is asked for -/

/-- Whether a rule asks for a measure over a segment. -/
def Asks (rules : List Rule) (measure : Measure) (segment : Option Segment) : Prop :=
  ∃ r ∈ rules, r.segment = segment ∧ ∃ metric ∈ r.metrics, metric.measure = measure

/-- What is asked for is in the report. -/
theorem asks_iff {measure : Measure} {segment : Option Segment} :
    Asks rules measure segment ↔ ∃ q ∈ requests rules, q.2.measure = measure ∧ q.1 = segment := by
  simp only [Asks, requests, List.mem_flatMap, List.mem_map]
  constructor
  · rintro ⟨r, hr, rfl, metric, hmetric, rfl⟩
    exact ⟨_, ⟨r, hr, metric, hmetric, rfl⟩, rfl, rfl⟩
  · rintro ⟨_, ⟨r, hr, metric, hmetric, rfl⟩, rfl, rfl⟩
    exact ⟨r, hr, rfl, metric, hmetric, rfl⟩

/-- **What is found tells the totals** of the measure over the segment, whichever rule has
asked for it. -/
theorem find?_of_asks (h : c.judge rules = .ok report) {measure : Measure}
    {segment : Option Segment} (hasks : Asks rules measure segment) :
    ∃ metric, metric.measure = measure ∧ report.find? measure segment =
      some ⟨metric, segment, c.candidate.total measure segment,
        c.reference.total measure segment⟩ := by
  obtain ⟨-, rfl⟩ := judge_eq_ok.1 h
  obtain ⟨q, hq, hmeasure, hsegment⟩ := asks_iff.1 hasks
  have hsome : ((requests rules).map fun q => c.outcome q.1 q.2).find?
      (fun o => o.metric.measure = measure && o.segment = segment) ≠ none := by
    rw [ne_eq, List.find?_eq_none]
    intro hnone
    refine hnone _ (List.mem_map_of_mem hq) ?_
    simp [outcome, hmeasure, hsegment]
  obtain ⟨o, ho⟩ := Option.ne_none_iff_exists'.1 hsome
  obtain ⟨⟨segment', metric⟩, -, rfl⟩ := List.mem_map.1 (List.mem_of_find?_eq_some ho)
  obtain ⟨rfl, rfl⟩ : metric.measure = measure ∧ segment' = segment := by
    have hfound := List.find?_some ho
    rw [Bool.and_eq_true, decide_eq_true_eq, decide_eq_true_eq] at hfound
    exact hfound
  exact ⟨metric, rfl, ho⟩

/-- What no rule asks for is not found. -/
theorem find?_of_not_asks (h : c.judge rules = .ok report) {measure : Measure}
    {segment : Option Segment} (hasks : ¬ Asks rules measure segment) :
    report.find? measure segment = none := by
  obtain ⟨-, rfl⟩ := judge_eq_ok.1 h
  rw [Report.find?, List.find?_eq_none]
  intro o ho hfound
  obtain ⟨q, hq, rfl⟩ := List.mem_map.1 ho
  obtain ⟨hmeasure, hsegment⟩ : q.2.measure = measure ∧ q.1 = segment := by
    rw [Bool.and_eq_true, decide_eq_true_eq, decide_eq_true_eq] at hfound
    exact hfound
  exact hasks (asks_iff.2 ⟨q, hq, hmeasure, hsegment⟩)

/-! ## Batches -/

/-- **Batches of rules are judged as a whole, and one by one.** For every comparison and list of
rules:
- the list is refused exactly if one of its rules repeats a measure;
- then the fault is at the first such rule and names a measure that this rule repeats, and
  neither a report nor any sign of judging comes with it;
- otherwise the report has one outcome for each metric, rule by rule, with the totals of
  both sides; the report on two lists in a row is the two reports in a row; and a measure
  over a segment is found with its totals if some rule asks for just that, and not
  otherwise. -/
theorem judge_batch (c : Comparison) (rules : List Rule) :
    ((∃ fault, c.judge rules = .error fault) ↔ ∃ r ∈ rules, ∃ m, r.Repeats m) ∧
    (∀ fault, c.judge rules = .error fault →
      (∃ r m, rules[fault.index]? = some r ∧ r.Repeats m ∧
        fault = ⟨fault.index, Rule.label fault.index r.name, .repeatedMeasure m⟩ ∧
        ∀ j < fault.index, ∀ r', rules[j]? = some r' → ∀ m', ¬ r'.Repeats m') ∧
      c.report rules = ⟨[], .error (.rule fault)⟩) ∧
    ∀ report, c.judge rules = .ok report →
      report.outcomes = rules.flatMap (fun r => r.metrics.map fun metric =>
        ⟨metric, r.segment, c.candidate.total metric.measure r.segment,
          c.reference.total metric.measure r.segment⟩) ∧
      report.outcomes.length = (rules.map fun r => r.metrics.length).sum ∧
      (∀ later report', c.judge later = .ok report' →
        c.judge (rules ++ later) = .ok ⟨report.outcomes ++ report'.outcomes⟩) ∧
      ∀ measure segment,
        (Asks rules measure segment → ∃ metric, metric.measure = measure ∧
          report.find? measure segment = some ⟨metric, segment,
            c.candidate.total measure segment, c.reference.total measure segment⟩) ∧
        (¬ Asks rules measure segment → report.find? measure segment = none) := by
  refine ⟨exists_judge_eq_error, ?_, ?_⟩
  · intro fault hfault
    refine ⟨?_, ?_⟩
    · obtain ⟨r, m, hr, hm, heq, hbefore⟩ :=
        firstRepetition?_eq_some.1 (judge_eq_error.1 hfault)
      refine ⟨r, m, hr, Rule.repeats_of_repeatedMeasure? hm, heq, ?_⟩
      intro j hj r' hr'
      exact Rule.repeatedMeasure?_eq_none.1 (hbefore j hj r' hr')
    · rw [Comparison.report, hfault]
  · intro report hreport
    have houtcomes := (judge_eq_ok.1 hreport).2
    refine ⟨?_, ?_, ?_, ?_⟩
    · rw [houtcomes, ← outcomes_eq_map]
      rfl
    · rw [houtcomes, List.length_map, length_requests]
    · intro later report' hreport'
      exact judge_append hreport hreport'
    · intro measure segment
      exact ⟨find?_of_asks hreport, find?_of_not_asks hreport⟩

end Comparison

namespace Sample

/-- The comparison of five packets with seven. -/
def unequal : Comparison where
  candidate := ⟨.candidate, none, 1, [record 0 1000 5], ⟨1, 1, 0, 1, 1⟩⟩
  reference := ⟨.reference, none, 1, [record 0 1000 7], ⟨1, 1, 0, 1, 1⟩⟩
  settings := .default

/-- All time, which is a segment too. -/
def allTime : Segment := .time ⟨none, none⟩

/-- A rule that asks for packets and bytes. -/
def counts (segment : Option Segment) : Rule :=
  ⟨[⟨.packets, .zero, Binary64.isTolerance_zero⟩, ⟨.bytes, .zero, Binary64.isTolerance_zero⟩],
    segment, none⟩

/-- A rule that asks for packets twice. -/
def doubled : Rule :=
  ⟨[⟨.packets, .zero, Binary64.isTolerance_zero⟩, ⟨.packets, .zero, Binary64.isTolerance_zero⟩],
    none, none⟩

end Sample

/-- Packets over all time are found with the totals of all time, packets without a segment are
not found, and one more rule that repeats a measure leaves no report. -/
theorem judge_batch_sample :
    ∃ report, Sample.unequal.judge [Sample.counts (some Sample.allTime)] = .ok report ∧
      (∃ metric, metric.measure = .packets ∧ report.find? .packets (some Sample.allTime) =
        some ⟨metric, some Sample.allTime, .clamp 5, .clamp 7⟩) ∧
      report.find? .packets none = none ∧
      ∃ fault, Sample.unequal.judge
          [Sample.counts (some Sample.allTime), Sample.doubled] = .error fault := by
  obtain ⟨hrefused, -, -⟩ := Comparison.judge_batch Sample.unequal
    [Sample.counts (some Sample.allTime), Sample.doubled]
  obtain ⟨-, -, hjudged⟩ := Comparison.judge_batch Sample.unequal
    [Sample.counts (some Sample.allTime)]
  have hreport : Sample.unequal.judge [Sample.counts (some Sample.allTime)] =
      .ok ⟨Sample.unequal.outcomes (Sample.counts (some Sample.allTime))⟩ := rfl
  obtain ⟨-, -, -, hfind⟩ := hjudged _ hreport
  refine ⟨_, hreport, ?_, ?_, ?_⟩
  · exact (hfind .packets (some Sample.allTime)).1
      ⟨_, List.mem_cons_self, rfl, _, List.mem_cons_self, rfl⟩
  · refine (hfind .packets none).2 ?_
    rintro ⟨r, hr, hsegment, -⟩
    rw [List.mem_singleton.1 hr] at hsegment
    cases hsegment
  · exact hrefused.2 ⟨Sample.doubled, by simp, .packets, by decide⟩

end FlowParity
