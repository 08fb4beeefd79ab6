import FlowParity.Proofs.Judging
import FlowParity.Proofs.Repetition
/-!
# Checking and building rules

A rule file is gone through twice. Checking it (`RuleFile.check`) says whether it can be
used; building its rules (`Rule.ofFile`) and its settings turns it into what a comparison
is judged by. Nothing is shared between the two: each looks at the tolerances, networks
and instants by itself.

They agree (`check_iff_rule`): a rule passes its check exactly if it can be built and what
is built **makes sense**, that is, asks for something, for nothing twice, and not about a
window that ends before it starts. So a rule file that passes always comes to a report.
-/

namespace FlowParity

/-! ## Metrics -/

/-- A metric as it stands in a rule file. -/
def Metric.toSpec (m : Metric) : MetricSpec := ⟨m.measure, m.tolerance⟩

namespace Rule

theorem metricOf_eq_ok {spec : MetricSpec} {m : Metric} :
    metricOf spec = .ok m ↔ spec = m.toSpec := by
  obtain ⟨measure, tolerance⟩ := spec
  rw [metricOf, Metric.of]
  by_cases htolerance : tolerance.isTolerance = true
  · rw [dif_pos htolerance]
    obtain ⟨measure', tolerance', h⟩ := m
    simp [Metric.toSpec]
  · rw [dif_neg htolerance]
    constructor
    · intro h
      cases h
    · intro h
      obtain ⟨-, rfl⟩ := MetricSpec.mk.inj h
      exact absurd m.isTolerance htolerance

/-- The metrics that are built are those that are written. -/
theorem mapM_metricOf_eq_ok {specs : List MetricSpec} {metrics : List Metric} :
    specs.mapM metricOf = .ok metrics ↔ specs = metrics.map Metric.toSpec := by
  rw [mapM_eq_ok]
  simp only [metricOf_eq_ok]
  rw [← List.forall₂_map_right_iff, List.forall₂_eq_eq_eq]

/-- They can be built if all their numbers are tolerances. -/
theorem exists_mapM_metricOf {specs : List MetricSpec} :
    (∃ metrics, specs.mapM metricOf = .ok metrics) ↔
      ∀ m ∈ specs, m.tolerance.isTolerance = true := by
  simp only [mapM_metricOf_eq_ok]
  constructor
  · rintro ⟨metrics, rfl⟩ m hm
    obtain ⟨metric, -, rfl⟩ := List.mem_map.1 hm
    exact metric.isTolerance
  · intro h
    refine ⟨specs.pmap (fun m hm => ⟨m.measure, m.tolerance, hm⟩) h, ?_⟩
    rw [List.map_pmap]
    simp [Metric.toSpec]

end Rule

/-! ## Segments -/

namespace RuleSpec

variable {index : Nat} {label : String}

/-- A side is checked by naming its network. -/
theorem checkNetwork_eq_ok {side : Side} {text : Option String} :
    checkNetwork index side text = .ok () ↔ ∃ n, SubnetPair.side? text = .ok n := by
  unfold checkNetwork SubnetPair.side?
  cases text with
  | none => simp
  | some text => cases hnetwork : Network.parse text <;> simp [hnetwork]

/-- A bound is checked by naming its instant. -/
theorem checkInstant_eq_ok {bound : Bound} {spec : Option InstantSpec} {t : Option Timestamp} :
    checkInstant index bound spec = .ok t ↔ Rule.boundOf spec = .ok t := by
  cases spec with
  | none => simp [checkInstant, Rule.boundOf]
  | some spec =>
    rw [checkInstant, Rule.boundOf]
    cases spec.resolve <;> simp

/-- A window whose bounds are instants is checked by comparing them. -/
theorem checkSegment_time {start finish : Option InstantSpec} {s t : Option Timestamp}
    (hs : Rule.boundOf start = .ok s) (ht : Rule.boundOf finish = .ok t) :
    checkSegment index label (some (.time start finish)) = .ok () ↔
      ∀ a b, s = some a → t = some b → a ≤ b := by
  rw [checkSegment, checkInstant_eq_ok.2 hs, checkInstant_eq_ok.2 ht]
  cases s with
  | none => simp [bind, Except.bind]
  | some a =>
    cases t with
    | none => simp [bind, Except.bind]
    | some b =>
      have hnot : ¬ b < a ↔ a ≤ b := by
        rw [Millis.lt_def, Millis.le_def]
        omega
      show (if b < a then Except.error (RuleFileFault.reversedWindow label a b) else .ok ()) =
        .ok () ↔ _
      by_cases h : b < a
      · simp [h, ← hnot]
      · simp [h, hnot.1 h]

/-- **A segment passes its check** if it can be built and is no window that ends before it
starts. -/
theorem checkSegment_eq_ok {spec : Option SegmentSpec} :
    checkSegment index label spec = .ok () ↔ ∃ segment, Rule.segmentOf? spec = .ok segment ∧
      ∀ a b, segment = some (.time ⟨some a, some b⟩) → a ≤ b := by
  match spec with
  | none => simp [checkSegment, Rule.segmentOf?]
  | some (.subnet source target bothWays) =>
    rw [checkSegment, check_bind_eq_ok, checkNetwork_eq_ok, checkNetwork_eq_ok]
    simp only [Rule.segmentOf?, bind_eq_ok]
    constructor
    · rintro ⟨⟨s, hs⟩, t, ht⟩
      have hpair : Rule.segmentOf (.subnet source target bothWays) =
          .ok (.subnet ⟨s, t, bothWays⟩) := by
        rw [Rule.segmentOf, SubnetPair.parse, hs, ht]
        rfl
      refine ⟨_, ⟨_, hpair, rfl⟩, ?_⟩
      intro a b h
      cases h
    · rintro ⟨-, ⟨segment, hsegment, -⟩, -⟩
      rw [Rule.segmentOf] at hsegment
      split at hsegment
      · rename_i pair hpair
        simp only [SubnetPair.parse, bind_eq_ok] at hpair
        obtain ⟨s, hs, t, ht, -⟩ := hpair
        exact ⟨⟨s, hs⟩, t, ht⟩
      · cases hsegment
  | some (.time start finish) =>
    have htime : ∀ segment, Rule.segmentOf? (some (.time start finish)) = .ok segment ↔
        ∃ s, Rule.boundOf start = .ok s ∧ ∃ t, Rule.boundOf finish = .ok t ∧
          segment = some (.time ⟨s, t⟩) := by
      intro segment
      simp only [Rule.segmentOf?, Rule.segmentOf, bind_eq_ok, pure, Except.pure, Except.ok.injEq]
      constructor
      · rintro ⟨_, ⟨s, hs, t, ht, rfl⟩, rfl⟩
        exact ⟨s, hs, t, ht, rfl⟩
      · rintro ⟨s, hs, t, ht, rfl⟩
        exact ⟨_, ⟨s, hs, t, ht, rfl⟩, rfl⟩
    constructor
    · intro h
      have hbounds := h
      simp only [checkSegment, bind_eq_ok, checkInstant_eq_ok] at hbounds
      obtain ⟨s, hs, t, ht, -⟩ := hbounds
      refine ⟨_, (htime _).2 ⟨s, hs, t, ht, rfl⟩, ?_⟩
      intro a b heq
      obtain ⟨rfl, rfl⟩ : s = some a ∧ t = some b := by simpa using heq
      exact (checkSegment_time hs ht).1 h a b rfl rfl
    · rintro ⟨segment, hsegment, hle⟩
      obtain ⟨s, hs, t, ht, rfl⟩ := (htime _).1 hsegment
      refine (checkSegment_time hs ht).2 ?_
      rintro a b rfl rfl
      exact hle a b rfl

end RuleSpec

/-! ## Rules -/

/-- A rule **makes sense** if it asks for something, for nothing twice, and not about a
window that ends before it starts. -/
structure Rule.MakesSense (r : Rule) : Prop where
  /-- There is a metric. -/
  asks : r.metrics ≠ []
  /-- No measure is repeated. -/
  once : r.repeatedMeasure? = none
  /-- A window with both bounds does not end before it starts. -/
  forward : ∀ start finish, r.segment = some (.time ⟨some start, some finish⟩) → start ≤ finish

namespace Rule

/-- A rule is built from its metrics and its segment. -/
theorem ofSpec_eq_ok {spec : RuleSpec} {r : Rule} :
    ofSpec spec = .ok r ↔ spec.metrics = r.metrics.map Metric.toSpec ∧
      segmentOf? spec.segment = .ok r.segment ∧ r.name = spec.name := by
  simp only [ofSpec, bind_eq_ok, mapM_metricOf_eq_ok, pure, Except.pure, Except.ok.injEq]
  constructor
  · rintro ⟨metrics, hmetrics, segment, hsegment, rfl⟩
    exact ⟨hmetrics, hsegment, rfl⟩
  · rintro ⟨hmetrics, hsegment, hname⟩
    refine ⟨r.metrics, hmetrics, r.segment, hsegment, ?_⟩
    rw [← hname]

/-- What is written of the metrics of a rule gives its measures. -/
theorem map_measure_toSpec (metrics : List Metric) :
    (metrics.map Metric.toSpec).map MetricSpec.measure = metrics.map Metric.measure := by
  rw [List.map_map]
  rfl

end Rule

/-- **A rule passes its check** exactly if it can be built and makes sense. -/
theorem RuleSpec.check_eq_ok {index : Nat} {spec : RuleSpec} :
    spec.check index = .ok () ↔ ∃ r, Rule.ofSpec spec = .ok r ∧ r.MakesSense := by
  have hcheck : spec.check index = .ok () ↔ spec.metrics ≠ [] ∧
      checkMetrics index (spec.label index) [] 0 spec.metrics = .ok () ∧
      checkSegment index (spec.label index) spec.segment = .ok () := by
    cases hmetrics : spec.metrics with
    | nil => simp [check, hmetrics, bind, Except.bind]
    | cons m rest => simp [check, hmetrics, check_bind_eq_ok]
  rw [hcheck, checkMetrics_eq_ok, checkSegment_eq_ok, ← Rule.exists_mapM_metricOf]
  simp only [Rule.mapM_metricOf_eq_ok, Rule.ofSpec_eq_ok]
  constructor
  · rintro ⟨hne, ⟨⟨metrics, hmetrics⟩, hrepeat⟩, segment, hsegment, hforward⟩
    refine ⟨⟨metrics, segment, spec.name⟩, ⟨hmetrics, hsegment, rfl⟩, ?_, ?_, hforward⟩
    · rintro rfl
      exact hne hmetrics
    · rw [hmetrics, Rule.map_measure_toSpec, ← Rule.firstRepeated?_eq] at hrepeat
      exact hrepeat
  · rintro ⟨r, ⟨hmetrics, hsegment, -⟩, hasks, honce, hforward⟩
    refine ⟨?_, ⟨⟨r.metrics, hmetrics⟩, ?_⟩, r.segment, hsegment, hforward⟩
    · rw [hmetrics]
      exact fun h => hasks (List.map_eq_nil_iff.1 h)
    · rw [hmetrics, Rule.map_measure_toSpec, ← Rule.firstRepeated?_eq]
      exact honce

/-! ## Rule files -/

theorem Settings.check_eq_ok {s : Settings} : s.check = .ok () ↔ s.active.toNat ≠ 0 := by
  rw [check]
  split <;> simp [*]

/-- Settings can be resolved if the start time is an instant and the active timeout is not
zero. -/
theorem Settings.exists_resolve_none {m : ModelSpec} :
    (∃ s, resolve m .none = .ok s) ↔
      (∃ start, startTimeOf m = .ok start) ∧ ∀ seconds ∈ m.active, seconds.toNat ≠ 0 := by
  have hactive : ((first none m.active).getD defaultActive).toNat ≠ 0 ↔
      ∀ seconds ∈ m.active, seconds.toNat ≠ 0 := by
    cases m.active with
    | none => simp [first, defaultActive]
    | some seconds => simp [first]
  rw [← hactive]
  constructor
  · rintro ⟨s, hs⟩
    obtain ⟨start, hstart, hrest⟩ := bind_eq_ok.1 hs
    exact ⟨⟨start, hstart⟩, check_eq_ok.1 (check_bind_eq_ok.1 hrest).1⟩
  · rintro ⟨⟨start, hstart⟩, hpositive⟩
    exact ⟨_, bind_eq_ok.2 ⟨start, hstart, check_bind_eq_ok.2 ⟨check_eq_ok.2 hpositive, rfl⟩⟩⟩

/-- **The settings of a rule file pass their check** exactly if they can be resolved. -/
theorem RuleFile.checkModel_eq_ok {m : ModelSpec} :
    checkModel m = .ok () ↔ ∃ s, Settings.resolve m .none = .ok s := by
  have hactive : ((if m.active.any fun seconds => seconds.toNat = 0 then
        .error .zeroActiveTimeout else .ok () : Except RuleFileFault Unit) = .ok ()) ↔
      ∀ seconds ∈ m.active, seconds.toNat ≠ 0 := by
    cases m.active with
    | none => simp
    | some seconds => simp
  rw [Settings.exists_resolve_none, ← hactive, checkModel, Settings.startTimeOf]
  cases m.startTime with
  | none => simp
  | some spec => cases hspec : spec.resolve <;> simp [hspec]

namespace Rule

/-- The rules of a list are built one by one, in order. -/
theorem ofSpecs_eq_ok {index : Nat} {specs : List RuleSpec} {rules : List Rule} :
    ofSpecs index specs = .ok rules ↔
      List.Forall₂ (fun spec r => ofSpec spec = .ok r) specs rules := by
  induction specs generalizing index rules with
  | nil => simp [ofSpecs, eq_comm]
  | cons spec rest ih =>
    rw [ofSpecs, List.forall₂_cons_left_iff]
    cases hspec : ofSpec spec with
    | error fault => simp [bind, Except.bind]
    | ok r =>
      simp only [bind_eq_ok, ih, pure, Except.pure, Except.ok.injEq]
      constructor
      · rintro ⟨_, rfl, later, hlater, rfl⟩
        exact ⟨r, later, rfl, hlater, rfl⟩
      · rintro ⟨_, later, rfl, hlater, rfl⟩
        exact ⟨r, rfl, later, hlater, rfl⟩

end Rule

/-- The rules of a rule file pass if each can be built and makes sense. -/
theorem RuleFile.checkRules_eq_ok {index : Nat} {specs : List RuleSpec} :
    checkRules index specs = .ok () ↔ ∃ rules,
      List.Forall₂ (fun spec r => Rule.ofSpec spec = .ok r) specs rules ∧
        ∀ r ∈ rules, r.MakesSense := by
  induction specs generalizing index with
  | nil => exact iff_of_true rfl ⟨[], .nil, by simp⟩
  | cons spec rest ih =>
    rw [checkRules, check_bind_eq_ok, RuleSpec.check_eq_ok, ih]
    constructor
    · rintro ⟨⟨r, hr, hsense⟩, rules, hrules, hall⟩
      exact ⟨r :: rules, .cons hr hrules, List.forall_mem_cons.2 ⟨hsense, hall⟩⟩
    · rintro ⟨rules, hrules, hall⟩
      obtain ⟨r, later, hr, hlater, rfl⟩ := List.forall₂_cons_left_iff.1 hrules
      obtain ⟨hsense, hall⟩ := List.forall_mem_cons.1 hall
      exact ⟨⟨r, hr, hsense⟩, later, hlater, hall⟩

/-- **A rule file passes its check** if its settings do, and it has rules, and all of them do. -/
theorem RuleFile.check_eq_ok {f : RuleFile} :
    f.check = .ok () ↔
      checkModel f.model = .ok () ∧ f.rules ≠ [] ∧ checkRules 0 f.rules = .ok () := by
  rw [check, check_bind_eq_ok]
  cases f.rules with
  | nil => simp [bind, Except.bind]
  | cons spec rest => simp

namespace Comparison

/-- No rule is faulty if none repeats a measure. -/
theorem firstRepetition?_eq_none {rules : List Rule} :
    firstRepetition? rules = none ↔ ∀ r ∈ rules, r.repeatedMeasure? = none := by
  rw [firstRepetition?, List.findSome?_eq_none_iff]
  constructor
  · intro h r hr
    obtain ⟨i, hi⟩ := List.mem_iff_getElem?.1 hr
    have hmem : (r, i) ∈ rules.zipIdx := List.mem_zipIdx_iff_getElem?.2 hi
    simpa using h (r, i) hmem
  · rintro h ⟨r, i⟩ hmem
    have hr : r ∈ rules := List.mem_of_getElem? (List.mem_zipIdx_iff_getElem?.1 hmem)
    simp [h r hr]

/-- The outcomes of rules that were built from a rule file are about the metrics listed in
it, one for one and in order. -/
theorem map_toSpec_outcomes (c : Comparison) {specs : List RuleSpec} {rules : List Rule}
    (h : List.Forall₂ (fun spec r => Rule.ofSpec spec = .ok r) specs rules) :
    (rules.flatMap c.outcomes).map (fun o => o.metric.toSpec) =
      specs.flatMap RuleSpec.metrics := by
  induction h with
  | nil => rfl
  | @cons spec r specs rules hr _ ih =>
    have hmetrics := (Rule.ofSpec_eq_ok.1 hr).1
    rw [List.flatMap_cons, List.flatMap_cons, List.map_append, ih, hmetrics, outcomes,
      List.map_map]
    rfl

end Comparison

/-- **Checking and building agree.** A rule passes its check, at any position, exactly if it
can be built and makes sense. And if a whole rule file passes, then its settings resolve, its
rules are built, one for each rule that is written and in their order, and every comparison
judges them: with one outcome for each metric that is listed, and never with a fault. -/
theorem check_iff_rule :
    (∀ (index : Nat) (spec : RuleSpec),
      spec.check index = .ok () ↔ ∃ r, Rule.ofSpec spec = .ok r ∧ r.MakesSense) ∧
    ∀ f : RuleFile, f.check = .ok () → ∃ s rules,
      Settings.resolve f.model .none = .ok s ∧ Rule.ofFile f = .ok rules ∧
      List.Forall₂ (fun spec r => Rule.ofSpec spec = .ok r) f.rules rules ∧
      ∀ c : Comparison, ∃ report, c.judge rules = .ok report ∧
        report.outcomes = rules.flatMap c.outcomes ∧
        report.outcomes.map (fun o => o.metric.toSpec) = f.rules.flatMap RuleSpec.metrics := by
  refine ⟨fun index spec => RuleSpec.check_eq_ok, ?_⟩
  intro f hf
  obtain ⟨hmodel, -, hrules⟩ := RuleFile.check_eq_ok.1 hf
  obtain ⟨s, hs⟩ := RuleFile.checkModel_eq_ok.1 hmodel
  obtain ⟨rules, hbuilt, hsense⟩ := RuleFile.checkRules_eq_ok.1 hrules
  refine ⟨s, rules, hs, Rule.ofSpecs_eq_ok.2 hbuilt, hbuilt, ?_⟩
  intro c
  have hfaultless : Comparison.firstRepetition? rules = none :=
    Comparison.firstRepetition?_eq_none.2 fun r hr => (hsense r hr).once
  refine ⟨_, Comparison.judge_eq_ok.2 ⟨hfaultless, rfl⟩, ?_, ?_⟩
  · exact (Comparison.outcomes_eq_map c rules).symm
  · rw [← Comparison.outcomes_eq_map]
    exact Comparison.map_toSpec_outcomes c hbuilt

namespace Sample

/-- A rule file about a pair of networks and a window whose bounds are written differently. -/
def ruleFile : RuleFile where
  model := ⟨some ⟨120, by decide⟩, none, some (.text "1970-01-01T00:00:01Z"), none⟩
  rules := [
    ⟨some "inside", [⟨.bytes, .one⟩, ⟨.packets, .zero⟩],
      some (.subnet (some "10.0.0.7/24") none true)⟩,
    ⟨none, [⟨.flows, .zero⟩], some (.time (some (.text "-5.9")) (some (.millis .zero)))⟩]

end Sample

/-- The sample passes, and has three outcomes. -/
theorem check_iff_rule_sample :
    Sample.ruleFile.check = .ok () ∧ ∃ rules, Rule.ofFile Sample.ruleFile = .ok rules ∧
      ∀ c : Comparison, ∃ report, c.judge rules = .ok report ∧ report.outcomes.length = 3 := by
  have hcheck : Sample.ruleFile.check = .ok () := by decide +kernel
  refine ⟨hcheck, ?_⟩
  obtain ⟨-, rules, -, hrules, -, hjudge⟩ := check_iff_rule.2 Sample.ruleFile hcheck
  refine ⟨rules, hrules, ?_⟩
  intro c
  obtain ⟨report, hreport, -, hmetrics⟩ := hjudge c
  have hlength := congrArg List.length hmetrics
  rw [List.length_map] at hlength
  exact ⟨report, hreport, hlength⟩

end FlowParity
