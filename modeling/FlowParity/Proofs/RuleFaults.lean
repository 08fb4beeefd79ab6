import FlowParity.ExitCode
import FlowParity.Fault.Sources
import FlowParity.Proofs.RuleAgreement
/-!
# Faults of rules

A rule that makes no sense is found out in two places, when its rule file is checked and
when it is built and judged, and each place has faults of its own. Both end up as faults of
a run, and the category of that decides how the run ends.

What building and judging find always ends a run in the same way, as a fault of a rule.
What checking finds does so for a repeated measure alone: every other fault of a rule
counts as one of the configuration. So the two ways part, unless the check comes upon a
repeated measure before a number that is no tolerance (`exitCode_rule_faults`).
-/

namespace FlowParity

/-- How a run ends that is stopped by a fault. -/
def Fault.exitCode (fault : Fault) : ExitCode := .ofCategory fault.category

namespace Rule

/-- What stops the rule at a position, once its rule file is read: it cannot be built, or it
is built and cannot be judged. -/
inductive Rejected (index : Nat) (spec : RuleSpec) : RuleListFault → Prop
  /-- A number or a text of the rule stands for nothing. -/
  | unbuilt {fault : RuleFault} :
      ofSpec spec = .error fault → Rejected index spec ⟨index, label index spec.name, fault⟩
  /-- The rule that is built repeats a measure. -/
  | repeated {r : Rule} {m : Measure} :
      ofSpec spec = .ok r → r.repeatedMeasure? = some m →
        Rejected index spec ⟨index, label index r.name, .repeatedMeasure m⟩

/-! ## Where rejections come from -/

/-- What stops a list of rules from being built is a rejection of one of them. -/
theorem rejected_of_ofSpecs {index : Nat} {specs : List RuleSpec} {g : RuleListFault}
    (h : ofSpecs index specs = .error g) :
    ∃ i spec, specs[i]? = some spec ∧ Rejected (index + i) spec g := by
  induction specs generalizing index with
  | nil => cases h
  | cons spec rest ih =>
    rw [ofSpecs] at h
    cases hspec : ofSpec spec with
    | error fault =>
      rw [hspec] at h
      cases h
      exact ⟨0, spec, rfl, .unbuilt hspec⟩
    | ok r =>
      rw [hspec] at h
      rcases bind_eq_error.1 h with h | ⟨_, _, h⟩
      · cases h
      rcases bind_eq_error.1 h with hlater | ⟨_, _, h⟩
      · obtain ⟨i, spec', hspec', hrejected⟩ := ih hlater
        rw [Nat.add_assoc, Nat.add_comm 1] at hrejected
        exact ⟨i + 1, spec', hspec', hrejected⟩
      · cases h

/-- What stops the rules of a rule file from being built is a rejection of one of them. -/
theorem rejected_of_ofFile {f : RuleFile} {g : RuleListFault} (h : ofFile f = .error g) :
    ∃ i spec, f.rules[i]? = some spec ∧ Rejected i spec g := by
  obtain ⟨i, spec, hspec, hrejected⟩ := rejected_of_ofSpecs h
  rw [Nat.zero_add] at hrejected
  exact ⟨i, spec, hspec, hrejected⟩

/-- What stops the rules of a rule file from being judged is a rejection of one of them. -/
theorem rejected_of_judge {f : RuleFile} {rules : List Rule} {c : Comparison} {g : RuleListFault}
    (hrules : ofFile f = .ok rules) (h : c.judge rules = .error g) :
    ∃ i spec, f.rules[i]? = some spec ∧ Rejected i spec g := by
  rw [Comparison.judge_eq_error, Comparison.firstRepetition?] at h
  obtain ⟨⟨r, i⟩, hmem, hfault⟩ := List.exists_of_findSome?_eq_some h
  obtain ⟨m, hm, rfl⟩ := Option.map_eq_some_iff.1 hfault
  have hbuilt := ofSpecs_eq_ok.1 hrules
  have hr : rules[i]? = some r := List.mem_zipIdx_iff_getElem?.1 hmem
  obtain ⟨hi, rfl⟩ := List.getElem?_eq_some_iff.1 hr
  have hi' : i < f.rules.length := by
    rw [hbuilt.length_eq]
    exact hi
  have hspec : ofSpec f.rules[i] = .ok rules[i] := hbuilt.get hi' hi
  exact ⟨i, f.rules[i], List.getElem?_eq_getElem hi', .repeated hspec hm⟩

/-! ## What a rejection is about -/

variable {index : Nat} {spec : RuleSpec} {g : RuleListFault}

/-- Metrics cannot be built because of a number that is no tolerance, and of nothing else. -/
theorem mapM_metricOf_eq_error {specs : List MetricSpec} {fault : RuleFault}
    (h : specs.mapM metricOf = .error fault) : ∃ t, fault = .tolerance t := by
  induction specs with
  | nil => cases h
  | cons m rest ih =>
    rw [List.mapM_cons] at h
    rcases bind_eq_error.1 h with hm | ⟨_, _, h⟩
    · rw [metricOf] at hm
      split at hm
      · cases hm
      · cases hm
        exact ⟨_, rfl⟩
    rcases bind_eq_error.1 h with hrest | ⟨_, _, h⟩
    · exact ih hrest
    · cases h

/-- A bound cannot be built because its text is no instant. -/
theorem boundOf_eq_error {bound : Option InstantSpec} {fault : RuleFault}
    (h : boundOf bound = .error fault) : ∃ t, fault = .segment t := by
  match bound with
  | none => cases h
  | some text =>
    rw [boundOf] at h
    split at h
    · cases h
    · cases h
      exact ⟨_, rfl⟩

/-- A segment cannot be built because of its texts. -/
theorem segmentOf?_eq_error {segment : Option SegmentSpec} {fault : RuleFault}
    (h : segmentOf? segment = .error fault) : ∃ t, fault = .segment t := by
  match segment with
  | none => cases h
  | some (.subnet source target bothWays) =>
    rw [segmentOf?, segmentOf] at h
    split at h
    · cases h
    · cases h
      exact ⟨_, rfl⟩
  | some (.time start finish) =>
    rw [segmentOf?, segmentOf] at h
    rcases bind_eq_error.1 h with h | ⟨_, _, h⟩
    · rcases bind_eq_error.1 h with hs | ⟨_, _, h⟩
      · exact boundOf_eq_error hs
      rcases bind_eq_error.1 h with ht | ⟨_, _, h⟩
      · exact boundOf_eq_error ht
      · cases h
    · cases h

/-- **Why a rule cannot be built**: first of all because of a number that is no tolerance, and
if there is none because of its segment. -/
theorem ofSpec_eq_error {fault : RuleFault} (h : ofSpec spec = .error fault) :
    (∃ t, fault = .tolerance t) ∧ (¬ ∀ m ∈ spec.metrics, m.tolerance.isTolerance = true) ∨
      (∃ t, fault = .segment t) ∧ ∀ m ∈ spec.metrics, m.tolerance.isTolerance = true := by
  rw [← exists_mapM_metricOf]
  rcases bind_eq_error.1 h with hmetrics | ⟨metrics, hmetrics, h⟩
  · refine Or.inl ⟨mapM_metricOf_eq_error hmetrics, ?_⟩
    rintro ⟨metrics, hok⟩
    rw [hmetrics] at hok
    cases hok
  rcases bind_eq_error.1 h with hsegment | ⟨_, _, h⟩
  · exact Or.inr ⟨segmentOf?_eq_error hsegment, metrics, hmetrics⟩
  · cases h

/-- A rule that is built has tolerances only. -/
theorem forall_isTolerance_of_ofSpec {r : Rule} (h : ofSpec spec = .ok r) :
    ∀ m ∈ spec.metrics, m.tolerance.isTolerance = true :=
  exists_mapM_metricOf.1 ⟨r.metrics, mapM_metricOf_eq_ok.2 (ofSpec_eq_ok.1 h).1⟩

/-- **A rule is rejected for a number** exactly if one of its numbers is no tolerance. -/
theorem Rejected.tolerance_iff (h : Rejected index spec g) :
    (∃ t, g.fault = .tolerance t) ↔ ¬ ∀ m ∈ spec.metrics, m.tolerance.isTolerance = true := by
  cases h with
  | repeated hspec =>
    exact iff_of_false (by simp) (not_not_intro (forall_isTolerance_of_ofSpec hspec))
  | unbuilt hspec =>
    rcases ofSpec_eq_error hspec with ⟨hfault, hnot⟩ | ⟨⟨t, rfl⟩, hall⟩
    · exact iff_of_true hfault hnot
    · exact iff_of_false (by simp) (not_not_intro hall)

/-- A rule that is rejected for a repeated measure has tolerances only, so checking comes
upon the same measure. -/
theorem Rejected.of_repeatedMeasure (h : Rejected index spec g) {m : Measure}
    (hm : g.fault = .repeatedMeasure m) :
    repeatedAfter? [] (RuleSpec.checkedMeasures spec.metrics) = some m := by
  cases h with
  | unbuilt hspec =>
    rcases ofSpec_eq_error hspec with ⟨⟨t, rfl⟩, -⟩ | ⟨⟨t, rfl⟩, -⟩
    · cases hm
    · cases hm
  | repeated hspec hrepeated =>
    cases hm
    rw [repeatedMeasure?, firstRepeated?_eq, ← map_measure_toSpec,
      ← (ofSpec_eq_ok.1 hspec).1] at hrepeated
    rw [RuleSpec.checkedMeasures_of_forall (forall_isTolerance_of_ofSpec hspec)]
    exact hrepeated

end Rule

/-! ## How a run ends -/

/-- **A rejection always ends a run as a fault of a rule.** -/
theorem RuleListFault.exitCode_toFault (g : RuleListFault) : g.toFault.exitCode = .rule := by
  obtain ⟨index, rule, fault⟩ := g
  cases fault <;> rfl

/-- Its category is that of rules, unless it is about a number. -/
theorem RuleListFault.category_toFault (g : RuleListFault) :
    g.toFault.category = .rule ↔ ¬ ∃ t, g.fault = .tolerance t := by
  obtain ⟨index, rule, fault⟩ := g
  cases fault <;> simp [toFault, Fault.category]

/-- What checking finds is a fault of the configuration unless it is a repeated measure. -/
theorem RuleFileFault.category_toFault {f : RuleFileFault}
    (h : ∀ rule m, f ≠ .repeatedMeasure rule m) : f.toFault.category = .configuration := by
  cases f with
  | repeatedMeasure rule m => exact absurd rfl (h rule m)
  | _ => rfl

namespace RuleSpec

variable {index : Nat} {label : String} {spec : RuleSpec} {f : RuleFileFault}

theorem checkNetwork_ne_repeatedMeasure {side : Side} {text : Option String}
    (h : checkNetwork index side text = .error f) (rule : String) (m : Measure) :
    f ≠ .repeatedMeasure rule m := by
  rintro rfl
  cases text with
  | none => cases h
  | some text =>
    rw [checkNetwork] at h
    split at h <;> cases h

theorem checkInstant_ne_repeatedMeasure {bound : Bound} {text : Option InstantSpec}
    (h : checkInstant index bound text = .error f) (rule : String) (m : Measure) :
    f ≠ .repeatedMeasure rule m := by
  rintro rfl
  cases text with
  | none => cases h
  | some text =>
    rw [checkInstant] at h
    split at h <;> cases h

/-- No fault of a segment is about a measure. -/
theorem checkSegment_ne_repeatedMeasure {segment : Option SegmentSpec}
    (h : checkSegment index label segment = .error f) (rule : String) (m : Measure) :
    f ≠ .repeatedMeasure rule m := by
  match segment with
  | none => cases h
  | some (.subnet source target _) =>
    rcases bind_eq_error.1 h with hsource | ⟨_, _, htarget⟩
    · exact checkNetwork_ne_repeatedMeasure hsource rule m
    · exact checkNetwork_ne_repeatedMeasure htarget rule m
  | some (.time start finish) =>
    rcases bind_eq_error.1 h with hstart | ⟨s, -, h⟩
    · exact checkInstant_ne_repeatedMeasure hstart rule m
    rcases bind_eq_error.1 h with hfinish | ⟨t, -, h⟩
    · exact checkInstant_ne_repeatedMeasure hfinish rule m
    rintro rfl
    split at h
    · split at h <;> cases h
    · cases h

/-- **A check finds a repeated measure** exactly if one comes before any number that is no
tolerance. -/
theorem check_repeatedMeasure (h : spec.check index = .error f) :
    (∀ m, repeatedAfter? [] (checkedMeasures spec.metrics) = some m →
      f = .repeatedMeasure (spec.label index) m) ∧
    (repeatedAfter? [] (checkedMeasures spec.metrics) = none →
      ∀ rule m, f ≠ .repeatedMeasure rule m) := by
  cases hmetrics : spec.metrics with
  | nil =>
    simp only [check, hmetrics, List.isEmpty_nil, if_true] at h
    cases h
    simp [checkedMeasures, repeatedAfter?]
  | cons first rest =>
    simp only [check, hmetrics, List.isEmpty_cons] at h
    rw [← hmetrics] at h ⊢
    constructor
    · intro m hm
      rw [checkMetrics_of_repeated hm] at h
      cases h
      rfl
    · intro hnone
      rcases bind_eq_error.1 h with hcheck | ⟨_, _, hsegment⟩
      · rcases checkMetrics_of_not_repeated hnone with hok | ⟨i, x, hnumber⟩
        · rw [hok] at hcheck
          cases hcheck
        · rw [hnumber] at hcheck
          cases hcheck
          simp
      · exact checkSegment_ne_repeatedMeasure hsegment

end RuleSpec

/-- **One rule, two faults.** For every rule that is rejected and does not pass its check either:
- the rejection ends a run as a fault of a rule;
- what checking finds does so too exactly if a measure is repeated before any number that
  is no tolerance, and otherwise ends the run as a fault of the configuration;
- the categories are the same exactly if all numbers are tolerances and a measure is
  repeated;
- a rejection for a repeated measure is, as a fault of a run, the one that checking finds. -/
theorem exitCode_rule_faults {index : Nat} {spec : RuleSpec} {f : RuleFileFault}
    {g : RuleListFault} (hf : spec.check index = .error f) (hg : Rule.Rejected index spec g) :
    g.toFault.exitCode = .rule ∧
      f.toFault.exitCode =
        (if (RuleSpec.checkedMeasures spec.metrics).Nodup then .configuration else .rule) ∧
      (f.toFault.category = g.toFault.category ↔
        (∀ m ∈ spec.metrics, m.tolerance.isTolerance = true) ∧
          ¬ (spec.metrics.map MetricSpec.measure).Nodup) ∧
      ∀ m, g.fault = .repeatedMeasure m → f.toFault = g.toFault := by
  obtain ⟨hrepeated, hnone⟩ := RuleSpec.check_repeatedMeasure hf
  have hnodup : (RuleSpec.checkedMeasures spec.metrics).Nodup ↔
      repeatedAfter? [] (RuleSpec.checkedMeasures spec.metrics) = none := by
    rw [repeatedAfter?_eq_none]
    simp
  refine ⟨g.exitCode_toFault, ?_, ?_, ?_⟩
  · cases h : repeatedAfter? [] (RuleSpec.checkedMeasures spec.metrics) with
    | none =>
      rw [if_pos (hnodup.2 h), Fault.exitCode, RuleFileFault.category_toFault (hnone h)]
      rfl
    | some m =>
      rw [if_neg (by simp [hnodup, h]), hrepeated m h]
      rfl
  · constructor
    · intro hcategory
      cases h : repeatedAfter? [] (RuleSpec.checkedMeasures spec.metrics) with
      | none =>
        rw [RuleFileFault.category_toFault (hnone h)] at hcategory
        -- no rejection has the category of the configuration
        have hexit := g.exitCode_toFault
        rw [Fault.exitCode, ← hcategory] at hexit
        cases hexit
      | some m =>
        rw [hrepeated m h] at hcategory
        have hall := of_not_not (mt hg.tolerance_iff.2 (g.category_toFault.1 hcategory.symm))
        rw [← RuleSpec.checkedMeasures_of_forall hall, hnodup, h]
        exact ⟨hall, by simp⟩
    · rintro ⟨hall, hnot⟩
      rw [← RuleSpec.checkedMeasures_of_forall hall, hnodup] at hnot
      obtain ⟨m, hm⟩ := Option.ne_none_iff_exists'.1 hnot
      rw [hrepeated m hm, g.category_toFault.2 (mt hg.tolerance_iff.1 (not_not_intro hall))]
      rfl
  · intro m hm
    rw [hrepeated m (hg.of_repeatedMeasure hm)]
    obtain ⟨i, rule, fault⟩ := g
    cases hm
    rfl

namespace Sample

/-- The number one and a half. -/
def overOne : Binary64 := .ofBits 4609434218613702656

/-- A rule that asks for nothing but packets, within a number that is no tolerance. -/
def loose : RuleSpec := ⟨none, [⟨.packets, overOne⟩], none⟩

/-- A rule that repeats packets before a number that is no tolerance. -/
def twice : RuleSpec := ⟨none, [⟨.packets, .zero⟩, ⟨.packets, .one⟩, ⟨.bytes, overOne⟩], none⟩

end Sample

/-- **The two ways to find out about a rule can part**: a number that is no tolerance is a fault
of the configuration to one, and a fault of the rule to the other. -/
theorem exists_exitCode_ne :
    ∃ (index : Nat) (spec : RuleSpec) (f : RuleFileFault) (g : RuleListFault),
      spec.check index = .error f ∧ Rule.Rejected index spec g ∧
        f.toFault.exitCode ≠ g.toFault.exitCode := by
  refine ⟨0, Sample.loose, .tolerance 0 0 Sample.overOne,
    ⟨0, Rule.label 0 none, .tolerance ⟨.packets, Sample.overOne⟩⟩, ?_, .unbuilt ?_, ?_⟩
  · decide +kernel
  · decide +kernel
  · decide

/-- A rule with both defects ends a run alike either way, for different reasons. -/
theorem exitCode_rule_faults_sample :
    ∃ f g, Sample.twice.check 4 = .error f ∧ Rule.Rejected 4 Sample.twice g ∧
      f.toFault.exitCode = g.toFault.exitCode ∧ f.toFault.category ≠ g.toFault.category := by
  have hcheck : Sample.twice.check 4 = .error (.repeatedMeasure "rule #5" .packets) := by
    decide +kernel
  have hrejected : Rule.Rejected 4 Sample.twice
      ⟨4, Rule.label 4 none, .tolerance ⟨.bytes, Sample.overOne⟩⟩ :=
    .unbuilt (by decide +kernel)
  obtain ⟨hrule, hexit, hcategory, -⟩ := exitCode_rule_faults hcheck hrejected
  refine ⟨_, _, hcheck, hrejected, ?_, ?_⟩
  · rw [hrule, hexit]
    decide +kernel
  · rw [ne_eq, hcategory]
    decide +kernel

end FlowParity
