import FlowParity.Compare.Rule
import FlowParity.RuleFile.Check
import Mathlib.Data.List.TakeWhile
/-!
# Repeated measures

A rule asks for a measure once. Where rules are judged, each metric is compared with
all the metrics before it (`Rule.firstRepeated?`); where a rule file is checked, the
measures seen so far are kept and grow metric by metric. `repeatedAfter?` is the search
of the second kind by itself, and both searches find the same measure
(`firstRepeated?_eq`).

Checking a rule file looks for numbers that are no tolerances in the same pass, so a
repetition after such a number is not reported. What is reported of the metrics is
settled by the measures before the first of these numbers (`checkedMeasures`).
-/

namespace FlowParity

/-! ## The search that remembers -/

/-- The first of some measures that has been seen before, among those already `seen` or
earlier in the list. -/
def repeatedAfter? (seen : List Measure) : List Measure → Option Measure
  | [] => none
  | m :: rest => if m ∈ seen then some m else repeatedAfter? (m :: seen) rest

/-- Nothing is repeated exactly if the measures are new and pairwise different. -/
theorem repeatedAfter?_eq_none {seen measures : List Measure} :
    repeatedAfter? seen measures = none ↔ measures.Nodup ∧ ∀ m ∈ measures, m ∉ seen := by
  induction measures generalizing seen with
  | nil => simp [repeatedAfter?]
  | cons m rest ih =>
    rw [repeatedAfter?]
    by_cases hm : m ∈ seen
    · simp [hm]
    · rw [if_neg hm, ih, List.nodup_cons]
      constructor
      · rintro ⟨hnodup, hnew⟩
        have hrest : m ∉ rest := fun hmem => hnew m hmem List.mem_cons_self
        refine ⟨⟨hrest, hnodup⟩, ?_⟩
        intro m' hm'
        rcases List.mem_cons.1 hm' with rfl | hm'
        · exact hm
        · exact fun hseen => hnew m' hm' (List.mem_cons_of_mem m hseen)
      · rintro ⟨⟨hrest, hnodup⟩, hnew⟩
        refine ⟨hnodup, ?_⟩
        intro m' hm' hseen
        rcases List.mem_cons.1 hseen with rfl | hseen
        · exact hrest hm'
        · exact hnew m' (List.mem_cons_of_mem m hm') hseen

namespace Rule

/-- Looking back from each metric finds what the search that remembers finds: what it
remembers are the metrics that are looked back at. -/
theorem findSome?_lookBack (before rest : List Measure) :
    (rest.zipIdx before.length).findSome?
        (fun (m, i) => if m ∈ (before ++ rest).take i then some m else none) =
      repeatedAfter? before.reverse rest := by
  induction rest generalizing before with
  | nil => rfl
  | cons m rest ih =>
    rw [List.zipIdx_cons, List.findSome?_cons, repeatedAfter?]
    simp only [List.take_left, List.mem_reverse]
    by_cases hm : m ∈ before
    · rw [if_pos hm, if_pos hm]
    · have hlater := ih (before ++ [m])
      rw [List.length_append, List.length_singleton, List.append_assoc, List.singleton_append,
        List.reverse_append, List.reverse_singleton, List.singleton_append] at hlater
      rw [if_neg hm, if_neg hm]
      exact hlater

/-- **Both searches for a repeated measure find the same one.** -/
theorem firstRepeated?_eq (measures : List Measure) :
    firstRepeated? measures = repeatedAfter? [] measures :=
  findSome?_lookBack [] measures

end Rule

/-! ## The search among numbers -/

namespace RuleSpec

/-- The measures of the metrics before the first number that is no tolerance. -/
def checkedMeasures (metrics : List MetricSpec) : List Measure :=
  (metrics.takeWhile fun m => m.tolerance.isTolerance).map MetricSpec.measure

theorem checkedMeasures_cons_of_pos {m : MetricSpec} (h : m.tolerance.isTolerance = true)
    (rest : List MetricSpec) : checkedMeasures (m :: rest) = m.measure :: checkedMeasures rest := by
  simp [checkedMeasures, h]

theorem checkedMeasures_cons_of_neg {m : MetricSpec} (h : m.tolerance.isTolerance = false)
    (rest : List MetricSpec) : checkedMeasures (m :: rest) = [] := by
  simp [checkedMeasures, h]

theorem checkedMeasures_of_forall {metrics : List MetricSpec}
    (h : ∀ m ∈ metrics, m.tolerance.isTolerance = true) :
    checkedMeasures metrics = metrics.map MetricSpec.measure := by
  rw [checkedMeasures, List.takeWhile_eq_self_iff.2 h]

variable {index position : Nat} {label : String} {seen : List Measure} {metrics : List MetricSpec}

/-- The metrics pass if every number is a tolerance and no measure has been seen before. -/
theorem checkMetrics_eq_ok :
    checkMetrics index label seen position metrics = .ok () ↔
      (∀ m ∈ metrics, m.tolerance.isTolerance = true) ∧
        repeatedAfter? seen (metrics.map MetricSpec.measure) = none := by
  induction metrics generalizing seen position with
  | nil => simp [checkMetrics, repeatedAfter?]
  | cons m rest ih =>
    rw [checkMetrics, List.map_cons, repeatedAfter?, List.forall_mem_cons]
    cases htolerance : m.tolerance.isTolerance with
    | false => simp
    | true =>
      by_cases hseen : m.measure ∈ seen
      · simp [hseen]
      · simpa [hseen] using ih

/-- **A repetition is reported** if it comes before any number that is no tolerance. -/
theorem checkMetrics_of_repeated {m : Measure}
    (h : repeatedAfter? seen (checkedMeasures metrics) = some m) :
    checkMetrics index label seen position metrics = .error (.repeatedMeasure label m) := by
  induction metrics generalizing seen position with
  | nil => cases h
  | cons first rest ih =>
    rw [checkMetrics]
    cases htolerance : first.tolerance.isTolerance with
    | false =>
      rw [checkedMeasures_cons_of_neg htolerance] at h
      cases h
    | true =>
      rw [checkedMeasures_cons_of_pos htolerance, repeatedAfter?] at h
      by_cases hseen : first.measure ∈ seen
      · rw [if_pos hseen] at h
        obtain rfl := Option.some.inj h
        simp [hseen]
      · rw [if_neg hseen] at h
        simpa [hseen] using ih h

/-- Without such a repetition the metrics pass, or the fault is a number that is no tolerance. -/
theorem checkMetrics_of_not_repeated
    (h : repeatedAfter? seen (checkedMeasures metrics) = none) :
    checkMetrics index label seen position metrics = .ok () ∨
      ∃ i x, checkMetrics index label seen position metrics = .error (.tolerance index i x) := by
  induction metrics generalizing seen position with
  | nil => exact Or.inl rfl
  | cons first rest ih =>
    rw [checkMetrics]
    cases htolerance : first.tolerance.isTolerance with
    | false => exact Or.inr ⟨position, first.tolerance, rfl⟩
    | true =>
      rw [checkedMeasures_cons_of_pos htolerance, repeatedAfter?] at h
      by_cases hseen : first.measure ∈ seen
      · rw [if_pos hseen] at h
        cases h
      · rw [if_neg hseen] at h
        simpa [hseen] using ih h

end RuleSpec

end FlowParity
