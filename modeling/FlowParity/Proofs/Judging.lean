import FlowParity.Compare.Comparison
import FlowParity.Proofs.Grouping
import FlowParity.Proofs.Results
/-!
# Judging

What a comparison is made of and what it answers. It can be made if the settings
make sense and all records are ordered once they are moved
(`Comparison.exists_ofRecords_eq_ok`). Then a list of rules is either faulty, which does not
depend on the datasets, or the report answers every request in order
(`Comparison.judge_eq_ok`).
-/

namespace FlowParity

open Reconciliation

/-- Zero is a tolerance. -/
theorem Binary64.isTolerance_zero : zero.isTolerance = true := by decide +kernel

namespace Dataset

/-- **The dataset of records that are ordered once they are moved.** -/
theorem ofRecords_eq_ok {role : Role} {t : Timeouts} {offset : Option Millis}
    {rs : List Record} {d : Dataset} :
    ofRecords role t offset rs = .ok d ↔ (∀ r ∈ moved offset rs, r.isOrdered) ∧
      d = ⟨role, none, rs.length, (ofOrdered t (moved offset rs)).flows,
        (ofOrdered t (moved offset rs)).statistics⟩ := by
  rw [ofRecords]
  constructor
  · intro h
    split at h
    · rename_i r hr
      obtain ⟨hordered, rfl⟩ := reconcile_eq_ok.1 hr
      exact ⟨hordered, (Except.ok.inj h).symm⟩
    · cases h
  · rintro ⟨hordered, rfl⟩
    rw [reconcile_eq_ok.2 ⟨hordered, rfl⟩]

end Dataset

namespace Comparison

/-- **A comparison is made of two datasets under settings that make sense.** -/
theorem ofRecords_eq_ok {s : Settings} {candidate reference : List Record} {c : Comparison} :
    ofRecords s candidate reference = .ok c ↔ s.check = .ok () ∧
      ∃ d e, Dataset.ofRecords .candidate s.timeouts s.candidateOffset candidate = .ok d ∧
        Dataset.ofRecords .reference s.timeouts s.referenceOffset reference = .ok e ∧
        c = ⟨d, e, s⟩ := by
  simp only [ofRecords, bind_eq_ok, mapError_eq_ok, pure, Except.pure, Except.ok.injEq]
  constructor
  · rintro ⟨u, hu, d, hd, e, he, rfl⟩
    exact ⟨hu, d, e, hd, he, rfl⟩
  · rintro ⟨hu, d, e, hd, he, rfl⟩
    exact ⟨(), hu, d, hd, e, he, rfl⟩

/-- So it can be made if all records are ordered. -/
theorem exists_ofRecords_eq_ok {s : Settings} {candidate reference : List Record} :
    (∃ c, ofRecords s candidate reference = .ok c) ↔ s.check = .ok () ∧
      (∀ r ∈ Dataset.moved s.candidateOffset candidate, r.isOrdered) ∧
      ∀ r ∈ Dataset.moved s.referenceOffset reference, r.isOrdered := by
  simp only [ofRecords_eq_ok, Dataset.ofRecords_eq_ok]
  constructor
  · rintro ⟨c, hcheck, d, e, ⟨hd, -⟩, ⟨he, -⟩, -⟩
    exact ⟨hcheck, hd, he⟩
  · rintro ⟨hcheck, hd, he⟩
    exact ⟨_, hcheck, _, _, ⟨hd, rfl⟩, ⟨he, rfl⟩, rfl⟩

/-- What the rules ask for, in the order of the outcomes. -/
def requests (rules : List Rule) : List (Option Segment × Metric) :=
  rules.flatMap fun rule => rule.metrics.map fun metric => (rule.segment, metric)

theorem outcomes_eq_map (c : Comparison) (rules : List Rule) :
    rules.flatMap c.outcomes = (requests rules).map fun q => c.outcome q.1 q.2 := by
  rw [requests, List.map_flatMap]
  refine List.flatMap_congr fun rule _ => ?_
  rw [List.map_map]
  rfl

/-- **The report answers every request**, unless a rule is faulty. -/
theorem judge_eq_ok {c : Comparison} {rules : List Rule} {report : Report} :
    c.judge rules = .ok report ↔ firstRepetition? rules = none ∧
      report = ⟨(requests rules).map fun q => c.outcome q.1 q.2⟩ := by
  rw [judge, ← outcomes_eq_map]
  cases firstRepetition? rules with
  | none => simp [eq_comm]
  | some fault => simp

theorem judge_eq_error {c : Comparison} {rules : List Rule} {fault : RuleListFault} :
    c.judge rules = .error fault ↔ firstRepetition? rules = some fault := by
  rw [judge]
  cases firstRepetition? rules <;> simp

end Comparison

end FlowParity
