import FlowParity.Proofs.Chaining
/-!
# Sweeps

A sorted list of records need not be cut into chains before these are absorbed.
A sweep takes the records in one after the other and keeps the flow that is
still open and the record that it took in last; a rule decides whether the next
record goes on with that flow. The equations of a sweep follow its recursion,
and one that asks for no more than whether the next record continues the last
one gives the flows of reconciliation (`sweep_adjacent`).
-/

namespace FlowParity

namespace Reconciliation

/-- A rule for going on: what the last record, the open flow and the next record have to do
with each other. -/
abbrev Extension := Record → Record → Record → Bool

/-- The flows of an open flow, the record it took in last and the records to come. -/
def flowsFrom (goes : Extension) (last flow : Record) : List Record → List Record
  | [] => [flow]
  | next :: rest =>
    if goes last flow next then flowsFrom goes next (flow.absorb next) rest
    else flow :: flowsFrom goes next next rest

/-- **The flows of a sorted list**, its records taken in one after the other. -/
def sweep (goes : Extension) : List Record → List Record
  | [] => []
  | first :: rest => flowsFrom goes first first rest

/-- The rule that looks at the last record and not at the flow it is part of. -/
def adjacent (t : Timeouts) : Extension := fun last _ next => continues t last next

section Equations

variable {goes : Extension} {last flow next : Record}

theorem flowsFrom_cons_of_true (h : goes last flow next = true) (rest : List Record) :
    flowsFrom goes last flow (next :: rest) = flowsFrom goes next (flow.absorb next) rest := by
  rw [flowsFrom, if_pos h]

theorem flowsFrom_cons_of_false (h : goes last flow next = false) (rest : List Record) :
    flowsFrom goes last flow (next :: rest) = flow :: flowsFrom goes next next rest := by
  rw [flowsFrom, if_neg (by simp [h])]

end Equations

variable {t : Timeouts}

/-- What an open flow has absorbed before stays in the flow that it becomes. -/
theorem flowsFrom_absorb {last flow f : Record} {rest fs : List Record}
    (h : flowsFrom (adjacent t) last flow rest = f :: fs) (a : Record) :
    flowsFrom (adjacent t) last (a.absorb flow) rest = a.absorb f :: fs := by
  induction rest generalizing last flow with
  | nil =>
    rw [flowsFrom, List.cons.injEq] at h
    rw [flowsFrom, h.1, ← h.2]
  | cons next rest ih =>
    cases hnext : continues t last next with
    | true =>
      rw [flowsFrom_cons_of_true hnext] at h ⊢
      rw [Record.absorb_assoc]
      exact ih h
    | false =>
      rw [flowsFrom_cons_of_false hnext, List.cons.injEq] at h
      rw [flowsFrom_cons_of_false hnext, h.1, h.2]

/-- A sweep from a record on gives the flows along the list that it starts. -/
theorem flowsFrom_adjacent (first : Record) (rest : List Record) :
    flowsFrom (adjacent t) first first rest = flowsAlong t (first :: rest) := by
  induction rest generalizing first with
  | nil => rfl
  | cons next rest ih =>
    cases hnext : continues t first next with
    | true =>
      obtain ⟨f, fs, hf⟩ := exists_flowsAlong_cons t next rest
      rw [flowsFrom_cons_of_true hnext, flowsAlong_cons_of_true hnext hf]
      exact flowsFrom_absorb ((ih next).trans hf) first
    | false => rw [flowsFrom_cons_of_false hnext, flowsAlong_cons_of_false hnext, ih]

/-- **A sweep that asks for continuation gives the flows of reconciliation.** -/
theorem sweep_adjacent (t : Timeouts) (l : List Record) :
    sweep (adjacent t) l = flowsAlong t l := by
  cases l with
  | nil => rfl
  | cons first rest => exact flowsFrom_adjacent first rest

end Reconciliation

end FlowParity
