import FlowParity.Proofs.Sweep
/-!
# From where a gap is counted

Two readings of the rule for going on differ in where the gap before the next
record begins: at the end of the last record (`adjacent`), which is what
reconciliation asks, or at the end of the flow built so far (`overall`), which is
what the description of the chain rule says. The duration is that of the last
record either way.

A flow ends no earlier than its last record, so the second reading goes on
wherever the first does, and chains are never cut by it. Whether it also makes
the cuts between them is all that is left: the two give the same flows if and
only if every two neighbouring chains are `Parted` (`flows_eq_sweep_overall_iff`).
They are not where an earlier record outlasts the last one and the next record
comes in time for the earlier one only: `exists_flows_ne_sweep_overall`.
-/

namespace FlowParity

open Reconciliation

namespace Reconciliation

/-- The rule that counts the gap from the end of the flow, whichever of its records ends last. -/
def overall (t : Timeouts) : Extension := fun last flow next =>
  t.active ≤ last.spanEnd.since last.spanStart &&
    (next.spanStart.since flow.spanEnd).max .zero ≤ t.inactive

/-- Two chains between which a gap counted from the end of the flow makes a cut. -/
def Parted (t : Timeouts) (c d : List Record) : Prop :=
  ∀ last ∈ c.getLast?, ∀ flow ∈ flow? c, ∀ next ∈ d.head?, overall t last flow next = false

instance (t : Timeouts) (c d : List Record) : Decidable (Parted t c d) :=
  inferInstanceAs (Decidable (∀ last ∈ c.getLast?, _))

variable {t : Timeouts} {last flow next : Record}

/-- **Where a record continues the last one, a flow that ends no earlier goes on as well.** -/
theorem overall_of_continues (hle : last.spanEnd ≤ flow.spanEnd)
    (h : continues t last next = true) : overall t last flow next = true := by
  rw [Millis.le_def] at hle
  simp only [continues, overall, Bool.and_eq_true, decide_eq_true_eq, Millis.le_def, Millis.ms_max,
    Millis.ms_since] at h ⊢
  omega

theorem spanEnd_le_absorb (flow next : Record) : next.spanEnd ≤ (flow.absorb next).spanEnd := by
  rw [Record.spanEnd_absorb, Millis.le_def, Millis.ms_max]
  omega

/-- The rest of a chain goes into the open flow, which still ends no earlier than its last
record. -/
theorem flowsFrom_overall_append {rest : List Record}
    (hchain : (last :: rest).IsChain fun p q => continues t p q)
    (hle : last.spanEnd ≤ flow.spanEnd) (m : List Record) :
    flowsFrom (overall t) last flow (rest ++ m) =
        flowsFrom (overall t) (rest.getLastD last) (rest.foldl Record.absorb flow) m ∧
      (rest.getLastD last).spanEnd ≤ (rest.foldl Record.absorb flow).spanEnd := by
  induction rest generalizing last flow with
  | nil => exact ⟨rfl, hle⟩
  | cons next rest ih =>
    obtain ⟨hnext, hrest⟩ := List.isChain_cons_cons.1 hchain
    rw [List.cons_append, flowsFrom_cons_of_true (overall_of_continues hle hnext),
      List.getLastD_cons, List.foldl_cons]
    exact ih hrest (spanEnd_le_absorb flow next)

/-- A chain at the front becomes the open flow. -/
theorem sweep_overall_append {first : Record} {rest : List Record}
    (hchain : (first :: rest).IsChain fun p q => continues t p q) (m : List Record) :
    sweep (overall t) ((first :: rest) ++ m) =
      flowsFrom (overall t) (rest.getLastD first) (rest.foldl Record.absorb first) m :=
  (flowsFrom_overall_append hchain (Int.le_refl _) m).1

section Chain

variable {m : List Record} (hchain : (next :: m).IsChain fun p q => continues t p q)

include hchain

/-- A chain whose first record goes on with the open flow is swallowed by it. -/
theorem flowsFrom_overall_swallow (h : overall t last flow next = true) (l : List Record) :
    flowsFrom (overall t) last flow ((next :: m) ++ l) =
      flowsFrom (overall t) (m.getLastD next) (m.foldl Record.absorb (flow.absorb next)) l := by
  rw [List.cons_append, flowsFrom_cons_of_true h]
  exact (flowsFrom_overall_append hchain (spanEnd_le_absorb flow next) l).1

/-- One whose first record does not becomes the open flow. -/
theorem flowsFrom_overall_reopen (h : overall t last flow next = false) (l : List Record) :
    flowsFrom (overall t) last flow ((next :: m) ++ l) =
      flow :: flowsFrom (overall t) (m.getLastD next) (m.foldl Record.absorb next) l := by
  rw [List.cons_append, flowsFrom_cons_of_false h]
  exact congrArg _ (flowsFrom_overall_append hchain (Int.le_refl _) l).1

end Chain

/-- **Chains give no more flows than there are of them**, and one for what was open before. -/
theorem length_flowsFrom_overall_le {cs : List (List Record)} (hne : ∀ c ∈ cs, c ≠ [])
    (hchain : ∀ c ∈ cs, c.IsChain fun p q => continues t p q) (last flow : Record) :
    (flowsFrom (overall t) last flow cs.flatten).length ≤ cs.length + 1 := by
  induction cs generalizing last flow with
  | nil => exact Nat.le_refl _
  | cons c cs ih =>
    obtain ⟨hc, hcs⟩ := List.forall_mem_cons.1 hchain
    obtain ⟨first, rest, rfl⟩ := List.exists_cons_of_ne_nil (hne c List.mem_cons_self)
    have ih := ih (fun d hd => hne d (List.mem_cons_of_mem _ hd)) hcs (rest.getLastD first)
    rw [List.flatten_cons, List.length_cons]
    cases hfirst : overall t last flow first with
    | true =>
      rw [flowsFrom_overall_swallow hc hfirst]
      have hrest := ih (rest.foldl Record.absorb (flow.absorb first))
      omega
    | false =>
      rw [flowsFrom_overall_reopen hc hfirst, List.length_cons]
      have hrest := ih (rest.foldl Record.absorb first)
      omega

/-- Between two chains it is their ends that count. -/
theorem parted_cons_cons {first next : Record} {rest m : List Record} :
    Parted t (first :: rest) (next :: m) ↔
      overall t (rest.getLastD first) (rest.foldl Record.absorb first) next = false := by
  have hlast : (first :: rest).getLast? = some (rest.getLastD first) := by
    rw [List.getLast?_cons, List.getLastD_eq_getLast?]
  have hflow : flow? (first :: rest) = some (rest.foldl Record.absorb first) := rfl
  simp [Parted, hlast, hflow]

/-- **The two rules give the same flows if and only if all neighbouring chains are parted.** -/
theorem sweep_overall_flatten_iff {cs : List (List Record)} (hne : ∀ c ∈ cs, c ≠ [])
    (hchain : ∀ c ∈ cs, c.IsChain fun p q => continues t p q) :
    sweep (overall t) cs.flatten = cs.filterMap flow? ↔ cs.IsChain (Parted t) := by
  induction cs with
  | nil => simp [sweep]
  | cons c cs ih =>
    obtain ⟨hc, hcs⟩ := List.forall_mem_cons.1 hchain
    obtain ⟨hcne, hcsne⟩ := List.forall_mem_cons.1 hne
    have ih := ih hcsne hcs
    obtain ⟨first, rest, rfl⟩ := List.exists_cons_of_ne_nil hcne
    have hflow : flow? (first :: rest) = some (rest.foldl Record.absorb first) := rfl
    rw [List.flatten_cons, sweep_overall_append hc, List.filterMap_cons_some hflow]
    cases cs with
    | nil => simp [flowsFrom]
    | cons d ds =>
      obtain ⟨hd, hds⟩ := List.forall_mem_cons.1 hcs
      obtain ⟨next, m, rfl⟩ := List.exists_cons_of_ne_nil (hcsne d List.mem_cons_self)
      rw [List.isChain_cons_cons, parted_cons_cons, ← ih, List.flatten_cons]
      cases hnext : overall t (rest.getLastD first) (rest.foldl Record.absorb first) next with
      | false =>
        rw [flowsFrom_overall_reopen hd hnext, List.cons.injEq, sweep_overall_append hd]
        simp
      | true =>
        -- the next chain is swallowed, and from then on there is a flow too few
        rw [flowsFrom_overall_swallow hd hnext]
        have hle := length_flowsFrom_overall_le (fun e he => hcsne e (List.mem_cons_of_mem _ he))
          hds (m.getLastD next)
          (m.foldl Record.absorb ((rest.foldl Record.absorb first).absorb next))
        refine iff_of_false (fun heq => ?_) (by simp)
        have hlength := congrArg List.length heq
        rw [List.length_cons, length_filterMap_flow? hcsne, List.length_cons] at hlength
        omega

end Reconciliation

/-- **What the place of the gap makes of the flows.** Reconciliation gives the
flows of the rule that counts the gap from the end of the last record. They are
also those of the rule that counts it from the end of the flow so far if and only if
that rule parts all neighbouring chains. -/
theorem flows_eq_sweep_overall_iff {t : Timeouts} {rs : List Record} {r : Reconciliation}
    (h : reconcile t rs = .ok r) (k : Key) :
    (r.flows.filter fun f => f.key = k) = sweep (adjacent t) (pieces rs k) ∧
      ((r.flows.filter fun f => f.key = k) = sweep (overall t) (pieces rs k) ↔
        (chains t rs k).IsChain (Parted t)) := by
  obtain ⟨-, rfl⟩ := reconcile_eq_ok.1 h
  rw [filter_flows_key, sweep_adjacent, flowsOf_eq]
  refine ⟨rfl, ?_⟩
  have hiff : sweep (overall t) (chains t rs k).flatten = (chains t rs k).filterMap flow? ↔
      (chains t rs k).IsChain (Parted t) :=
    sweep_overall_flatten_iff (fun _ => ne_nil_of_mem_chains) fun _ => List.isChain_of_mem_splitBy
  rw [flatten_chains] at hiff
  rw [← hiff]
  exact eq_comm

namespace Sample

/-- A long record, one inside it, and one that starts at the given instant. -/
def nested (start : Int) : List Record :=
  [record 0 1000000 5, record 300000 600000 3, record start (start + 100000) 2]

end Sample

/-- **A record that comes in time for the flow may be left out of it**: an
earlier record of the chain outlasts the last one, and the gap is counted from the last one. -/
theorem exists_flows_ne_sweep_overall :
    ∃ (t : Timeouts) (rs : List Record) (r : Reconciliation) (k : Key),
      0 ≤ t.inactive.ms ∧ reconcile t rs = .ok r ∧ (∀ x ∈ rs, x.key = k) ∧
        r.flows.length = 2 ∧ (sweep (overall t) (pieces rs k)).length = 1 := by
  refine ⟨Sample.timeouts, Sample.nested 700000, _, Sample.key, by decide,
    reconcile_eq_ok.2 ⟨by decide, rfl⟩, by decide, ?_, ?_⟩
  · rw [flows_of_sorted (k := Sample.key) (by simp [Sample.nested]) (by decide) (by decide)]
    decide
  · rw [pieces_of_sorted (by decide) (by decide)]
    decide

/-- A record that comes too late for the outer one as well is cut off either way. -/
theorem flows_eq_sweep_overall_sample :
    ∃ r, reconcile Sample.timeouts (Sample.nested 1100000) = .ok r ∧
      (r.flows.filter fun f => f.key = Sample.key) =
        sweep (adjacent Sample.timeouts) (pieces (Sample.nested 1100000) Sample.key) ∧
      (r.flows.filter fun f => f.key = Sample.key) =
        sweep (overall Sample.timeouts) (pieces (Sample.nested 1100000) Sample.key) := by
  have hr := reconcile_eq_ok (t := Sample.timeouts).2
    ⟨(by decide : ∀ r ∈ Sample.nested 1100000, r.isOrdered), rfl⟩
  obtain ⟨hadjacent, hoverall⟩ := flows_eq_sweep_overall_iff hr Sample.key
  refine ⟨_, hr, hadjacent, hoverall.2 ?_⟩
  rw [chains, pieces_of_sorted (by decide) (by decide)]
  decide

end FlowParity
