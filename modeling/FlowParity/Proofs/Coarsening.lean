import FlowParity.Proofs.Arrangement
/-!
# Looser timeouts

With a shorter active timeout or a longer inactive one more records continue the one before them
and none fewer (`continues_mono`). Whether one does depends on these two records alone, so no cut
is made that was not there before: the pieces of a key are the same, and a looser chain is a run
of stricter ones put after each other (`exists_splitBy_of_imp`). Because absorption is
associative it comes to the same whether the records of such a run are absorbed or its flows
(`flow?_flatten`). So looser timeouts give coarser flows (`reconcile_coarsens`).
-/

namespace FlowParity

section Splitting

variable {α : Type} {r s : α → α → Bool}

/-- **A looser relation splits a list into runs of what a stricter one splits it into.** -/
theorem exists_splitBy_of_imp (h : ∀ a b, r a b → s a b) (l : List α) :
    ∃ runs : List (List (List α)), runs.flatten = l.splitBy r ∧
      runs.map List.flatten = l.splitBy s ∧ ∀ run ∈ runs, run ≠ [] := by
  induction l with
  | nil => exact ⟨[], rfl, rfl, by simp⟩
  | cons a l ih =>
    cases l with
    | nil => exact ⟨[[[a]]], rfl, rfl, by simp⟩
    | cons b l =>
      obtain ⟨runs, hr, hs, hne⟩ := ih
      cases hsab : s a b with
      | false =>
        -- both relations cut, and the first element is a run of its own
        have hrab : r a b = false := by
          by_contra hrab
          simp [h a b (by simpa using hrab)] at hsab
        refine ⟨[[a]] :: runs, ?_, ?_, by simpa using hne⟩
        · rw [splitBy_cons_of_false hrab, ← hr]
          rfl
        · rw [splitBy_cons_of_false hsab, ← hs]
          rfl
      | true =>
        -- the first element joins the first run, inside its first part or as a part before it
        obtain ⟨c, cs, hc⟩ := exists_splitBy_cons r b l
        obtain ⟨d, ds, hd⟩ := exists_splitBy_cons s b l
        cases runs with
        | nil => rw [hc] at hr; cases hr
        | cons run runs =>
          obtain ⟨part, run, rfl⟩ := List.exists_cons_of_ne_nil (hne run (by simp))
          rw [List.flatten_cons, List.cons_append, hc, List.cons.injEq] at hr
          rw [List.map_cons, hd, List.cons.injEq] at hs
          obtain ⟨rfl, hr⟩ := hr
          obtain ⟨hfirst, hs⟩ := hs
          have hrest : ∀ run ∈ runs, run ≠ [] := fun run hrun => hne run (by simp [hrun])
          cases hrab : r a b with
          | true =>
            refine ⟨((a :: b :: c) :: run) :: runs, ?_, ?_, by simpa using hrest⟩
            · rw [splitBy_cons_of_true hrab hc, ← hr]
              rfl
            · rw [splitBy_cons_of_true hsab hd, List.map_cons, hs, ← hfirst]
              rfl
          | false =>
            refine ⟨([a] :: (b :: c) :: run) :: runs, ?_, ?_, by simpa using hrest⟩
            · rw [splitBy_cons_of_false hrab, hc, ← hr]
              rfl
            · rw [splitBy_cons_of_true hsab hd, List.map_cons, hs, ← hfirst]
              rfl

end Splitting

/-! ## Runs of flows -/

namespace Reconciliation

/-- **Two lists of flows of which one is coarser**: it is what comes of absorbing runs of
consecutive flows of the finer one, each of one key, into the first of the run. -/
structure Coarsens (fine coarse : List Record) (runs : List (List Record)) : Prop where
  /-- The runs follow each other and leave no flow out. -/
  flatten : runs.flatten = fine
  /-- The flows of a run have one key. -/
  key : ∀ run ∈ runs, ∃ k, ∀ f ∈ run, f.key = k
  /-- Each run is absorbed into its first flow. -/
  absorbed : List.Forall₂ (fun run flow => flow? run = some flow) runs coarse

/-- Whether the element at a position of the list that runs make up stands in a certain run. -/
def StandsIn {α : Type} (runs : List (List α)) (position run : Nat) : Prop :=
  (runs.take run).flatten.length ≤ position ∧ position < (runs.take (run + 1)).flatten.length

theorem standsIn_zero {α : Type} {first : List α} {runs : List (List α)} {position : Nat} :
    StandsIn (first :: runs) position 0 ↔ position < first.length := by
  simp [StandsIn]

theorem standsIn_succ {α : Type} {first : List α} {runs : List (List α)} {position run : Nat} :
    StandsIn (first :: runs) position (run + 1) ↔
      first.length ≤ position ∧ StandsIn runs (position - first.length) run := by
  simp only [StandsIn, List.take_succ_cons, List.flatten_cons, List.length_append]
  omega

/-- **Every element stands in one run.** -/
theorem existsUnique_standsIn {α : Type} {runs : List (List α)} {position : Nat}
    (h : position < runs.flatten.length) : ∃! run, StandsIn runs position run := by
  induction runs generalizing position with
  | nil => simp at h
  | cons first runs ih =>
    by_cases hfirst : position < first.length
    · refine ⟨0, standsIn_zero.2 hfirst, fun run hrun => ?_⟩
      cases run with
      | zero => rfl
      | succ run => exact absurd (standsIn_succ.1 hrun).1 (by omega)
    · rw [List.flatten_cons, List.length_append] at h
      have hrest : position - first.length < runs.flatten.length := by omega
      obtain ⟨run, hrun, hunique⟩ := ih hrest
      refine ⟨run + 1, standsIn_succ.2 ⟨by omega, hrun⟩, fun other hother => ?_⟩
      cases other with
      | zero => exact absurd (standsIn_zero.1 hother) hfirst
      | succ other => rw [hunique other (standsIn_succ.1 hother).2]

/-- A run in which something stands is one of the runs. -/
theorem StandsIn.lt_length {α : Type} {runs : List (List α)} {position run : Nat}
    (h : StandsIn runs position run) : run < runs.length := by
  by_contra hge
  obtain ⟨hle, hlt⟩ := h
  rw [List.take_of_length_le (by omega)] at hle hlt
  omega

namespace Coarsens

variable {fine coarse : List Record} {runs : List (List Record)}

/-- There are no more coarse flows than fine ones. -/
theorem length_le (h : Coarsens fine coarse runs) : coarse.length ≤ fine.length := by
  have hpos : ∀ n ∈ runs.map List.length, 1 ≤ n := by
    intro n hn
    obtain ⟨run, hrun, rfl⟩ := List.mem_map.1 hn
    obtain ⟨i, hi, rfl⟩ := List.mem_iff_getElem.1 hrun
    have hflow := h.absorbed.get hi (h.absorbed.length_eq ▸ hi)
    refine List.length_pos_iff.2 fun hnil => ?_
    rw [List.get_eq_getElem, hnil] at hflow
    cases hflow
  rw [← h.flatten, ← h.absorbed.length_eq, List.length_flatten, ← List.length_map List.length]
  exact List.length_le_sum_of_one_le _ hpos

/-- **Every fine flow is contained in exactly one coarse flow.** -/
theorem existsUnique (h : Coarsens fine coarse runs) {position : Nat}
    (hposition : position < fine.length) :
    ∃! run, run < coarse.length ∧ StandsIn runs position run := by
  rw [← h.flatten] at hposition
  obtain ⟨run, hrun, hunique⟩ := existsUnique_standsIn hposition
  exact ⟨run, ⟨h.absorbed.length_eq ▸ hrun.lt_length, hrun⟩, fun other hother =>
    hunique other hother.2⟩

end Coarsens

/-- **The records of a run of chains come to what their flows come to.** -/
theorem flow?_flatten {run : List (List Record)} (h : ∀ c ∈ run, c ≠ []) :
    flow? run.flatten = flow? (run.filterMap flow?) := by
  induction run with
  | nil => rfl
  | cons c run ih =>
    obtain ⟨hc, hrun⟩ := List.forall_mem_cons.1 h
    have hflow : ∃ a, flow? c = some a := by
      obtain ⟨r, c, rfl⟩ := List.exists_cons_of_ne_nil hc
      exact ⟨_, rfl⟩
    obtain ⟨a, ha⟩ := hflow
    rw [List.flatten_cons, List.filterMap_cons_some ha]
    cases hrest : flow? run.flatten with
    | none =>
      -- nothing follows, neither records nor flows
      have hflows : flow? (run.filterMap flow?) = none := ih hrun ▸ hrest
      rw [flow?_eq_none.1 hrest, flow?_eq_none.1 hflows, List.append_nil, ha]
      rfl
    | some b => rw [flow?_append ha hrest, flow?_cons (ih hrun ▸ hrest)]

section Looser

variable {t t' : Timeouts}

/-- **With looser timeouts a record continues whatever it continued before.** -/
theorem continues_mono (ha : t'.active ≤ t.active) (hi : t.inactive ≤ t'.inactive)
    (p q : Record) : continues t p q → continues t' p q := by
  simp only [continues, Bool.and_eq_true, decide_eq_true_eq, Millis.le_def] at *
  omega

/-- The chains of all keys with looser timeouts are runs of those with stricter ones. -/
theorem exists_allChains_runs (ha : t'.active ≤ t.active) (hi : t.inactive ≤ t'.inactive)
    (rs : List Record) :
    ∃ runs : List (List (List Record)), runs.flatten = allChains t rs ∧
      runs.map List.flatten = allChains t' rs := by
  choose runs hruns using fun k =>
    exists_splitBy_of_imp (continues_mono ha hi) (pieces rs k)
  refine ⟨(keysOf rs).flatMap runs, ?_, ?_⟩
  · rw [flatten_flatMap]
    exact List.flatMap_congr fun k _ => (hruns k).1
  · rw [List.map_flatMap]
    exact List.flatMap_congr fun k _ => (hruns k).2.1

/-- **Looser timeouts make coarser flows.** -/
theorem coarsens_flows {rs : List Record} {runs : List (List (List Record))}
    (hflatten : runs.flatten = allChains t rs) (hmap : runs.map List.flatten = allChains t' rs) :
    Coarsens (ofOrdered t rs).flows (ofOrdered t' rs).flows (runs.map (List.filterMap flow?)) where
  flatten := by
    rw [← List.filterMap_flatten, hflatten]
    rfl
  key run hrun := by
    -- the flows of a run have the key of the looser chain that it makes up
    obtain ⟨chains, hchains, rfl⟩ := List.mem_map.1 hrun
    have hchain : chains.flatten ∈ allChains t' rs := hmap ▸ List.mem_map_of_mem hchains
    obtain ⟨-, k, hk⟩ := exists_key_of_mem_allChains hchain
    refine ⟨k, fun f hf => ?_⟩
    obtain ⟨c, hc, hflow⟩ := List.mem_filterMap.1 hf
    exact key_of_flow? (fun r hr => hk r (List.mem_flatten.2 ⟨c, hc, hr⟩)) hflow
  absorbed := by
    have hflows : List.Forall₂ (fun chain flow => flow? chain = some flow) (runs.map List.flatten)
        (ofOrdered t' rs).flows := by
      rw [hmap]
      exact forall₂_allChains_flows t' rs
    rw [List.forall₂_map_left_iff] at hflows ⊢
    have hne : ∀ run ∈ runs, ∀ c ∈ run, c ≠ [] := fun run hrun c hc => by
      have hmem : c ∈ allChains t rs := hflatten ▸ List.mem_flatten.2 ⟨run, hrun, hc⟩
      exact (exists_key_of_mem_allChains hmem).1
    refine ((List.forall₂_and_left _ _).2 ⟨hne, hflows⟩).imp fun run flow h => ?_
    rw [← flow?_flatten h.1, h.2]

end Looser

end Reconciliation

open Reconciliation

/-- **Looser timeouts only coarsen.** Let no timeout be stricter: the active one no longer and the
inactive one no shorter. Ordered records reconcile under either pair of timeouts, and
- the chains under the looser timeouts are runs of consecutive chains under the stricter ones, and
  their flows are what comes of absorbing the flows of each run, all of one key, into the first;
- every flow under the stricter timeouts stands in one of these runs and no other;
- there are no more flows than before, and as many merges more as there are flows fewer. -/
theorem reconcile_coarsens {t t' : Timeouts} (ha : t'.active ≤ t.active)
    (hi : t.inactive ≤ t'.inactive) {rs : List Record} (hordered : ∀ r ∈ rs, r.isOrdered) :
    ∃ (r r' : Reconciliation) (runs : List (List (List Record))), reconcile t rs = .ok r ∧
      reconcile t' rs = .ok r' ∧
      runs.flatten = allChains t rs ∧ runs.map List.flatten = allChains t' rs ∧
      Coarsens r.flows r'.flows (runs.map (List.filterMap flow?)) ∧
      (∀ position < r.flows.length, ∃! run, run < r'.flows.length ∧
        StandsIn (runs.map (List.filterMap flow?)) position run) ∧
      r'.statistics.flowsOut ≤ r.statistics.flowsOut ∧
      r'.statistics.merges = r.statistics.merges +
        (r.statistics.flowsOut - r'.statistics.flowsOut) := by
  obtain ⟨runs, hflatten, hmap⟩ := exists_allChains_runs ha hi rs
  have hcoarsens := coarsens_flows hflatten hmap
  have hlength := hcoarsens.length_le
  refine ⟨_, _, runs, reconcile_eq_ok.2 ⟨hordered, rfl⟩, reconcile_eq_ok.2 ⟨hordered, rfl⟩,
    hflatten, hmap, hcoarsens, fun position hposition => hcoarsens.existsUnique hposition, hlength,
    ?_⟩
  have hmerges := merges_add_length_flows t rs
  have hmerges' := merges_add_length_flows t' rs
  show (ofOrdered t' rs).statistics.merges = (ofOrdered t rs).statistics.merges +
    ((ofOrdered t rs).flows.length - (ofOrdered t' rs).flows.length)
  omega

namespace Sample

/-- A flow in two pieces and another one a minute after it. -/
def spaced : List Record := [record 0 300000 2, record 300010 310000 1, record 370000 380000 3]

/-- Five seconds and five minutes. -/
def looser : Timeouts := .ofSeconds 5 300

end Sample

/-- Timeouts under which a minute is no gap make one flow of two. -/
theorem reconcile_coarsens_sample :
    Sample.looser.active ≤ Sample.timeouts.active ∧
      Sample.timeouts.inactive ≤ Sample.looser.inactive ∧ (∀ r ∈ Sample.spaced, r.isOrdered) ∧
      ∃ (r r' : Reconciliation) (runs : List (List Record)),
        reconcile Sample.timeouts Sample.spaced = .ok r ∧
        reconcile Sample.looser Sample.spaced = .ok r' ∧ Coarsens r.flows r'.flows runs ∧
        r.flows.length = 2 ∧ r'.flows.length = 1 ∧
        r'.statistics.merges = r.statistics.merges + 1 := by
  have ha : Sample.looser.active ≤ Sample.timeouts.active := by decide
  have hi : Sample.timeouts.inactive ≤ Sample.looser.inactive := by decide
  have hordered : ∀ r ∈ Sample.spaced, r.isOrdered := by decide
  obtain ⟨r, r', runs, hr, hr', -, -, hcoarsens, -, -, hmerges⟩ :=
    reconcile_coarsens ha hi hordered
  have hflows : ∀ {t : Timeouts} {r : Reconciliation}, reconcile t Sample.spaced = .ok r →
      r.flows = flowsAlong t Sample.spaced ∧ r.statistics.flowsOut = r.flows.length := by
    intro t r h
    obtain ⟨-, rfl⟩ := reconcile_eq_ok.1 h
    exact ⟨flows_of_sorted (k := Sample.key) (by decide) (by decide) (by decide), rfl⟩
  obtain ⟨hflows₁, hout₁⟩ := hflows hr
  obtain ⟨hflows₂, hout₂⟩ := hflows hr'
  have htwo : r.flows.length = 2 := by
    rw [hflows₁]
    decide
  have hone : r'.flows.length = 1 := by
    rw [hflows₂]
    decide
  rw [hout₁, hout₂, htwo, hone] at hmerges
  exact ⟨ha, hi, hordered, r, r', _, hr, hr', hcoarsens, htwo, hone, hmerges⟩

end FlowParity
