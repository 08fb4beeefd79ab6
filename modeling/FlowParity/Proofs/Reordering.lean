import FlowParity.Proofs.RowOrder
/-!
# What reordering can never change

Records with one key and one span may change places in the sorted list, and then
flows may change their counters. Everything else stays as it was in every order
of the records (`reconcile_reordered`). The sorted spans of a key are the same,
so the cuts are and so are the spans of its flows. That settles the number of flows,
hence that of merges, and with the keys it settles what any segment selects,
which looks at the key and the span of a flow.
-/

namespace FlowParity

open Reconciliation

namespace Reconciliation

variable {rs rs' : List Record}

/-- **The keys and spans of the flows do not depend on the order of the records.** -/
theorem map_key_span_flows_perm (t : Timeouts) (h : rs.Perm rs') :
    ((ofOrdered t rs).flows.map fun f => (f.key, f.span)).Perm
      ((ofOrdered t rs').flows.map fun f => (f.key, f.span)) := by
  refine map_flows_perm h fun k => List.Perm.of_eq ?_
  have hread : ∀ rs'' : List Record, (flowsOf t rs'' k).map (fun f => (f.key, f.span)) =
      ((flowsOf t rs'' k).map Record.span).map (Prod.mk k) := by
    intro rs''
    rw [List.map_map]
    refine List.map_congr_left fun f hf => ?_
    rw [key_of_mem_flowsOf hf]
    rfl
  rw [hread, hread, map_span_flowsOf, map_span_flowsOf, map_span_chains_perm h]

theorem length_flows_perm (t : Timeouts) (h : rs.Perm rs') :
    (ofOrdered t rs).flows.length = (ofOrdered t rs').flows.length := by
  have hlength := (map_key_span_flows_perm t h).length_eq
  rwa [List.length_map, List.length_map] at hlength

/-- **The counts of a reconciliation do not depend on the order of the records.** -/
theorem statistics_perm (t : Timeouts) (h : rs.Perm rs') :
    (ofOrdered t rs).statistics = (ofOrdered t rs').statistics := by
  have hflows := length_flows_perm t h
  have hmerges : (ofOrdered t rs).statistics.merges = (ofOrdered t rs').statistics.merges := by
    have hrs := merges_add_length_flows t rs
    have hrs' := merges_add_length_flows t rs'
    have hlength := h.length_eq
    omega
  have hkeys := keysOf_perm h
  have hconversations := (eraseDups_perm (hkeys.map Key.normalized)).length_eq
  rw [Statistics.mk.injEq]
  exact ⟨h.length_eq, hflows, hmerges, hkeys.length_eq, hconversations⟩

end Reconciliation

/-- **Reordering the records changes counters of flows at most.** Reconciliation
succeeds in one order if it does in another, with the same counts, with flows of
the same keys and spans, and with the same number of flows in every segment. -/
theorem reconcile_reordered {rs rs' : List Record} (h : rs.Perm rs') (t : Timeouts) :
    (reconcile t rs).isOk = (reconcile t rs').isOk ∧
      ∀ r r', reconcile t rs = .ok r → reconcile t rs' = .ok r' →
        r.statistics = r'.statistics ∧
        (r.flows.map fun f => (f.key, f.span)).Perm (r'.flows.map fun f => (f.key, f.span)) ∧
        ∀ segment, Measure.flows.total (Segment.select segment r.flows) =
          Measure.flows.total (Segment.select segment r'.flows) := by
  constructor
  · rw [Bool.eq_iff_iff, isOk_reconcile, isOk_reconcile]
    simp only [h.mem_iff]
  · intro r r' hr hr'
    obtain ⟨hordered, rfl⟩ := reconcile_eq_ok.1 hr
    obtain ⟨-, rfl⟩ := reconcile_eq_ok.1 hr'
    exact ⟨statistics_perm t h, map_key_span_flows_perm t h, fun segment =>
      total_select_perm hordered h (orderFree_flows rfl)⟩

/-- Two records that tie and count differently may change places. -/
theorem reconcile_reordered_sample :
    ∃ r r', reconcile Sample.timeouts (Sample.tied 10 20) = .ok r ∧
      reconcile Sample.timeouts (Sample.tied 20 10) = .ok r' ∧ r.flows ≠ r'.flows ∧
      r.statistics = r'.statistics ∧
      (r.flows.map fun f => (f.key, f.span)).Perm (r'.flows.map fun f => (f.key, f.span)) ∧
      ∀ segment, Measure.flows.total (Segment.select segment r.flows) =
        Measure.flows.total (Segment.select segment r'.flows) := by
  have hr := reconcile_eq_ok (t := Sample.timeouts).2
    ⟨(by decide : ∀ r ∈ Sample.tied 10 20, r.isOrdered), rfl⟩
  have hr' := reconcile_eq_ok (t := Sample.timeouts).2
    ⟨(by decide : ∀ r ∈ Sample.tied 20 10, r.isOrdered), rfl⟩
  have hperm : (Sample.tied 10 20).Perm (Sample.tied 20 10) := by decide
  refine ⟨_, _, hr, hr', ?_, (reconcile_reordered hperm Sample.timeouts).2 _ _ hr hr'⟩
  rw [flows_of_sorted (k := Sample.key) (by simp [Sample.tied]) (by decide) (by decide),
    flows_of_sorted (k := Sample.key) (by simp [Sample.tied]) (by decide) (by decide)]
  decide

end FlowParity
