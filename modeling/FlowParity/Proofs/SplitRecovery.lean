import FlowParity.Proofs.Chaining
/-!
# Splitting undone

What timeouts have taken apart, reconciliation puts together again. A
`SplitFlow` is a logical flow with the pieces that an exporter reports of it; a
family of them in which those with one key are `Apart` may arrive in any
interleaving, and every flow comes back as the one record that unites its
pieces (`reconcile_pieces`).

The order of the spans finds the flows again. Inside a flow each piece starts
later than the one before it, and of two flows with one key one is over before
the other starts, so the pieces of a key, put flow after flow, are in strict
order, and there is only one such arrangement (`pieces_eq_flatMap`). It is cut
exactly between the flows: inside each piece is continued (`isChain_pieces`), and
between them none is (`Before.not_continues`).
-/

namespace FlowParity

open Reconciliation

/-- The second record goes on where a timeout has cut off the first. -/
structure CutOff (t : Timeouts) (p q : Record) : Prop where
  /-- The first has lasted as long as the active timeout. -/
  reaches : t.active.ms ≤ p.spanEnd.ms - p.spanStart.ms
  /-- The second does not start before the first ends. -/
  pause : 0 ≤ q.spanStart.ms - p.spanEnd.ms
  /-- The time between them is no longer than the inactive timeout. -/
  gap : q.spanStart.ms - p.spanEnd.ms ≤ t.inactive.ms

/-- **A logical flow as its exporter reports it**: one or more pieces, all but
the last cut off by the active timeout. -/
structure SplitFlow (t : Timeouts) where
  /-- The first piece. -/
  first : Record
  /-- The pieces after it. -/
  rest : List Record
  /-- All have one key. -/
  key_eq : ∀ p ∈ rest, p.key = first.key
  /-- None ends before it starts. -/
  ordered : ∀ p ∈ first :: rest, p.isOrdered
  /-- Each goes on where the one before was cut off. -/
  cutOff : (first :: rest).IsChain (CutOff t)

namespace SplitFlow

variable {t : Timeouts} (f g : SplitFlow t)

/-- All pieces, in the order in which they were reported. -/
def pieces : List Record := f.first :: f.rest

/-- The key of the flow. -/
def key : Key := f.first.key

/-- The flow as one record. -/
def whole : Record := f.rest.foldl Record.absorb f.first

/-- The second flow starts only when the first has been silent for too long. -/
def Before : Prop := f.whole.spanEnd.ms + t.inactive.ms < g.whole.spanStart.ms

/-- Two flows with one key do not come close. -/
def Apart : Prop := f.key = g.key → f.Before g ∨ g.Before f

variable {f g}

theorem Apart.symm (h : f.Apart g) : g.Apart f := fun hk => (h hk.symm).symm

theorem key_of_mem_pieces {p : Record} (hp : p ∈ f.pieces) : p.key = f.key := by
  rcases List.mem_cons.1 hp with rfl | hp
  · rfl
  · exact f.key_eq p hp

theorem unites_pieces (f : SplitFlow t) : f.whole.Unites f.pieces :=
  Record.unites_foldl f.key_eq

/-! ## Inside a flow -/

/-- A piece is continued by the one that follows it. -/
theorem continues_of_cutOff {p q : Record} (hp : p.isOrdered) (h : CutOff t p q) :
    continues t p q := by
  have hreaches := h.reaches
  have hpause := h.pause
  have hgap := h.gap
  rw [continues_eq, Timeouts.joins_iff (Record.forward_span hp), Timeouts.Reaches]
  simp only [Record.start_span, Record.finish_span]
  omega

/-- The pieces of a flow are one chain. -/
theorem isChain_pieces (f : SplitFlow t) : f.pieces.IsChain fun p q => continues t p q :=
  f.cutOff.imp_of_mem_imp fun _ _ hp _ h => continues_of_cutOff (f.ordered _ hp) h

/-- They start one after the other. -/
theorem pairwise_pieces (ha : 0 < t.active.ms) (f : SplitFlow t) :
    f.pieces.Pairwise fun p q => p.spanStart.ms < q.spanStart.ms := by
  refine List.isChain_iff_pairwise.1 (f.cutOff.imp fun p q h => ?_)
  have hreaches := h.reaches
  have hpause := h.pause
  omega

/-- A flow does not end before it starts. -/
theorem spanStart_le_spanEnd (f : SplitFlow t) : f.whole.spanStart.ms ≤ f.whole.spanEnd.ms := by
  have hfirst : f.first ∈ f.pieces := List.mem_cons_self
  have hstart := f.unites_pieces.spanStart_le hfirst
  have hforward := Record.forward_span (f.ordered _ hfirst)
  have hfinish := f.unites_pieces.le_spanEnd hfirst
  simp only [Span.Forward, Record.start_span, Record.finish_span] at hforward
  omega

/-! ## Between flows -/

/-- A flow that comes before another is over when that starts. -/
theorem Before.spanEnd_lt (h : f.Before g) {p q : Record} (hp : p ∈ f.pieces)
    (hq : q ∈ g.pieces) : p.spanEnd.ms + t.inactive.ms < q.spanStart.ms := by
  have hfinish := f.unites_pieces.le_spanEnd hp
  have hstart := g.unites_pieces.spanStart_le hq
  rw [Before] at h
  omega

/-- So none of its pieces is continued by one of the other's. -/
theorem Before.not_continues (h : f.Before g) (hi : t.inactive.ms < 9223372036854775807)
    {p q : Record} (hp : p ∈ f.pieces) (hq : q ∈ g.pieces) : continues t p q = false := by
  have hlt := h.spanEnd_lt hp hq
  rw [Bool.eq_false_iff, ne_eq, continues_eq,
    Timeouts.joins_iff (Record.forward_span (f.ordered p hp))]
  simp only [Record.start_span, Record.finish_span]
  omega

/-- **Flows with one key that are apart come one after the other.** -/
theorem exists_pairwise_before (hi : 0 ≤ t.inactive.ms) {fs : List (SplitFlow t)} {k : Key}
    (hk : ∀ f ∈ fs, f.key = k) (h : fs.Pairwise Apart) :
    ∃ gs : List (SplitFlow t), gs.Perm fs ∧ gs.Pairwise Before := by
  -- being apart does not say which of two flows is the earlier one, sorting them by start does
  let le : SplitFlow t → SplitFlow t → Bool := fun f g =>
    f.whole.spanStart.ms ≤ g.whole.spanStart.ms
  have hperm : (fs.mergeSort le).Perm fs := List.mergeSort_perm fs le
  have hsorted : (fs.mergeSort le).Pairwise fun f g => le f g := by
    refine List.pairwise_mergeSort (fun a b c hab hbc => ?_) (fun a b => ?_) fs
    · simp only [le, decide_eq_true_eq] at *
      omega
    · simp only [le, Bool.or_eq_true, decide_eq_true_eq]
      omega
  have hapart : (fs.mergeSort le).Pairwise Apart := hperm.symm.pairwise h Apart.symm
  refine ⟨_, hperm, (hsorted.and hapart).imp_of_mem ?_⟩
  rintro f g hf hg ⟨hle, hapart⟩
  rcases hapart (by rw [hk f (hperm.mem_iff.1 hf), hk g (hperm.mem_iff.1 hg)]) with hfg | hgf
  · exact hfg
  · -- the later start would lie before the earlier end
    have hg := g.spanStart_le_spanEnd
    simp only [le, decide_eq_true_eq] at hle
    rw [Before] at hgf
    omega

end SplitFlow

namespace Reconciliation

variable {t : Timeouts} {rs : List Record} {k : Key} {gs : List (SplitFlow t)}

/-- **The order of the spans finds the flows again.** -/
theorem pieces_eq_flatMap (ha : 0 < t.active.ms) (hi : 0 ≤ t.inactive.ms)
    (hbefore : gs.Pairwise SplitFlow.Before)
    (h : (ofKey rs k).Perm (gs.flatMap SplitFlow.pieces)) :
    pieces rs k = gs.flatMap SplitFlow.pieces := by
  have hperm : (pieces rs k).Perm (gs.flatMap SplitFlow.pieces) := (pieces_perm rs k).trans h
  have hstrict : (gs.flatMap SplitFlow.pieces).Pairwise fun p q =>
      p.spanStart.ms < q.spanStart.ms := by
    rw [List.pairwise_flatMap]
    refine ⟨fun f _ => f.pairwise_pieces ha, hbefore.imp fun {f g} hfg p hp q hq => ?_⟩
    have hlt := hfg.spanEnd_lt hp hq
    have hforward := Record.forward_span (f.ordered p hp)
    simp only [Span.Forward, Record.start_span, Record.finish_span] at hforward
    omega
  -- no two pieces start together, so the sorted list is strictly sorted as well
  have hne : (pieces rs k).Pairwise fun p q => p.spanStart.ms ≠ q.spanStart.ms :=
    hperm.symm.pairwise (hstrict.imp fun hlt => by omega) fun hne => hne.symm
  have hsorted : (pieces rs k).Pairwise fun p q => p.spanStart.ms < q.spanStart.ms := by
    refine ((pieces_pairwise rs k).and hne).imp fun {p q} hpq => ?_
    have hle := Span.le_iff.1 hpq.1
    have hne := hpq.2
    simp only [Record.start_span, Record.finish_span] at hle
    omega
  exact hperm.eq_of_pairwise (fun p q _ _ hpq hqp => by omega) hsorted hstrict

/-- **The cuts are those between the flows.** -/
theorem chains_eq_map (ha : 0 < t.active.ms) (hi : 0 ≤ t.inactive.ms)
    (hi' : t.inactive.ms < 9223372036854775807) (hbefore : gs.Pairwise SplitFlow.Before)
    (h : (ofKey rs k).Perm (gs.flatMap SplitFlow.pieces)) :
    chains t rs k = gs.map SplitFlow.pieces := by
  rw [chains, pieces_eq_flatMap ha hi hbefore h, List.flatMap_def]
  refine List.splitBy_flatten ?_ ?_ ?_
  · simp [SplitFlow.pieces]
  · intro c hc
    obtain ⟨f, -, rfl⟩ := List.mem_map.1 hc
    exact f.isChain_pieces
  · rw [List.isChain_map]
    refine hbefore.isChain.imp fun f g hfg => ⟨List.cons_ne_nil _ _, List.cons_ne_nil _ _, ?_⟩
    exact hfg.not_continues hi' (List.getLast_mem _) (List.head_mem _)

/-- So each flow comes back as one. -/
theorem flowsOf_eq_map (ha : 0 < t.active.ms) (hi : 0 ≤ t.inactive.ms)
    (hi' : t.inactive.ms < 9223372036854775807) (hbefore : gs.Pairwise SplitFlow.Before)
    (h : (ofKey rs k).Perm (gs.flatMap SplitFlow.pieces)) :
    flowsOf t rs k = gs.map SplitFlow.whole := by
  rw [flowsOf, chains_eq_map ha hi hi' hbefore h, List.filterMap_map]
  exact congrFun List.filterMap_eq_map gs

/-- The pieces with a key are those of the flows with that key. -/
theorem ofKey_flatMap (fs : List (SplitFlow t)) (k : Key) :
    ofKey (fs.flatMap SplitFlow.pieces) k =
      (fs.filter fun f => f.key = k).flatMap SplitFlow.pieces :=
  filter_flatMap_of_forall fun f _ p hp => by rw [SplitFlow.key_of_mem_pieces hp]

/-- The flows of a key are its logical flows. -/
theorem flowsOf_perm (ha : 0 < t.active.ms) (hi : 0 ≤ t.inactive.ms)
    (hi' : t.inactive.ms < 9223372036854775807) {fs : List (SplitFlow t)}
    (hapart : fs.Pairwise SplitFlow.Apart) (hrs : rs.Perm (fs.flatMap SplitFlow.pieces)) :
    (flowsOf t rs k).Perm ((fs.filter fun f => f.key = k).map SplitFlow.whole) := by
  have hk : ∀ f ∈ fs.filter fun f => f.key = k, f.key = k := fun f hf => by
    simpa using (List.mem_filter.1 hf).2
  obtain ⟨gs, hgs, hbefore⟩ := SplitFlow.exists_pairwise_before hi hk (hapart.filter _)
  have hpieces : (ofKey rs k).Perm (ofKey (fs.flatMap SplitFlow.pieces) k) := hrs.filter _
  rw [ofKey_flatMap] at hpieces
  rw [flowsOf_eq_map ha hi hi' hbefore (hpieces.trans (hgs.flatMap_right _).symm)]
  exact hgs.map _

end Reconciliation

/-- **Splitting is undone.** From any interleaving of the pieces of logical flows,
those with one key being apart, reconciliation gives for each flow the record
that unites its pieces, and nothing else. -/
theorem reconcile_pieces {t : Timeouts} (ha : 0 < t.active.ms) (hi : 0 ≤ t.inactive.ms)
    (hi' : t.inactive.ms < 9223372036854775807) {fs : List (SplitFlow t)}
    (hapart : fs.Pairwise SplitFlow.Apart) {rs : List Record}
    (hrs : rs.Perm (fs.flatMap SplitFlow.pieces)) :
    ∃ r, reconcile t rs = .ok r ∧ r.flows.Perm (fs.map SplitFlow.whole) ∧
      r.statistics.merges + fs.length = (fs.flatMap SplitFlow.pieces).length ∧
      ∀ f ∈ fs, f.whole.Unites f.pieces := by
  have hordered : ∀ r ∈ rs, r.isOrdered := by
    intro r hr
    obtain ⟨f, -, hf⟩ := List.mem_flatMap.1 (hrs.mem_iff.1 hr)
    exact f.ordered r hf
  have hkeys : ∀ f ∈ fs, f.key ∈ keysOf rs := fun f hf => mem_keysOf.2
    ⟨f.first, hrs.mem_iff.2 (List.mem_flatMap.2 ⟨f, hf, List.mem_cons_self⟩), rfl⟩
  have hflows : (ofOrdered t rs).flows.Perm (fs.map SplitFlow.whole) := by
    rw [flows_ofOrdered]
    refine (List.Perm.flatMap_left _ fun k _ => flowsOf_perm ha hi hi' hapart hrs).trans ?_
    rw [← List.map_flatMap]
    exact (flatMap_filter_perm SplitFlow.key (nodup_keysOf rs) hkeys).map _
  have hmerges := merges_add_length_flows t rs
  rw [hflows.length_eq, List.length_map, hrs.length_eq] at hmerges
  exact ⟨_, reconcile_eq_ok.2 ⟨hordered, rfl⟩, hflows, hmerges, fun f _ => f.unites_pieces⟩

namespace Sample

/-- A flow that is cut off once. -/
def cut : SplitFlow timeouts where
  first := record 0 300000 5
  rest := [record 300010 400000 2]
  key_eq := by decide
  ordered := by decide
  cutOff := List.IsChain.cons_cons ⟨by decide, by decide, by decide⟩ (.singleton _)

/-- A flow of one piece, with a reverse side. -/
def uncut : SplitFlow timeouts where
  first := ⟨key, traffic 500000 500100 1, some (traffic 500020 500200 1)⟩
  rest := []
  key_eq := by decide
  ordered := by decide
  cutOff := .singleton _

end Sample

/-- Two flows come back from pieces in reverse order. -/
theorem reconcile_pieces_sample :
    ∃ r, reconcile Sample.timeouts
        [Sample.uncut.first, Sample.record 300010 400000 2, Sample.cut.first] = .ok r ∧
      r.flows.Perm [Sample.cut.whole, Sample.uncut.whole] ∧ r.statistics.merges + 2 = 3 := by
  have hapart : [Sample.cut, Sample.uncut].Pairwise SplitFlow.Apart := by
    refine List.pairwise_pair.2 fun _ => Or.inl ?_
    rw [SplitFlow.Before]
    decide
  have hrs : [Sample.uncut.first, Sample.record 300010 400000 2, Sample.cut.first].Perm
      ([Sample.cut, Sample.uncut].flatMap SplitFlow.pieces) := by decide
  obtain ⟨r, hr, hflows, hmerges, -⟩ :=
    reconcile_pieces (by decide) (by decide) (by decide) hapart hrs
  exact ⟨r, hr, hflows, hmerges⟩

end FlowParity
