import FlowParity.Proofs.Passes
/-!
# The arrangement of the records

What reconciliation makes of a list of records, said without an algorithm: the
keys in the order of their first appearance (`InOrder`), and for each of them the
runs of its records (`IsRuns`). Put after each other the runs are the records with that
key in the order of their spans, those with equal spans as they came; inside a run
every record carries over to the next one, and between two runs none does. The test is
stated in unbounded integers.

There is one such arrangement (`arrangement_iff`). The order of the spans leaves
nothing open but ties, and these are settled by the order of the input
(`eq_of_sorted_of_stable`); a sorted list has one way to be cut where its records do not
carry over. The flows are its runs, each absorbed into its first record
(`reconcile_eq_arrangement`).
-/

namespace FlowParity

open Reconciliation

/-- **A span carries over to another one** if it lasts as long as the active timeout and the gap
to the start of the other, none where they overlap, is no longer than the inactive timeout. -/
def Timeouts.CarriesOver (t : Timeouts) (p q : Span) : Prop :=
  t.active.ms ≤ p.finish.ms - p.start.ms ∧ max 0 (q.start.ms - p.finish.ms) ≤ t.inactive.ms

/-- Clamping at either end of 64 bits changes no decision, as long as the inactive timeout is not
the largest number of milliseconds. -/
theorem Timeouts.joins_iff_carriesOver {t : Timeouts} {p q : Span} (hp : p.Forward)
    (hi : t.inactive.ms < 9223372036854775807) : t.joins p q ↔ t.CarriesOver p q := by
  rw [joins_iff hp, Reaches, CarriesOver]
  omega

/-- **The keys of the records in the order of their first appearance.** -/
structure InOrder (rs : List Record) (ks : List Key) : Prop where
  /-- They are the keys of the records. -/
  mem_iff : ∀ k, k ∈ ks ↔ ∃ r ∈ rs, r.key = k
  /-- A key comes before those that appear later. -/
  pairwise : ks.Pairwise fun a b => (rs.map Record.key).idxOf a < (rs.map Record.key).idxOf b

/-- **The runs of a key**: its records in order, cut where one does not carry over. -/
structure IsRuns (t : Timeouts) (rs : List Record) (k : Key) (runs : List (List Record)) :
    Prop where
  /-- No run is empty. -/
  ne_nil : ∀ run ∈ runs, run ≠ []
  /-- The records are in the order of their spans. -/
  sorted : Span.Sorted (runs.flatten.map Record.span)
  /-- Those with one span are the records of the key with that span, as they came. -/
  stable : ∀ s, (runs.flatten.filter fun r => r.span = s) =
    rs.filter fun r => r.key = k ∧ r.span = s
  /-- Inside a run every record carries over to the next one. -/
  uncut : ∀ run ∈ runs, run.IsChain fun p q => t.CarriesOver p.span q.span
  /-- The last record of a run does not carry over to the first one of the next. -/
  cut : runs.IsChain fun c d => ∀ p ∈ c.getLast?, ∀ q ∈ d.head?, ¬ t.CarriesOver p.span q.span

/-- **An arrangement of the records**: their keys in order, each with its runs. -/
structure Arrangement (t : Timeouts) (rs : List Record) (ks : List Key)
    (groups : List (List (List Record))) : Prop where
  /-- The keys are in order. -/
  keys : InOrder rs ks
  /-- There is a group of runs for each of them. -/
  runs : List.Forall₂ (IsRuns t rs) ks groups

/-! ## Keys in order -/

/-- First occurrences stand in the order in which they occur. -/
theorem pairwise_idxOf_eraseDups {α : Type} [DecidableEq α] (l : List α) :
    l.eraseDups.Pairwise fun a b => l.idxOf a < l.idxOf b := by
  induction l using List.reverseRecOn with
  | nil => exact List.Pairwise.nil
  | append_singleton l a ih =>
    have hold : ∀ b ∈ l.eraseDups, (l ++ [a]).idxOf b = l.idxOf b := fun b hb => by
      rw [List.idxOf_append, if_pos (List.mem_eraseDups.1 hb)]
    have hpairwise : l.eraseDups.Pairwise fun b c => (l ++ [a]).idxOf b < (l ++ [a]).idxOf c :=
      ih.imp_of_mem fun hb hc hlt => by rwa [hold _ hb, hold _ hc]
    rw [eraseDups_concat]
    split
    · exact hpairwise
    · rename_i ha
      refine List.pairwise_append.2 ⟨hpairwise, List.pairwise_singleton _ _, fun b hb c hc => ?_⟩
      rw [List.mem_singleton.1 hc, hold b hb, List.idxOf_append, if_neg ha, List.idxOf_cons_self,
        Nat.zero_add]
      exact List.idxOf_lt_length_of_mem (List.mem_eraseDups.1 hb)

theorem inOrder_keysOf (rs : List Record) : InOrder rs (keysOf rs) where
  mem_iff _ := mem_keysOf
  pairwise := pairwise_idxOf_eraseDups _

/-- The order of first appearance leaves no choice. -/
theorem InOrder.unique {rs : List Record} {ks ks' : List Key} (h : InOrder rs ks)
    (h' : InOrder rs ks') : ks = ks' := by
  have hnodup : ∀ {ks : List Key}, InOrder rs ks → ks.Nodup := fun h =>
    List.Pairwise.imp (fun {a b} hlt (heq : a = b) => Nat.lt_irrefl _ (heq ▸ hlt)) h.pairwise
  have hperm : ks.Perm ks' := by
    rw [List.perm_ext_iff_of_nodup (hnodup h) (hnodup h')]
    exact fun k => (h.mem_iff k).trans (h'.mem_iff k).symm
  exact hperm.eq_of_pairwise (fun a b _ _ hab hba => absurd hab (Nat.lt_asymm hba)) h.pairwise
    h'.pairwise

/-! ## Records in order -/

/-- Lists that hold the same of each span have the same members. -/
theorem mem_iff_of_stable {l m : List Record}
    (h : ∀ s, (l.filter fun r => r.span = s) = m.filter fun r => r.span = s) (r : Record) :
    r ∈ l ↔ r ∈ m := by
  have hr : r ∈ (l.filter fun q => q.span = r.span) ↔ r ∈ m.filter fun q => q.span = r.span := by
    rw [h]
  simpa using hr

/-- **A list sorted by spans is known from what it holds of each span.** -/
theorem eq_of_sorted_of_stable {l m : List Record} (hl : Span.Sorted (l.map Record.span))
    (hm : Span.Sorted (m.map Record.span))
    (h : ∀ s, (l.filter fun r => r.span = s) = m.filter fun r => r.span = s) : l = m := by
  induction l generalizing m with
  | nil =>
    have hmem := mem_iff_of_stable h
    exact (List.eq_nil_iff_forall_not_mem.2 fun r hr => List.not_mem_nil ((hmem r).2 hr)).symm
  | cons a l ih =>
    have hmem := mem_iff_of_stable h
    cases m with
    | nil => exact absurd ((hmem a).1 List.mem_cons_self) List.not_mem_nil
    | cons b m =>
      obtain ⟨hal, hl⟩ := List.pairwise_cons.1 hl
      obtain ⟨hbm, hm⟩ := List.pairwise_cons.1 hm
      rw [List.forall_mem_map] at hal hbm
      -- both lists start with the least span, and with the first record that has it
      have hab : a.span.le b.span := by
        rcases List.mem_cons.1 ((hmem b).2 List.mem_cons_self) with rfl | hb
        · exact Span.le_refl _
        · exact hal b hb
      have hba : b.span.le a.span := by
        rcases List.mem_cons.1 ((hmem a).1 List.mem_cons_self) with rfl | ha
        · exact Span.le_refl _
        · exact hbm a ha
      have hspan : b.span = a.span := Span.le_antisymm hba hab
      have hhead := h a.span
      rw [List.filter_cons_of_pos (by simp), List.filter_cons_of_pos (by simp [hspan]),
        List.cons.injEq] at hhead
      rw [hhead.1, ih hl hm fun s => ?_]
      by_cases hs : a.span = s
      · exact hs ▸ hhead.2
      · have hall := h s
        rwa [List.filter_cons_of_neg (by simpa using hs),
          List.filter_cons_of_neg (by simpa [hspan] using hs)] at hall

/-- **The sort is stable**: it keeps the order of records with one span. -/
theorem filter_span_pieces (rs : List Record) (k : Key) (s : Span) :
    ((pieces rs k).filter fun r => r.span = s) = rs.filter fun r => r.key = k ∧ r.span = s := by
  have hties : (ofKey rs k).filter (fun r => r.span = s) =
      rs.filter fun r => r.key = k ∧ r.span = s := by
    rw [ofKey, List.filter_filter]
    exact List.filter_congr fun r _ => by simp [Bool.and_comm]
  have hpairwise : ((ofKey rs k).filter fun r => r.span = s).Pairwise fun a b => spanLe a b := by
    refine List.pairwise_of_forall_mem_list fun a ha b hb => ?_
    have hspan : a.span = b.span := by
      simp only [List.mem_filter, decide_eq_true_eq] at ha hb
      rw [ha.2, hb.2]
    rw [spanLe_eq, hspan]
    exact Span.le_refl _
  have hsub : ((ofKey rs k).filter fun r => r.span = s).Sublist (pieces rs k) :=
    List.sublist_mergeSort spanLe_trans spanLe_total hpairwise List.filter_sublist
  have hfilter := hsub.filter fun r => r.span = s
  rw [List.filter_filter] at hfilter
  simp only [Bool.and_self] at hfilter
  rw [← hties]
  exact (hfilter.eq_of_length ((pieces_perm rs k).filter _).length_eq.symm).symm

/-! ## Runs -/

section Runs

variable {t : Timeouts} {rs : List Record} {k : Key}
  (hi : t.inactive.ms < 9223372036854775807) (hordered : ∀ r ∈ rs, r.isOrdered)

include hi hordered

/-- Among the pieces of a key to be continued is to carry over. -/
theorem continues_iff_carriesOver {p : Record} (hp : p ∈ pieces rs k) (q : Record) :
    continues t p q ↔ t.CarriesOver p.span q.span := by
  rw [continues_eq]
  exact Timeouts.joins_iff_carriesOver (Record.forward_span (hordered p (mem_pieces.1 hp).1)) hi

/-- **The chains of a key are its runs.** -/
theorem isRuns_chains (k : Key) : IsRuns t rs k (chains t rs k) where
  ne_nil _ := ne_nil_of_mem_chains
  sorted := by
    rw [flatten_chains]
    exact sorted_pieces rs k
  stable s := by
    rw [flatten_chains]
    exact filter_span_pieces rs k s
  uncut c hc := by
    refine (List.isChain_of_mem_splitBy hc).imp_of_mem_imp fun p q hp _ hpq => ?_
    have hpiece : p ∈ pieces rs k := flatten_chains t rs k ▸ List.mem_flatten.2 ⟨c, hc, hp⟩
    exact (continues_iff_carriesOver hi hordered hpiece q).1 hpq
  cut := by
    refine (List.isChain_getLast_head_splitBy (continues t) (pieces rs k)).imp_of_mem_imp
      fun c d hc _ hcd p hp q hq => ?_
    obtain ⟨hcne, hdne, hcut⟩ := hcd
    rw [List.getLast?_eq_some_getLast hcne, Option.mem_some] at hp
    rw [List.head?_eq_some_head hdne, Option.mem_some] at hq
    have hpiece : p ∈ pieces rs k :=
      flatten_chains t rs k ▸ List.mem_flatten.2 ⟨c, hc, hp ▸ List.getLast_mem hcne⟩
    rw [hp, hq] at hcut
    rw [← continues_iff_carriesOver hi hordered hpiece, hcut]
    exact Bool.false_ne_true

/-- **And it has no others.** -/
theorem IsRuns.eq_chains {runs : List (List Record)} (h : IsRuns t rs k runs) :
    runs = chains t rs k := by
  have hflat : runs.flatten = pieces rs k :=
    eq_of_sorted_of_stable h.sorted (sorted_pieces rs k) fun s => by
      rw [h.stable, filter_span_pieces]
  have hpiece : ∀ run ∈ runs, ∀ p ∈ run, p ∈ pieces rs k := fun run hrun p hp =>
    hflat ▸ List.mem_flatten.2 ⟨run, hrun, hp⟩
  symm
  rw [chains, List.splitBy_eq_iff]
  refine ⟨hflat.symm, fun hnil => h.ne_nil _ hnil rfl, fun run hrun => ?_, ?_⟩
  · refine (h.uncut run hrun).imp_of_mem_imp fun p q hp _ hpq => ?_
    exact (continues_iff_carriesOver hi hordered (hpiece run hrun p hp) q).2 hpq
  · refine h.cut.imp_of_mem_imp fun c d hc hd hcd => ⟨h.ne_nil c hc, h.ne_nil d hd, ?_⟩
    rw [Bool.eq_false_iff, ne_eq, continues_iff_carriesOver hi hordered
      (hpiece c hc _ (List.getLast_mem _))]
    exact hcd _ (List.getLast_mem_getLast? _) _ (List.head_mem_head? _)

/-- **There is one arrangement**: the keys as they are listed, each with its chains. -/
theorem arrangement_iff {ks : List Key} {groups : List (List (List Record))} :
    Arrangement t rs ks groups ↔ ks = keysOf rs ∧ groups = (keysOf rs).map (chains t rs) := by
  constructor
  · rintro ⟨hkeys, hruns⟩
    obtain rfl : ks = keysOf rs := hkeys.unique (inOrder_keysOf rs)
    have hchains : List.Forall₂ (fun k group => chains t rs k = group) (keysOf rs) groups :=
      hruns.imp fun k group h => (h.eq_chains hi hordered).symm
    rw [← List.forall₂_map_left_iff, List.forall₂_eq_eq_eq] at hchains
    exact ⟨rfl, hchains.symm⟩
  · rintro ⟨rfl, rfl⟩
    refine ⟨inOrder_keysOf rs, ?_⟩
    rw [List.forall₂_map_right_iff, List.forall₂_same]
    exact fun k _ => isRuns_chains hi hordered k

end Runs

/-- The flows of chains are what each comes to, in order. -/
theorem forall₂_filterMap_flow? {cs : List (List Record)} (h : ∀ c ∈ cs, c ≠ []) :
    List.Forall₂ (fun c f => flow? c = some f) cs (cs.filterMap flow?) := by
  induction cs with
  | nil => exact List.Forall₂.nil
  | cons c cs ih =>
    obtain ⟨hc, hcs⟩ := List.forall_mem_cons.1 h
    obtain ⟨first, rest, rfl⟩ := List.exists_cons_of_ne_nil hc
    exact List.Forall₂.cons rfl (ih hcs)

/-- The flows are what the chains of all keys come to, in order. -/
theorem forall₂_allChains_flows (t : Timeouts) (rs : List Record) :
    List.Forall₂ (fun chain flow => flow? chain = some flow) (allChains t rs)
      (ofOrdered t rs).flows :=
  forall₂_filterMap_flow? fun _ hchain => (exists_key_of_mem_allChains hchain).1

/-- **Reconciliation is its declaration.** Ordered records have one arrangement,
the flows are its runs, in order and each absorbed into its first record, and the
runs hold every record once. That is also what comes of two passes. -/
theorem reconcile_eq_arrangement {t : Timeouts} (hi : t.inactive.ms < 9223372036854775807)
    {rs : List Record} (hordered : ∀ r ∈ rs, r.isOrdered) :
    ∃ r ks groups, reconcile t rs = .ok r ∧ inPasses t rs = .ok r ∧
      (∀ ks' groups', Arrangement t rs ks' groups' ↔ ks' = ks ∧ groups' = groups) ∧
      List.Forall₂ (fun run flow => flow? run = some flow) groups.flatten r.flows ∧
      groups.flatten.flatten.Perm rs := by
  have hr := reconcile_eq_ok (t := t).2 ⟨hordered, rfl⟩
  refine ⟨_, keysOf rs, (keysOf rs).map (chains t rs), hr, (inPasses_eq t rs).trans hr,
    fun _ _ => arrangement_iff hi hordered, ?_, ?_⟩
  · rw [← List.flatMap_def]
    exact forall₂_filterMap_flow? fun c hc => (exists_key_of_mem_allChains hc).1
  · rw [← List.flatMap_def]
    exact flatten_allChains_perm t rs

namespace Sample

/-- The last instant there is, before two records of all time until then that tie. -/
def farApart : List Record :=
  [record 9223372036854775807 9223372036854775807 1,
    record (-9223372036854775808) 9223372036854775806 2,
    record (-9223372036854775808) 9223372036854775806 3]

end Sample

/-- The whole range of timestamps is arranged, in whatever order it comes. -/
theorem reconcile_eq_arrangement_sample :
    Sample.timeouts.inactive.ms < 9223372036854775807 ∧ (∀ r ∈ Sample.farApart, r.isOrdered) ∧
      ∃ r ks groups, reconcile Sample.timeouts Sample.farApart = .ok r ∧
        inPasses Sample.timeouts Sample.farApart = .ok r ∧
        (∀ ks' groups', Arrangement Sample.timeouts Sample.farApart ks' groups' ↔
          ks' = ks ∧ groups' = groups) ∧
        List.Forall₂ (fun run flow => flow? run = some flow) groups.flatten r.flows ∧
        groups.flatten.flatten.Perm Sample.farApart :=
  ⟨by decide, by decide, reconcile_eq_arrangement (by decide) (by decide)⟩

end FlowParity
