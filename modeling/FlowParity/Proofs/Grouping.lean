import FlowParity.Proofs.Absorption
import Mathlib.Data.List.Enum
import Mathlib.Data.List.Perm.Basic
import Mathlib.Data.List.SplitBy
/-!
# Grouping

Reconciliation takes a list of records apart twice, by key and then at the cuts
between chains, and nothing is lost on the way: the chains of a key make up its
pieces (`flatten_chains`), the pieces of all keys the records
(`flatMap_filter_perm`). So whatever absorption adds up has over the flows the
sum it has over the records (`sum_flows`). The pieces of a key are the records
with that key in the order of their spans, and those spans are the one sorted
arrangement of what the records bring (`map_span_pieces`).
-/

namespace FlowParity

/-- **Groups make up the list they were taken from**, in some order. -/
theorem flatMap_filter_perm {α β : Type} [DecidableEq β] (f : α → β) {ks : List β}
    (hn : ks.Nodup) {l : List α} (hc : ∀ a ∈ l, f a ∈ ks) :
    (ks.flatMap fun k => l.filter fun a => f a = k).Perm l := by
  induction ks generalizing l with
  | nil =>
    have hl : l = [] := List.eq_nil_iff_forall_not_mem.2 fun a ha => by simpa using hc a ha
    rw [hl, List.flatMap_nil]
  | cons k ks ih =>
    obtain ⟨hk, hn⟩ := List.nodup_cons.1 hn
    -- the later groups are those of the list without the first
    have hrest : (ks.flatMap fun k' => l.filter fun a => f a = k') =
        ks.flatMap fun k' => (l.filter fun a => !decide (f a = k)).filter fun a => f a = k' := by
      refine List.flatMap_congr fun k' hk' => ?_
      rw [List.filter_filter]
      refine List.filter_congr fun a _ => ?_
      have hne : k' ≠ k := fun h => hk (h ▸ hk')
      by_cases ha : f a = k' <;> simp [ha, hne]
    rw [List.flatMap_cons, hrest]
    refine ((ih hn fun a ha => ?_).append_left _).trans (List.filter_append_perm _ l)
    rw [List.mem_filter] at ha
    rcases List.mem_cons.1 (hc a ha.1) with h | h
    · simp [h] at ha
    · exact h

theorem nodup_eraseDups {α : Type} [DecidableEq α] (l : List α) : l.eraseDups.Nodup := by
  induction hl : l.length using Nat.strong_induction_on generalizing l with
  | h n ih =>
    cases l with
    | nil => simp
    | cons a l =>
      have hlt : (l.filter fun b => !b == a).length < n := by
        have := List.length_filter_le (fun b => !b == a) l
        rw [List.length_cons] at hl
        omega
      rw [List.eraseDups_cons, List.nodup_cons, List.mem_eraseDups]
      exact ⟨by simp, ih _ hlt _ rfl⟩

/-- The order of a list decides the order of its different elements and nothing else. -/
theorem eraseDups_perm {α : Type} [DecidableEq α] {l l' : List α} (h : l.Perm l') :
    l.eraseDups.Perm l'.eraseDups := by
  rw [List.perm_ext_iff_of_nodup (nodup_eraseDups l) (nodup_eraseDups l')]
  intro a
  simp only [List.mem_eraseDups, h.mem_iff]

/-- What comes last is a first occurrence if it has not occurred before. -/
theorem eraseDups_concat {α : Type} [DecidableEq α] (l : List α) (a : α) :
    (l ++ [a]).eraseDups = if a ∈ l then l.eraseDups else l.eraseDups ++ [a] := by
  rw [List.eraseDups_append]
  split <;> rename_i ha <;> simp [List.removeAll, List.eraseDups_cons, ha]

/-- First occurrences may be selected before or after. -/
theorem eraseDups_filter {α : Type} [DecidableEq α] (p : α → Bool) (l : List α) :
    (l.filter p).eraseDups = l.eraseDups.filter p := by
  induction l using List.reverseRecOn with
  | nil => rfl
  | append_singleton l a ih =>
    rw [List.filter_append, eraseDups_concat]
    cases hp : p a with
    | false =>
      have hnone : [a].filter p = [] := by simp [hp]
      rw [hnone, List.append_nil, ih]
      split
      · rfl
      · rw [List.filter_append, hnone, List.append_nil]
    | true =>
      have hone : [a].filter p = [a] := by simp [hp]
      rw [hone, eraseDups_concat, ih]
      by_cases ha : a ∈ l
      · rw [if_pos ha, if_pos (List.mem_filter.2 ⟨ha, hp⟩)]
      · rw [if_neg ha, if_neg fun h => ha (List.mem_filter.1 h).1, List.filter_append, hone]

/-- Selecting from groups is selecting groups if the members of each group agree. -/
theorem filter_flatMap_of_forall {α β : Type} {f : β → List α} {q : α → Bool} {p : β → Bool}
    {bs : List β} (h : ∀ b ∈ bs, ∀ a ∈ f b, q a = p b) :
    (bs.flatMap f).filter q = (bs.filter p).flatMap f := by
  induction bs with
  | nil => rfl
  | cons b bs ih =>
    obtain ⟨hb, hbs⟩ := List.forall_mem_cons.1 h
    rw [List.flatMap_cons, List.filter_append, ih hbs]
    cases hp : p b with
    | true =>
      rw [List.filter_cons_of_pos hp, List.flatMap_cons,
        List.filter_eq_self.2 fun a ha => (hb a ha).trans hp]
    | false =>
      rw [List.filter_cons_of_neg (by simp [hp]),
        List.filter_eq_nil_iff.2 fun a ha => by simp [hb a ha, hp], List.nil_append]

/-- Groups of groups may be put after each other first or last. -/
theorem flatten_flatMap {α β : Type} (f : α → List (List β)) (as : List α) :
    (as.flatMap f).flatten = as.flatMap fun a => (f a).flatten := by
  rw [← List.flatMap_id, List.flatMap_assoc]
  simp only [List.flatMap_id]

namespace Reconciliation

variable {t : Timeouts} {rs rs' : List Record} {k : Key}

/-! ## Keys -/

theorem mem_keysOf : k ∈ keysOf rs ↔ ∃ r ∈ rs, r.key = k := by
  rw [keysOf, List.mem_eraseDups, List.mem_map]

theorem nodup_keysOf (rs : List Record) : (keysOf rs).Nodup := nodup_eraseDups _

theorem keysOf_perm (h : rs.Perm rs') : (keysOf rs).Perm (keysOf rs') :=
  eraseDups_perm (h.map _)

/-! ## Pieces -/

/-- The records with a key, as they came. -/
def ofKey (rs : List Record) (k : Key) : List Record := rs.filter fun r => r.key = k

theorem mem_ofKey {r : Record} : r ∈ ofKey rs k ↔ r ∈ rs ∧ r.key = k := by
  simp [ofKey]

theorem pieces_perm (rs : List Record) (k : Key) : (pieces rs k).Perm (ofKey rs k) :=
  List.mergeSort_perm _ _

theorem mem_pieces {r : Record} : r ∈ pieces rs k ↔ r ∈ rs ∧ r.key = k := by
  rw [(pieces_perm rs k).mem_iff, mem_ofKey]

theorem spanLe_trans (a b c : Record) : spanLe a b → spanLe b c → spanLe a c :=
  Span.le_trans (a := a.span) (b := b.span) (c := c.span)

theorem spanLe_total (a b : Record) : spanLe a b || spanLe b a := by
  rw [Bool.or_eq_true]
  exact Span.le_total a.span b.span

/-- The pieces are in the order of their spans. -/
theorem pieces_pairwise (rs : List Record) (k : Key) :
    (pieces rs k).Pairwise fun a b => a.span.le b.span :=
  List.pairwise_mergeSort spanLe_trans spanLe_total _

theorem sorted_pieces (rs : List Record) (k : Key) :
    Span.Sorted ((pieces rs k).map Record.span) :=
  List.pairwise_map.2 (pieces_pairwise rs k)

/-- **The spans of the pieces are the sorted arrangement of the spans of a key.** -/
theorem map_span_pieces {ss : List Span} (hs : Span.Sorted ss)
    (h : ((ofKey rs k).map Record.span).Perm ss) : (pieces rs k).map Record.span = ss :=
  Span.eq_of_perm (sorted_pieces rs k) hs (((pieces_perm rs k).map _).trans h)

/-- So they do not depend on the order of the records. -/
theorem map_span_pieces_perm (h : rs.Perm rs') :
    (pieces rs k).map Record.span = (pieces rs' k).map Record.span :=
  map_span_pieces (sorted_pieces rs' k)
    (((h.filter _).trans (pieces_perm rs' k).symm).map _)

/-- One more record with the key brings its span. -/
theorem map_span_pieces_cons {r : Record} (h : rs.Perm (r :: rs')) (hk : r.key = k) :
    (pieces rs k).map Record.span = Span.place r.span ((pieces rs' k).map Record.span) := by
  refine map_span_pieces (Span.sorted_place _ (sorted_pieces rs' k)) ?_
  have hkey : (ofKey rs k).Perm (r :: ofKey rs' k) := by
    refine (h.filter _).trans ?_
    simp [hk, ofKey]
  have hplace := Span.place_perm r.span ((pieces rs' k).map Record.span)
  exact (hkey.map _).trans ((hplace.trans (((pieces_perm rs' k).map _).cons _)).symm)

/-! ## Chains and flows -/

/-- The flows of one key. -/
def flowsOf (t : Timeouts) (rs : List Record) (k : Key) : List Record :=
  (chains t rs k).filterMap flow?

theorem flatten_chains (t : Timeouts) (rs : List Record) (k : Key) :
    (chains t rs k).flatten = pieces rs k :=
  List.flatten_splitBy _ _

theorem ne_nil_of_mem_chains {c : List Record} (h : c ∈ chains t rs k) : c ≠ [] :=
  List.ne_nil_of_mem_splitBy h

theorem key_of_mem_chains {c : List Record} (h : c ∈ chains t rs k) : ∀ r ∈ c, r.key = k := by
  intro r hr
  have hmem : r ∈ (chains t rs k).flatten := List.mem_flatten.2 ⟨c, h, hr⟩
  rw [flatten_chains] at hmem
  exact (mem_pieces.1 hmem).2

theorem key_of_mem_flowsOf {f : Record} (h : f ∈ flowsOf t rs k) : f.key = k := by
  obtain ⟨c, hc, hf⟩ := List.mem_filterMap.1 h
  exact key_of_flow? (key_of_mem_chains hc) hf

/-- Every chain gives a flow. -/
theorem length_filterMap_flow? {cs : List (List Record)} (h : ∀ c ∈ cs, c ≠ []) :
    (cs.filterMap flow?).length = cs.length := by
  refine List.filterMap_length_eq_length.2 fun c hc => ?_
  obtain ⟨r, c, rfl⟩ := List.exists_cons_of_ne_nil (h c hc)
  rfl

theorem length_flowsOf (t : Timeouts) (rs : List Record) (k : Key) :
    (flowsOf t rs k).length = (chains t rs k).length :=
  length_filterMap_flow? fun _ => ne_nil_of_mem_chains

theorem flows_ofOrdered (t : Timeouts) (rs : List Record) :
    (ofOrdered t rs).flows = (keysOf rs).flatMap (flowsOf t rs) := by
  simp only [ofOrdered, List.filterMap_flatMap]
  rfl

/-- The flows whose keys have a property are those of the keys that have it. -/
theorem filter_flows (t : Timeouts) (rs : List Record) (p : Key → Bool) :
    ((ofOrdered t rs).flows.filter fun f => p f.key) =
      ((keysOf rs).filter p).flatMap (flowsOf t rs) := by
  rw [flows_ofOrdered]
  exact filter_flatMap_of_forall fun k _ f hf => by rw [key_of_mem_flowsOf hf]

/-- The flows with a key are the flows of that key. -/
theorem filter_flows_key (t : Timeouts) (rs : List Record) (k : Key) :
    ((ofOrdered t rs).flows.filter fun f => f.key = k) = flowsOf t rs k := by
  rw [filter_flows t rs fun x => x = k, List.filter_eq]
  by_cases hk : k ∈ keysOf rs
  · rw [List.count_eq_one_of_mem (nodup_keysOf rs) hk, List.replicate_one, List.flatMap_singleton]
  · have hpieces : pieces rs k = [] := List.eq_nil_iff_forall_not_mem.2 fun r hr =>
      hk (mem_keysOf.2 ⟨r, mem_pieces.1 hr⟩)
    rw [List.count_eq_zero.2 hk, List.replicate_zero, List.flatMap_nil, flowsOf, chains, hpieces]
    rfl

/-- All chains, key by key. -/
def allChains (t : Timeouts) (rs : List Record) : List (List Record) :=
  (keysOf rs).flatMap (chains t rs)

theorem exists_key_of_mem_allChains {c : List Record} (h : c ∈ allChains t rs) :
    c ≠ [] ∧ ∃ k, ∀ r ∈ c, r.key = k := by
  obtain ⟨k, -, hc⟩ := List.mem_flatMap.1 h
  exact ⟨ne_nil_of_mem_chains hc, k, key_of_mem_chains hc⟩

/-- **The chains make up the records**, in some order. -/
theorem flatten_allChains_perm (t : Timeouts) (rs : List Record) :
    (allChains t rs).flatten.Perm rs := by
  have hflat : (allChains t rs).flatten = (keysOf rs).flatMap (pieces rs) := by
    rw [allChains, flatten_flatMap]
    exact List.flatMap_congr fun k _ => flatten_chains t rs k
  rw [hflat]
  refine (List.Perm.flatMap_left _ fun k _ => pieces_perm rs k).trans ?_
  exact flatMap_filter_perm Record.key (nodup_keysOf rs) fun r hr => mem_keysOf.2 ⟨r, hr, rfl⟩

/-- What absorption adds up has over the flows of chains its sum over the chains. -/
theorem sum_filterMap_flow? {M : Type} [AddCommMonoid M] {v : Record → M}
    (hv : ∀ a b : Record, a.key = b.key → v (a.absorb b) = v a + v b)
    {cs : List (List Record)} (hcs : ∀ c ∈ cs, ∃ k, ∀ r ∈ c, r.key = k) :
    ((cs.filterMap flow?).map v).sum = (cs.flatten.map v).sum := by
  induction cs with
  | nil => rfl
  | cons c cs ih =>
    obtain ⟨k, hk⟩ := hcs c (by simp)
    have hc := sum_flow? hv hk
    have ih := ih fun d hd => hcs d (by simp [hd])
    rw [List.flatten_cons, List.map_append, List.sum_append, ← ih, ← hc]
    cases hf : flow? c with
    | none => simp [hf]
    | some f => simp [hf]

/-- **What absorption adds up is conserved**: its sum over the flows is its
sum over the records. -/
theorem sum_flows {M : Type} [AddCommMonoid M] {v : Record → M}
    (hv : ∀ a b : Record, a.key = b.key → v (a.absorb b) = v a + v b)
    (t : Timeouts) (rs : List Record) :
    ((ofOrdered t rs).flows.map v).sum = (rs.map v).sum := by
  have hflows : (ofOrdered t rs).flows = (allChains t rs).filterMap flow? := rfl
  rw [hflows, sum_filterMap_flow? hv fun c hc => (exists_key_of_mem_allChains hc).2]
  exact ((flatten_allChains_perm t rs).map v).sum_eq

/-- A sum over the flows is that over the flows of one key and those over the others. -/
theorem sum_flows_eq_add {M : Type} [AddCommMonoid M] (u : Record → M) (t : Timeouts)
    {ks : List Key} (h : (keysOf rs).Perm (k :: ks)) :
    ((ofOrdered t rs).flows.map u).sum =
      ((flowsOf t rs k).map u).sum + (ks.map fun x => ((flowsOf t rs x).map u).sum).sum := by
  have hsum : ∀ xs : List Key, ((xs.flatMap (flowsOf t rs)).map u).sum =
      (xs.map fun x => ((flowsOf t rs x).map u).sum).sum := by
    intro xs
    induction xs with
    | nil => rfl
    | cons x xs ih =>
      rw [List.flatMap_cons, List.map_append, List.sum_append, ih, List.map_cons, List.sum_cons]
  rw [flows_ofOrdered, hsum, (h.map _).sum_eq, List.map_cons, List.sum_cons]

/-- **Every record is a flow of its own or merged into one.** -/
theorem merges_add_length_flows (t : Timeouts) (rs : List Record) :
    (ofOrdered t rs).statistics.merges + (ofOrdered t rs).flows.length = rs.length := by
  have hchains : ∀ cs : List (List Record), (∀ c ∈ cs, c ≠ []) →
      cs.foldr (fun chain count => chain.length - 1 + count) 0 + (cs.filterMap flow?).length =
        cs.flatten.length := by
    intro cs hcs
    induction cs with
    | nil => rfl
    | cons c cs ih =>
      have ih := ih fun d hd => hcs d (by simp [hd])
      obtain ⟨r, c, rfl⟩ := List.exists_cons_of_ne_nil (hcs c (by simp))
      have hflow : flow? (r :: c) = some (c.foldl Record.absorb r) := rfl
      rw [List.foldr_cons, List.filterMap_cons_some hflow, List.flatten_cons, List.length_append,
        ← ih, List.length_cons, List.length_cons]
      omega
  have hmerges := hchains (allChains t rs) fun c hc => (exists_key_of_mem_allChains hc).1
  rwa [(flatten_allChains_perm t rs).length_eq] at hmerges

/-! ## Success -/

theorem reversedTraffic?_eq_none {r : Record} : reversedTraffic? r = none ↔ r.isOrdered := by
  cases hr : r.reverse <;> cases hf : r.forward.isOrdered <;>
    simp [reversedTraffic?, Record.isOrdered, hr, hf, Option.filter]

theorem firstReversed?_eq_none : firstReversed? rs = none ↔ ∀ r ∈ rs, r.isOrdered := by
  simp only [firstReversed?, List.findSome?_eq_none_iff, Option.map_eq_none_iff,
    reversedTraffic?_eq_none]
  constructor
  · intro h r hr
    obtain ⟨i, hi, rfl⟩ := List.mem_iff_getElem.1 hr
    exact List.forall_mem_zipIdx.1 h i hi
  · rintro h ⟨r, i⟩ hi
    exact h r (List.fst_mem_of_mem_zipIdx hi)

end Reconciliation

open Reconciliation

/-- **Reconciliation succeeds on ordered records and on no others.** -/
theorem reconcile_eq_ok {t : Timeouts} {rs : List Record} {r : Reconciliation} :
    reconcile t rs = .ok r ↔ (∀ r ∈ rs, r.isOrdered) ∧ r = .ofOrdered t rs := by
  rw [reconcile, ← firstReversed?_eq_none]
  cases firstReversed? rs with
  | none => simp [eq_comm]
  | some fault => simp

/-- So whether it succeeds is decided record by record. -/
theorem isOk_reconcile {t : Timeouts} {rs : List Record} :
    (reconcile t rs).isOk ↔ ∀ r ∈ rs, r.isOrdered := by
  constructor
  · intro h
    cases hr : reconcile t rs with
    | ok r => exact (reconcile_eq_ok.1 hr).1
    | error fault => rw [hr] at h; cases h
  · intro h
    rw [reconcile_eq_ok.2 ⟨h, rfl⟩]
    rfl

/-! ## Samples -/

namespace Sample

/-- Five minutes and thirty seconds. -/
def timeouts : Timeouts := .ofSeconds 300 30

/-- The key of a query that a host sends to a name server. -/
def key : Key where
  source := ⟨⟨.v4, 167772161, by decide⟩, 40000⟩
  target := ⟨⟨.v4, 167772170, by decide⟩, 53⟩
  l3 := 4
  l4 := 17

/-- Traffic of some packets with a hundred bytes each. -/
def traffic (start finish : Int) (packets : Nat) : Traffic :=
  ⟨.ofInt start, .ofInt finish, .clamp packets, .clamp (100 * packets)⟩

/-- A one-way record of such traffic. -/
def record (start finish : Int) (packets : Nat) : Record :=
  ⟨key, traffic start finish packets, none⟩

end Sample

end FlowParity
