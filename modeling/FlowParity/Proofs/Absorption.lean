import FlowParity.Proofs.Clamping
import FlowParity.Proofs.Spans
/-!
# Absorption

What a chain comes to when its records are absorbed into the first. The result
is pinned down without the fold by `Record.Unites`: earliest starts, latest
ends and counters that are clamped once, for either direction. Two readings of
it carry the theory of reconciliation. Its span is the hull of the spans
(`map_span_flow?`), and every quantity that absorption adds up has on it the
sum over the chain (`sum_flow?`), which the totals of packets and bytes are
cases of (`Measure.value_absorb`).
-/

namespace FlowParity

/-- **What several directions of traffic come to together**: the earliest
start, the latest end and the counters added up, clamped once. -/
structure Traffic.Sums (t : Traffic) (ts : List Traffic) : Prop where
  /-- It starts with one of them. -/
  start_mem : t.start ∈ ts.map Traffic.start
  /-- None of them starts earlier. -/
  start_le : ∀ s ∈ ts, t.start ≤ s.start
  /-- It ends with one of them. -/
  finish_mem : t.finish ∈ ts.map Traffic.finish
  /-- None of them ends later. -/
  le_finish : ∀ s ∈ ts, s.finish ≤ t.finish
  /-- It has the packets of all. -/
  packets : t.packets = .clamp (ts.map fun s => s.packets.toNat).sum
  /-- It has the bytes of all. -/
  bytes : t.bytes = .clamp (ts.map fun s => s.bytes.toNat).sum

namespace Traffic

theorem sums_singleton (t : Traffic) : t.Sums [t] where
  start_mem := by simp
  start_le s hs := by
    rw [List.mem_singleton.1 hs, Millis.le_def]
  finish_mem := by simp
  le_finish s hs := by
    rw [List.mem_singleton.1 hs, Millis.le_def]
  packets := by simp
  bytes := by simp

/-- Merging one more keeps the account. -/
theorem Sums.merge {t : Traffic} {ts : List Traffic} (h : t.Sums ts) (u : Traffic) :
    (t.merge u).Sums (ts ++ [u]) where
  start_mem := by
    rw [List.map_append, List.mem_append]
    simp only [Traffic.merge, Millis.min]
    split
    · exact Or.inl h.start_mem
    · exact Or.inr (by simp)
  start_le s hs := by
    rw [Traffic.merge, Millis.le_def, Millis.ms_min]
    rcases List.mem_append.1 hs with hs | hs
    · have := h.start_le s hs
      rw [Millis.le_def] at this
      omega
    · rw [List.mem_singleton.1 hs]
      omega
  finish_mem := by
    rw [List.map_append, List.mem_append]
    simp only [Traffic.merge, Millis.max]
    split
    · exact Or.inr (by simp)
    · exact Or.inl h.finish_mem
  le_finish s hs := by
    rw [Traffic.merge, Millis.le_def, Millis.ms_max]
    rcases List.mem_append.1 hs with hs | hs
    · have := h.le_finish s hs
      rw [Millis.le_def] at this
      omega
    · rw [List.mem_singleton.1 hs]
      omega
  packets := by
    rw [List.map_append, List.sum_append, Counter.clamp_add, ← h.packets]
    simp [Traffic.merge]
  bytes := by
    rw [List.map_append, List.sum_append, Counter.clamp_add, ← h.bytes]
    simp [Traffic.merge]

theorem merge_assoc (a b c : Traffic) : (a.merge b).merge c = a.merge (b.merge c) := by
  have hmin : (a.start.min b.start).min c.start = a.start.min (b.start.min c.start) := by
    ext
    simp only [Millis.ms_min, min_assoc]
  have hmax : (a.finish.max b.finish).max c.finish = a.finish.max (b.finish.max c.finish) := by
    ext
    simp only [Millis.ms_max, max_assoc]
  simp only [merge, hmin, hmax, Counter.add_assoc]

end Traffic

/-- **What the pieces of one flow come to as one record.** A reverse side is
there if any piece has one, and unites those that are there. -/
structure Record.Unites (w : Record) (ps : List Record) : Prop where
  /-- All pieces have its key. -/
  key : ∀ p ∈ ps, p.key = w.key
  /-- Its forward traffic is that of all pieces. -/
  forward : w.forward.Sums (ps.map Record.forward)
  /-- It has no reverse side if no piece has one. -/
  reverse_none : w.reverse = none ↔ ∀ p ∈ ps, p.reverse = none
  /-- Its reverse side is that of all pieces that have one. -/
  reverse : ∀ back, w.reverse = some back → back.Sums (ps.filterMap Record.reverse)

namespace Record

@[simp] theorem key_absorb (a b : Record) : (a.absorb b).key = a.key := rfl

theorem mergeReverse_eq_none {a b : Option Traffic} :
    mergeReverse a b = none ↔ a = none ∧ b = none := by
  cases a <;> cases b <;> simp [mergeReverse]

theorem mergeReverse_assoc (a b c : Option Traffic) :
    mergeReverse (mergeReverse a b) c = mergeReverse a (mergeReverse b c) := by
  cases a <;> cases b <;> cases c <;> simp [mergeReverse, Traffic.merge_assoc]

theorem unites_singleton (r : Record) : r.Unites [r] where
  key p hp := by rw [List.mem_singleton.1 hp]
  forward := r.forward.sums_singleton
  reverse_none := by simp
  reverse back h := by
    rw [List.filterMap_cons_some h, List.filterMap_nil]
    exact back.sums_singleton

/-- Absorbing one more piece keeps the account. -/
theorem Unites.absorb {w : Record} {ps : List Record} (h : w.Unites ps) {r : Record}
    (hk : r.key = w.key) : (w.absorb r).Unites (ps ++ [r]) where
  key p hp := by
    rcases List.mem_append.1 hp with hp | hp
    · exact h.key p hp
    · rw [List.mem_singleton.1 hp, hk, key_absorb]
  forward := by
    rw [List.map_append]
    exact h.forward.merge r.forward
  reverse_none := by
    rw [Record.absorb, mergeReverse_eq_none, List.forall_mem_append, h.reverse_none,
      List.forall_mem_singleton]
  reverse back hb := by
    rw [List.filterMap_append]
    cases hw : w.reverse with
    | none =>
      -- no earlier piece has a reverse side, so that of the last one stands alone
      have hnone : ps.filterMap Record.reverse = [] := by
        rw [List.filterMap_eq_nil_iff]
        exact h.reverse_none.1 hw
      have hr : r.reverse = some back := by simpa [Record.absorb, mergeReverse, hw] using hb
      rw [hnone, List.nil_append, List.filterMap_cons_some hr, List.filterMap_nil]
      exact back.sums_singleton
    | some a =>
      cases hr : r.reverse with
      | none =>
        have hab : a = back := by simpa [Record.absorb, mergeReverse, hw, hr] using hb
        rw [List.filterMap_cons_none hr, List.filterMap_nil, List.append_nil]
        exact hab ▸ h.reverse a hw
      | some c =>
        have hab : a.merge c = back := by simpa [Record.absorb, mergeReverse, hw, hr] using hb
        rw [List.filterMap_cons_some hr, List.filterMap_nil]
        exact hab ▸ (h.reverse a hw).merge c

/-- The fold keeps the account of all it has absorbed. -/
theorem Unites.foldl {w : Record} {ps : List Record} (h : w.Unites ps) {rest : List Record}
    (hk : ∀ r ∈ rest, r.key = w.key) : (rest.foldl Record.absorb w).Unites (ps ++ rest) := by
  induction rest generalizing w ps with
  | nil => simpa using h
  | cons r rest ih =>
    rw [List.foldl_cons, List.append_cons]
    exact ih (h.absorb (hk r (by simp))) fun q hq => hk q (by simp [hq])

/-- **Absorbing the rest of a chain into its first record unites the chain.** -/
theorem unites_foldl {first : Record} {rest : List Record}
    (hk : ∀ r ∈ rest, r.key = first.key) :
    (rest.foldl Record.absorb first).Unites (first :: rest) :=
  (unites_singleton first).foldl hk

/-- A united record starts no later than its pieces. -/
theorem Unites.spanStart_le {w : Record} {ps : List Record} (h : w.Unites ps) {p : Record}
    (hp : p ∈ ps) : w.spanStart.ms ≤ p.spanStart.ms := by
  have hf := h.forward.start_le _ (List.mem_map_of_mem hp)
  rw [Millis.le_def] at hf
  unfold spanStart
  cases hw : w.reverse with
  | none =>
    rw [h.reverse_none.1 hw p hp]
    exact hf
  | some back =>
    cases hr : p.reverse with
    | none => simp only [Millis.ms_min]; omega
    | some c =>
      have hb := (h.reverse back hw).start_le c (List.mem_filterMap.2 ⟨p, hp, hr⟩)
      rw [Millis.le_def] at hb
      simp only [Millis.ms_min]
      omega

/-- And ends no earlier. -/
theorem Unites.le_spanEnd {w : Record} {ps : List Record} (h : w.Unites ps) {p : Record}
    (hp : p ∈ ps) : p.spanEnd.ms ≤ w.spanEnd.ms := by
  have hf := h.forward.le_finish _ (List.mem_map_of_mem hp)
  rw [Millis.le_def] at hf
  unfold spanEnd
  cases hw : w.reverse with
  | none =>
    rw [h.reverse_none.1 hw p hp]
    exact hf
  | some back =>
    cases hr : p.reverse with
    | none => simp only [Millis.ms_max]; omega
    | some c =>
      have hb := (h.reverse back hw).le_finish c (List.mem_filterMap.2 ⟨p, hp, hr⟩)
      rw [Millis.le_def] at hb
      simp only [Millis.ms_max]
      omega

/-- **Absorption is associative**: pieces may be put together in any bracketing. -/
theorem absorb_assoc (a b c : Record) : (a.absorb b).absorb c = a.absorb (b.absorb c) := by
  simp only [Record.absorb, Traffic.merge_assoc, mergeReverse_assoc]

instance : Std.Associative Record.absorb := ⟨absorb_assoc⟩

theorem spanStart_absorb (a b : Record) :
    (a.absorb b).spanStart = a.spanStart.min b.spanStart := by
  ext
  unfold spanStart
  cases ha : a.reverse <;> cases hb : b.reverse <;>
    simp [Record.absorb, mergeReverse, Traffic.merge, ha, hb] <;> omega

theorem spanEnd_absorb (a b : Record) : (a.absorb b).spanEnd = a.spanEnd.max b.spanEnd := by
  ext
  unfold spanEnd
  cases ha : a.reverse <;> cases hb : b.reverse <;>
    simp [Record.absorb, mergeReverse, Traffic.merge, ha, hb] <;> omega

/-- The span of two records together is the hull of their spans. -/
theorem span_absorb (a b : Record) : (a.absorb b).span = a.span.hull b.span := by
  rw [span, spanStart_absorb, spanEnd_absorb]
  rfl

/-- What merging adds up in one direction, absorption adds up over both. -/
theorem add_reverse_absorb {g : Traffic → Counter} (hg : ∀ s t, g (s.merge t) = g s + g t)
    (a b : Record) :
    g (a.absorb b).forward + ((a.absorb b).reverse.map g).getD .zero =
      (g a.forward + (a.reverse.map g).getD .zero) +
        (g b.forward + (b.reverse.map g).getD .zero) := by
  have hreverse : ((mergeReverse a.reverse b.reverse).map g).getD .zero =
      (a.reverse.map g).getD .zero + (b.reverse.map g).getD .zero := by
    cases a.reverse <;> cases b.reverse <;> simp [mergeReverse, hg, ← Counter.zero_def]
  simp only [absorb, hg, hreverse]
  exact add_add_add_comm _ _ _ _

end Record

namespace Measure

/-- **Absorption adds packets and bytes up**, clamped or not. -/
theorem value_absorb {m : Measure} (hm : m ≠ flows) (a b : Record) :
    m.value (a.absorb b) = m.value a + m.value b := by
  cases m with
  | packets =>
    simp only [value_packets, Record.totalPackets]
    exact Record.add_reverse_absorb (fun _ _ => rfl) a b
  | bytes =>
    simp only [value_bytes, Record.totalBytes]
    exact Record.add_reverse_absorb (fun _ _ => rfl) a b
  | flows => exact absurd rfl hm

end Measure

namespace Reconciliation

/-- The span of a chain of spans. -/
def hull? : List Span → Option Span
  | [] => none
  | s :: rest => some (rest.foldl Span.hull s)

/-- **The span of a flow depends on the spans of its chain alone.** -/
theorem map_span_flow? (chain : List Record) :
    (flow? chain).map Record.span = hull? (chain.map Record.span) := by
  cases chain with
  | nil => rfl
  | cons first rest =>
    simp only [flow?, Option.map_some, List.map_cons, hull?, Option.some.injEq]
    induction rest generalizing first with
    | nil => rfl
    | cons r rest ih => rw [List.foldl_cons, ih, Record.span_absorb, List.map_cons, List.foldl_cons]

theorem flow?_eq_none {c : List Record} : flow? c = none ↔ c = [] := by
  cases c <;> simp [flow?]

/-- A record before a chain absorbs what the chain comes to. -/
theorem flow?_cons {chain : List Record} {flow : Record} (h : flow? chain = some flow)
    (a : Record) : flow? (a :: chain) = some (a.absorb flow) := by
  cases chain with
  | nil => cases h
  | cons b chain =>
    rw [← Option.some.inj h]
    exact congrArg some List.foldl_assoc

/-- **Induction over a chain**, from its last record to its first, along with what it comes to. -/
theorem flow?_induction {P : List Record → Record → Prop} (last : ∀ r, P [r] r)
    (cons : ∀ a chain flow, flow? chain = some flow → P chain flow →
      P (a :: chain) (a.absorb flow))
    {chain : List Record} {flow : Record} (h : flow? chain = some flow) : P chain flow := by
  induction chain generalizing flow with
  | nil => cases h
  | cons a chain ih =>
    cases hrest : flow? chain with
    | none =>
      cases chain with
      | nil => exact Option.some.inj h ▸ last a
      | cons b chain => cases hrest
    | some f =>
      rw [flow?_cons hrest] at h
      exact Option.some.inj h ▸ cons a chain f hrest (ih hrest)

/-- Two chains after each other come to what they come to, one absorbed into the other. -/
theorem flow?_append {c d : List Record} {a b : Record} (hc : flow? c = some a)
    (hd : flow? d = some b) : flow? (c ++ d) = some (a.absorb b) := by
  refine flow?_induction (P := fun c a => flow? (c ++ d) = some (a.absorb b)) (fun r => ?_)
    (fun r c a _ ih => ?_) hc
  · exact flow?_cons hd r
  · rw [List.cons_append, flow?_cons ih, Record.absorb_assoc]

/-- A flow has the key of its chain. -/
theorem key_of_flow? {chain : List Record} {k : Key} (hk : ∀ r ∈ chain, r.key = k)
    {flow : Record} (h : flow? chain = some flow) : flow.key = k := by
  cases chain with
  | nil => cases h
  | cons first rest =>
    have hu : (rest.foldl Record.absorb first).Unites (first :: rest) :=
      Record.unites_foldl fun r hr => by rw [hk r (by simp [hr]), hk first (by simp)]
    rw [← Option.some.inj h, ← hu.key first (by simp)]
    exact hk first (by simp)

/-- **A quantity that absorption adds up has on a flow its sum over the chain.** -/
theorem sum_flow? {M : Type} [AddCommMonoid M] {v : Record → M}
    (hv : ∀ a b : Record, a.key = b.key → v (a.absorb b) = v a + v b)
    {chain : List Record} {k : Key} (hk : ∀ r ∈ chain, r.key = k) :
    ((flow? chain).map v).getD 0 = (chain.map v).sum := by
  cases chain with
  | nil => rfl
  | cons first rest =>
    simp only [flow?, Option.map_some, Option.getD_some, List.map_cons, List.sum_cons]
    induction rest generalizing first with
    | nil => simp
    | cons r rest ih =>
      have hr : first.key = r.key := by rw [hk first (by simp), hk r (by simp)]
      have hrest : ∀ q ∈ first.absorb r :: rest, q.key = k := by
        intro q hq
        rcases List.mem_cons.1 hq with rfl | hq
        · exact hk first (by simp)
        · exact hk q (by simp [hq])
      rw [List.foldl_cons, ih _ hrest, hv _ _ hr, List.map_cons, List.sum_cons, add_assoc]

end Reconciliation

end FlowParity
