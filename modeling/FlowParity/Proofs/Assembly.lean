import FlowParity.Proofs.Grouping
/-!
# Assemblies

The pieces of a flow can be put together in many ways, two records at a time. An `Assembly` is
such a way, a tree with the pieces at its leaves. Absorption is associative, and commutative where
the keys agree (`Record.absorb_comm`): the earliest start, the latest end and clamped sums are, and
so is a reverse side, which is merged with another one or carried over. So an assembly comes to
what its pieces come to one after another, in whatever order (`absorb_assembles`).
-/

namespace FlowParity

theorem Traffic.merge_comm (a b : Traffic) : a.merge b = b.merge a := by
  have hmin : a.start.min b.start = b.start.min a.start := by
    ext
    simp only [Millis.ms_min, min_comm]
  have hmax : a.finish.max b.finish = b.finish.max a.finish := by
    ext
    simp only [Millis.ms_max, max_comm]
  simp only [merge, hmin, hmax, Counter.add_comm]

namespace Record

theorem mergeReverse_comm (a b : Option Traffic) : mergeReverse a b = mergeReverse b a := by
  cases a <;> cases b <;> simp [mergeReverse, Traffic.merge_comm]

/-- **Absorption is commutative** on the pieces of one flow; between others the key tells which one
was first. -/
theorem absorb_comm {a b : Record} (h : a.key = b.key) : a.absorb b = b.absorb a := by
  simp only [absorb, h, Traffic.merge_comm b.forward, mergeReverse_comm b.reverse]

/-- **What two records together come to**, across both directions. -/
structure Joins (a b w : Record) : Prop where
  /-- It starts with the first of them. -/
  start : w.spanStart.ms = min a.spanStart.ms b.spanStart.ms
  /-- It ends with the last of them. -/
  finish : w.spanEnd.ms = max a.spanEnd.ms b.spanEnd.ms
  /-- It has the packets of both, clamped. -/
  packets : w.totalPackets = .clamp (a.totalPackets.toNat + b.totalPackets.toNat)
  /-- It has the bytes of both, clamped. -/
  bytes : w.totalBytes = .clamp (a.totalBytes.toNat + b.totalBytes.toNat)

theorem joins_absorb (a b : Record) : Joins a b (a.absorb b) where
  start := by rw [spanStart_absorb, Millis.ms_min]
  finish := by rw [spanEnd_absorb, Millis.ms_max]
  packets := by
    simp only [← Measure.value_packets]
    exact Measure.value_absorb (by decide) a b
  bytes := by
    simp only [← Measure.value_bytes]
    exact Measure.value_absorb (by decide) a b

end Record

/-- A way to put pieces of a flow together, two records at a time. -/
inductive Assembly
  /-- A piece by itself. -/
  | piece (r : Record)
  /-- What comes of one assembly absorbs what comes of another. -/
  | join (a b : Assembly)

namespace Assembly

/-- The pieces from left to right. -/
def pieces : Assembly → List Record
  | piece r => [r]
  | join a b => a.pieces ++ b.pieces

/-- The record that comes of an assembly. -/
def result : Assembly → Record
  | piece r => r
  | join a b => a.result.absorb b.result

end Assembly

namespace Reconciliation

/-- One assembly comes to what its pieces come to one after another. -/
theorem flow?_pieces (t : Assembly) : flow? t.pieces = some t.result := by
  induction t with
  | piece r => rfl
  | join a b iha ihb => exact flow?_append iha ihb

/-- **The order of the pieces makes no difference.** -/
theorem flow?_perm {k : Key} {c d : List Record} (h : c.Perm d) (hk : ∀ r ∈ c, r.key = k) :
    flow? c = flow? d := by
  induction h with
  | nil => rfl
  | @cons r c d h ih =>
    rw [List.forall_mem_cons] at hk
    have hcd := ih hk.2
    cases hc : flow? c with
    | none =>
      -- a piece that stands alone is what it comes to
      rw [flow?_eq_none.1 hc, flow?_eq_none.1 (hcd.symm.trans hc)]
    | some w => rw [flow?_cons hc, flow?_cons (hcd ▸ hc)]
  | swap r s c =>
    have hswap : s.absorb r = r.absorb s :=
      Record.absorb_comm (by rw [hk s (by simp), hk r (by simp)])
    simp only [flow?, List.foldl_cons, hswap]
  | trans hcd _ ihc ihd => rw [ihc hk, ihd fun r hr => hk r (hcd.mem_iff.2 hr)]

end Reconciliation

open Reconciliation

/-- **The pieces of a flow may be put together in any order and bracketing.** Absorption is
associative, commutative where the keys agree, and exact about spans and clamped totals. So every
fold over records of one key and every assembly of them gives the same record. -/
theorem absorb_assembles :
    (∀ a b c : Record, (a.absorb b).absorb c = a.absorb (b.absorb c)) ∧
    (∀ a b : Record, a.key = b.key → a.absorb b = b.absorb a) ∧
    (∀ a b : Record, a.Joins b (a.absorb b)) ∧
    ∀ (k : Key) (c : List Record), c ≠ [] → (∀ r ∈ c, r.key = k) →
      ∃ w, (∀ d : List Record, d.Perm c → flow? d = some w) ∧
        ∀ t : Assembly, t.pieces.Perm c → t.result = w := by
  refine ⟨Record.absorb_assoc, fun a b => Record.absorb_comm, Record.joins_absorb,
    fun k c hne hk => ?_⟩
  obtain ⟨w, hw⟩ : ∃ w, flow? c = some w := by
    obtain ⟨r, rest, rfl⟩ := List.exists_cons_of_ne_nil hne
    exact ⟨_, rfl⟩
  have hfolds : ∀ d : List Record, d.Perm c → flow? d = some w := fun d hd =>
    (flow?_perm hd.symm hk).symm.trans hw
  refine ⟨w, hfolds, fun t ht => ?_⟩
  exact Option.some.inj ((flow?_pieces t).symm.trans (hfolds _ ht))

namespace Sample

/-- A query without an answer. -/
def query : Record := record 0 1000 2

/-- The same flow later on, with an answer that starts before it. -/
def answered : Record := ⟨key, traffic 500 2000 1, some (traffic 400 1500 3)⟩

/-- More of both than can be counted. -/
def flood : Record :=
  ⟨key, traffic 3000 4000 Counter.maximum, some (traffic 3000 5000 Counter.maximum)⟩

end Sample

/-- Three pieces come to the same in two bracketings and orders, past the largest counter. -/
theorem absorb_assembles_sample :
    (Assembly.join (.join (.piece Sample.query) (.piece Sample.answered))
      (.piece Sample.flood)).result = ⟨Sample.key, ⟨.ofInt 0, .ofInt 4000, .clamp Counter.maximum,
        .clamp Counter.maximum⟩, some ⟨.ofInt 400, .ofInt 5000, .clamp Counter.maximum,
        .clamp Counter.maximum⟩⟩ ∧
    (Assembly.join (.piece Sample.flood)
      (.join (.piece Sample.answered) (.piece Sample.query))).result =
      (Assembly.join (.join (.piece Sample.query) (.piece Sample.answered))
        (.piece Sample.flood)).result := by
  obtain ⟨w, -, hw⟩ := absorb_assembles.2.2.2 Sample.key
    [Sample.query, Sample.answered, Sample.flood] (by decide) (by decide)
  refine ⟨by decide, (hw _ ?_).trans (hw _ ?_).symm⟩
  · decide
  · decide

end FlowParity
