import FlowParity.Proofs.Arrangement
import FlowParity.Proofs.Conservation
import Mathlib.Algebra.Order.BigOperators.Group.List
import Mathlib.Algebra.Order.Group.Nat
/-!
# Flows and their pieces in segments

A segment reads the key and the span of a record. Absorption keeps the key and takes the
earliest start and the latest end, so two records together lie in a segment exactly if each of
them does (`Segment.matchesRecord_absorb`), and a flow does exactly if all its pieces do
(`Segment.matchesRecord_flow?`). What a flow counts in a segment is therefore counted by pieces
that lie there too: reconciliation may take traffic out of a window of time, where a piece
outside of it drags the others along, and never moves any into it (`matches_iff_pieces_match`).
-/

namespace FlowParity

open Reconciliation

/-! ## Two records together -/

/-- A window of time holds two records together if it holds each of them. -/
theorem TimeWindow.matchesRecord_absorb (w : TimeWindow) (a b : Record) :
    w.matchesRecord (a.absorb b) ↔ w.matchesRecord a ∧ w.matchesRecord b := by
  simp only [matchesRecord, Record.spanStart_absorb, Record.spanEnd_absorb, Bool.and_eq_true,
    Option.all_eq_true, decide_eq_true_eq, Millis.le_def, Millis.ms_min, Millis.ms_max, le_min_iff,
    max_le_iff]
  constructor
  · rintro ⟨hstart, hfinish⟩
    exact ⟨⟨fun s hs => (hstart s hs).1, fun e he => (hfinish e he).1⟩,
      fun s hs => (hstart s hs).2, fun e he => (hfinish e he).2⟩
  · rintro ⟨⟨hsa, hea⟩, hsb, heb⟩
    exact ⟨fun s hs => ⟨hsa s hs, hsb s hs⟩, fun e he => ⟨hea e he, heb e he⟩⟩

/-- **Two pieces of one flow lie in a segment together** if each of them does. -/
theorem Segment.matchesRecord_absorb (segment : Segment) {a b : Record} (h : a.key = b.key) :
    segment.matchesRecord (a.absorb b) ↔ segment.matchesRecord a ∧ segment.matchesRecord b := by
  cases segment with
  | subnet pair =>
    have hab : pair.matchesRecord a = pair.matchesRecord b :=
      matchesRecord_congr_key (some pair) h
    have habsorb : pair.matchesRecord (a.absorb b) = pair.matchesRecord a :=
      matchesRecord_congr_key (some pair) (Record.key_absorb a b)
    simp only [matchesRecord, habsorb, hab, and_self]
  | time w => exact w.matchesRecord_absorb a b

/-- What merging at most adds up in one direction, absorption at most adds up over both. -/
theorem Record.absorb_le_add {g : Traffic → Nat} (hg : ∀ s t, g (s.merge t) ≤ g s + g t)
    (a b : Record) :
    g (a.absorb b).forward + ((a.absorb b).reverse.map g).getD 0 ≤
      (g a.forward + (a.reverse.map g).getD 0) + (g b.forward + (b.reverse.map g).getD 0) := by
  have hforward : g (a.absorb b).forward ≤ g a.forward + g b.forward := hg _ _
  have hreverse : ((a.absorb b).reverse.map g).getD 0 ≤
      (a.reverse.map g).getD 0 + (b.reverse.map g).getD 0 := by
    rw [absorb]
    cases a.reverse <;> cases b.reverse <;> simp [mergeReverse, hg]
  omega

/-- Two records together count at most what they count apart. -/
theorem Measure.count_absorb_le (m : Measure) (a b : Record) :
    m.count (a.absorb b) ≤ m.count a + m.count b := by
  cases m with
  | packets =>
    exact Record.absorb_le_add (g := fun s => s.packets.toNat) (fun _ _ => Nat.min_le_left _ _) a b
  | bytes =>
    exact Record.absorb_le_add (g := fun s => s.bytes.toNat) (fun _ _ => Nat.min_le_left _ _) a b
  | flows => exact Nat.le_add_left 1 1

/-! ## Whole chains -/

section Chains

variable {t : Timeouts} {rs : List Record} {k : Key}

/-- **A flow lies in a segment** if all its pieces do. -/
theorem Segment.matchesRecord_flow? (segment : Segment) {chain : List Record} {flow : Record}
    (hk : ∀ p ∈ chain, p.key = k) (h : flow? chain = some flow) :
    segment.matchesRecord flow ↔ ∀ p ∈ chain, segment.matchesRecord p := by
  revert hk
  refine flow?_induction (P := fun chain flow => (∀ p ∈ chain, p.key = k) →
    (segment.matchesRecord flow ↔ ∀ p ∈ chain, segment.matchesRecord p)) (fun r _ => ?_)
    (fun a chain flow hflow ih hk => ?_) h
  · rw [List.forall_mem_singleton]
  · obtain ⟨ha, hchain⟩ := List.forall_mem_cons.1 hk
    have hkey : a.key = flow.key := ha.trans (key_of_flow? hchain hflow).symm
    rw [segment.matchesRecord_absorb hkey, ih hchain, List.forall_mem_cons]

/-- What at most adds up when two records are absorbed at most adds up along a chain. -/
theorem flow?_le_sum {v : Record → Nat}
    (hv : ∀ a b : Record, a.key = b.key → v (a.absorb b) ≤ v a + v b) {chain : List Record}
    {flow : Record} (hk : ∀ p ∈ chain, p.key = k) (h : flow? chain = some flow) :
    v flow ≤ (chain.map v).sum := by
  revert hk
  refine flow?_induction (P := fun chain flow => (∀ p ∈ chain, p.key = k) →
    v flow ≤ (chain.map v).sum) (fun r _ => ?_) (fun a chain flow hflow ih hk => ?_) h
  · rw [List.map_singleton, List.sum_singleton]
  · obtain ⟨ha, hchain⟩ := List.forall_mem_cons.1 hk
    have habsorb := hv a flow (ha.trans (key_of_flow? hchain hflow).symm)
    rw [List.map_cons, List.sum_cons]
    exact habsorb.trans (Nat.add_le_add_left (ih hchain) _)

/-- What holds of every chain of one key and what it comes to holds of the chains and the flows. -/
theorem forall₂_flows {P : List Record → Record → Prop}
    (hP : ∀ chain flow k, (∀ p ∈ chain, p.key = k) → flow? chain = some flow → P chain flow)
    (t : Timeouts) (rs : List Record) :
    List.Forall₂ P (allChains t rs) (ofOrdered t rs).flows := by
  have hkeys : ∀ chain ∈ allChains t rs, ∃ k, ∀ p ∈ chain, p.key = k := fun chain hchain =>
    (exists_key_of_mem_allChains hchain).2
  have hchains := (List.forall₂_and_left _ _).2 ⟨hkeys, forall₂_allChains_flows t rs⟩
  refine hchains.imp fun chain flow h => ?_
  obtain ⟨⟨k, hk⟩, hflow⟩ := h
  exact hP chain flow k hk hflow

/-- What at most adds up has over the flows at most its sum over the records. -/
theorem sum_flows_le {v : Record → Nat}
    (hv : ∀ a b : Record, a.key = b.key → v (a.absorb b) ≤ v a + v b) (t : Timeouts)
    (rs : List Record) : ((ofOrdered t rs).flows.map v).sum ≤ (rs.map v).sum := by
  have hle : List.Forall₂ (fun flow chain => v flow ≤ (chain.map v).sum) (ofOrdered t rs).flows
      (allChains t rs) :=
    (forall₂_flows (P := fun chain flow => v flow ≤ (chain.map v).sum)
      (fun _ _ _ hk hflow => flow?_le_sum hv hk hflow) t rs).flip
  calc ((ofOrdered t rs).flows.map v).sum
      ≤ ((allChains t rs).map fun chain => (chain.map v).sum).sum :=
        List.Forall₂.sum_le_sum
          (List.forall₂_map_left_iff.2 (List.forall₂_map_right_iff.2 hle))
    _ = ((allChains t rs).flatten.map v).sum := by
        rw [List.map_flatten, List.sum_flatten, List.map_map]
        rfl
    _ = (rs.map v).sum := ((flatten_allChains_perm t rs).map v).sum_eq

/-- **Flows count in a segment at most what records count there.** -/
theorem Measure.total_select_flows_le (m : Measure) (segment : Option Segment) (t : Timeouts)
    (rs : List Record) :
    (m.total (Segment.select segment (ofOrdered t rs).flows)).toNat ≤
      (m.total (Segment.select segment rs)).toNat := by
  have hsum : ((Segment.select segment (ofOrdered t rs).flows).map m.count).sum ≤
      ((Segment.select segment rs).map m.count).sum := by
    rw [Segment.select, Segment.select, sum_map_filter, sum_map_filter]
    refine sum_flows_le (fun a b hab => ?_) t rs
    cases segment with
    | none => exact m.count_absorb_le a b
    | some segment =>
      -- what the two count together in the segment, each of them counts there
      simp only [Option.all_some, segment.matchesRecord_absorb hab]
      split
      · rename_i hboth
        rw [if_pos hboth.1, if_pos hboth.2]
        exact m.count_absorb_le a b
      · exact Nat.zero_le _
  rw [toNat_total, toNat_total]
  exact min_le_min_right _ hsum

end Chains

/-- **A flow is in a segment exactly when all its pieces are.** Where reconciliation succeeds, its
flows are those of its chains in order, which hold every record once; a flow belongs to a segment
of any kind if and only if every record of its chain does; and over any segment, or the whole
traffic, the total of any measure is no greater for the flows than for the records. -/
theorem matches_iff_pieces_match {t : Timeouts} {rs : List Record} {r : Reconciliation}
    (h : reconcile t rs = .ok r) :
    (allChains t rs).flatten.Perm rs ∧
    List.Forall₂ (fun chain flow => flow? chain = some flow ∧
      ∀ segment : Segment, segment.matchesRecord flow ↔ ∀ p ∈ chain, segment.matchesRecord p)
      (allChains t rs) r.flows ∧
    ∀ (m : Measure) (segment : Option Segment),
      (m.total (Segment.select segment r.flows)).toNat ≤
        (m.total (Segment.select segment rs)).toNat := by
  obtain ⟨-, rfl⟩ := reconcile_eq_ok.1 h
  exact ⟨flatten_allChains_perm t rs,
    forall₂_flows (fun _ _ _ hk hflow =>
      ⟨hflow, fun segment => segment.matchesRecord_flow? hk hflow⟩) t rs,
    fun m segment => m.total_select_flows_le segment t rs⟩

namespace Sample

/-- A flow in two pieces, of which the first has a reverse side that ends after its forward one. -/
def overrun : List Record :=
  [record 300030 310000 3, ⟨key, traffic 0 300000 2, some (traffic 1000 300020 4)⟩]

/-- Everything until the first piece has ended. -/
def untilCut : TimeWindow := ⟨none, some (.ofInt 300020)⟩

end Sample

/-- The first piece lies in a window and the second does not, so the flow does not either. -/
theorem matches_iff_pieces_match_sample :
    ∃ r, reconcile Sample.timeouts Sample.overrun = .ok r ∧
      List.Forall₂ (fun chain flow => flow? chain = some flow ∧
        ∀ segment : Segment, segment.matchesRecord flow ↔ ∀ p ∈ chain, segment.matchesRecord p)
        (allChains Sample.timeouts Sample.overrun) r.flows ∧
      (Measure.packets.total
        (Segment.select (some (.time Sample.untilCut)) r.flows)).toNat ≤ 6 := by
  have hr := reconcile_eq_ok (t := Sample.timeouts).2
    ⟨(by decide : ∀ r ∈ Sample.overrun, r.isOrdered), rfl⟩
  obtain ⟨-, hpieces, hle⟩ := matches_iff_pieces_match hr
  have hrecords : (Measure.packets.total (Segment.select (some (.time Sample.untilCut))
      Sample.overrun)).toNat = 6 := by decide
  exact ⟨_, hr, hpieces, hrecords ▸ hle .packets _⟩

end FlowParity
