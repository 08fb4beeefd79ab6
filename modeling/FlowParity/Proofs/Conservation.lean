import FlowParity.Compare.Segment
import FlowParity.Proofs.Grouping
/-!
# Conservation of traffic

Reconciliation neither creates nor loses packets or bytes, in the whole traffic
or between two networks. Membership in a pair of networks is a matter of the
key, which absorption keeps, so "what a record adds if it is a member" is a
quantity that absorption adds up, and `sum_flows` carries it from the records
to the flows. Clamping does no harm: both totals are the exact sum over the
selected records, cut off once at the largest counter.
-/

namespace FlowParity

open Reconciliation

/-- A sum over selected records is a sum in which the others count nothing. -/
theorem sum_map_filter {α M : Type} [AddCommMonoid M] (p : α → Bool) (v : α → M) (l : List α) :
    ((l.filter p).map v).sum = (l.map fun a => if p a then v a else 0).sum := by
  induction l with
  | nil => rfl
  | cons a l ih =>
    cases ha : p a with
    | false => simp [ha, ih]
    | true => simp [ha, ih]

/-- The selection of an optional pair of networks looks at the key alone. -/
theorem matchesRecord_congr_key (pair : Option SubnetPair) {a b : Record} (h : a.key = b.key) :
    (pair.map Segment.subnet).all (·.matchesRecord a) =
      (pair.map Segment.subnet).all (·.matchesRecord b) := by
  cases pair with
  | none => rfl
  | some pair =>
    simp only [Option.map_some, Option.all_some, Segment.matchesRecord, SubnetPair.matchesRecord,
      SubnetPair.matchesForward, SubnetPair.matchesBackward, h]

/-- What a selection totals is the sum of what its members add. -/
theorem total_select (m : Measure) (segment : Option Segment) (rs : List Record) :
    m.total (Segment.select segment rs) =
      (rs.map fun r => if segment.all (·.matchesRecord r) then m.value r else 0).sum := by
  rw [Measure.total_eq_sum, Segment.select, sum_map_filter]

/-- The flows between two networks total what the records between them do. -/
theorem total_select_flows {m : Measure} (hm : m ≠ .flows) (pair : Option SubnetPair)
    (t : Timeouts) (rs : List Record) :
    m.total (Segment.select (pair.map .subnet) (ofOrdered t rs).flows) =
      m.total (Segment.select (pair.map .subnet) rs) := by
  rw [total_select, total_select]
  refine sum_flows (fun a b hab => ?_) t rs
  rw [matchesRecord_congr_key pair (Record.key_absorb a b),
    matchesRecord_congr_key pair hab.symm, Measure.value_absorb hm]
  split
  · rfl
  · rw [add_zero]

/-- **Traffic is conserved.** The flows of the whole traffic, or of a pair of
networks, have the packets and bytes of the records they were made of, and that
is the exact sum of forward and reverse counters up to the largest counter. -/
theorem total_reconcile {t : Timeouts} {rs : List Record} {r : Reconciliation}
    (h : reconcile t rs = .ok r) (pair : Option SubnetPair) {m : Measure} (hm : m ≠ .flows) :
    m.total (Segment.select (pair.map .subnet) r.flows) =
        m.total (Segment.select (pair.map .subnet) rs) ∧
      (m.total (Segment.select (pair.map .subnet) rs)).toNat =
        Nat.min ((Segment.select (pair.map .subnet) rs).map m.count).sum Counter.maximum := by
  obtain ⟨-, rfl⟩ := reconcile_eq_ok.1 h
  exact ⟨total_select_flows hm pair t rs, m.toNat_total _⟩

/-- A cut record with a reverse side, whose packets fill a counter together. -/
def Sample.full : Record where
  key := key
  forward := traffic 0 300000 2
  reverse := some (traffic 1000 299000 (Counter.maximum - 1))

/-- All traffic from or to the networks of the sample. -/
def Sample.pair : SubnetPair where
  source := some ⟨⟨.v4, 167772160, by decide⟩, 24, by decide, by decide⟩
  target := none
  bothWays := true

/-- The flow of a full record and its rest has as many packets as can be counted. -/
theorem total_reconcile_sample :
    ∃ r, reconcile Sample.timeouts [Sample.record 310000 320000 3, Sample.full] = .ok r ∧
      (Measure.packets.total (Segment.select (some (.subnet Sample.pair)) r.flows)).toNat =
        Counter.maximum := by
  have hr := reconcile_eq_ok (t := Sample.timeouts).2
    ⟨(by decide : ∀ r ∈ [Sample.record 310000 320000 3, Sample.full], r.isOrdered), rfl⟩
  have htotal := total_reconcile hr (some Sample.pair) (m := .packets) (by decide)
  refine ⟨_, hr, ?_⟩
  rw [← Option.map_some, htotal.1, htotal.2]
  decide

end FlowParity
