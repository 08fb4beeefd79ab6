import FlowParity.Proofs.Conservation
/-!
# Traffic both ways

The traffic between two networks is what goes from the one to the other and what goes the other
way, put together (`SubnetPair.matchesRecord_twoWay`). A record may go both ways at once: the
networks may overlap, be the same one or be left open. So the two directions add up to the traffic
between the networks and, once more, to the records that go both ways
(`SubnetPair.total_twoWay_add`). This holds of every measure, also where counters are full.
-/

namespace FlowParity

/-! ## Two selections -/

section Selections

variable {α M : Type} [AddCommMonoid M]

/-- What satisfies either condition, and once more what satisfies both, is what satisfies the one
and what satisfies the other. -/
theorem sum_filter_or_add_and (p q : α → Bool) (v : α → M) (l : List α) :
    ((l.filter fun a => p a || q a).map v).sum + ((l.filter fun a => p a && q a).map v).sum =
      ((l.filter p).map v).sum + ((l.filter q).map v).sum := by
  have heach : ∀ a, (if p a || q a then v a else 0) + (if p a && q a then v a else 0) =
      (if p a then v a else 0) + if q a then v a else 0 := by
    intro a
    cases p a <;> cases q a <;> simp
  simp only [sum_map_filter, ← List.sum_map_add, heach]

/-- The same of numbers of elements. -/
theorem length_filter_or_add_and (p q : α → Bool) (l : List α) :
    (l.filter fun a => p a || q a).length + (l.filter fun a => p a && q a).length =
      (l.filter p).length + (l.filter q).length := by
  have hone : ∀ k : List α, k.length = (k.map fun _ => 1).sum := fun k => by simp
  rw [hone, hone, hone, hone]
  exact sum_filter_or_add_and p q (fun _ => 1) l

end Selections

/-- The record with its two addresses exchanged and the ports where they are. -/
def Record.crossed (r : Record) : Record :=
  { r with key := { r.key with
      source := { r.key.source with address := r.key.target.address }
      target := { r.key.target with address := r.key.source.address } } }

namespace SubnetPair

variable (a b : Option Network)

/-- What goes from the first network to the second. -/
def oneWay : SubnetPair := ⟨a, b, false⟩

/-- What goes from either network to the other. -/
def twoWay : SubnetPair := ⟨a, b, true⟩

theorem matchesRecord_oneWay (r : Record) : (oneWay a b).matchesRecord r =
    (admits a r.key.source.address && admits b r.key.target.address) := Bool.or_false _

/-- **Either direction will do.** -/
theorem matchesRecord_twoWay (r : Record) : (twoWay a b).matchesRecord r =
    ((oneWay a b).matchesRecord r || (oneWay b a).matchesRecord r) := by
  rw [matchesRecord_oneWay, matchesRecord_oneWay,
    Bool.and_comm (admits b r.key.source.address)]
  rfl

/-- What goes one way goes the other way with its addresses exchanged. -/
theorem matchesRecord_crossed (r : Record) :
    (oneWay a b).matchesRecord r.crossed = (oneWay b a).matchesRecord r := by
  rw [matchesRecord_oneWay, matchesRecord_oneWay, Bool.and_comm]
  rfl

/-- The records that go both ways at once. -/
def common (rs : List Record) : List Record :=
  rs.filter fun r => (oneWay a b).matchesRecord r && (oneWay b a).matchesRecord r

variable {a b} in
theorem select_twoWay (rs : List Record) : Segment.select (some (.subnet (twoWay a b))) rs =
    rs.filter fun r => (oneWay a b).matchesRecord r || (oneWay b a).matchesRecord r :=
  List.filter_congr fun r _ => matchesRecord_twoWay a b r

/-- **Both directions by themselves** count what both together do and what goes both ways. -/
theorem total_twoWay_add (m : Measure) (rs : List Record) :
    m.total (Segment.select (some (.subnet (twoWay a b))) rs) + m.total (common a b rs) =
      m.total (Segment.select (some (.subnet (oneWay a b))) rs) +
        m.total (Segment.select (some (.subnet (oneWay b a))) rs) := by
  rw [select_twoWay]
  simp only [Measure.total_eq_sum]
  exact sum_filter_or_add_and _ _ m.value rs

theorem length_twoWay_add (rs : List Record) :
    (Segment.select (some (.subnet (twoWay a b))) rs).length + (common a b rs).length =
      (Segment.select (some (.subnet (oneWay a b))) rs).length +
        (Segment.select (some (.subnet (oneWay b a))) rs).length := by
  rw [select_twoWay]
  exact length_filter_or_add_and _ _ rs

/-- **Traffic both ways is the union of its directions.** For any two networks, absent or not, a
record goes between them exactly if it goes one way or the other; this stays so when its addresses
are exchanged, or the networks. What a list of records comes to by any measure between the
networks, and once more what goes both ways at once, is what its two directions come to, in
clamped counters. In particular the flows between the networks are those of one direction and of
the other, less the ones that go both ways, as long as there are no more records than can be
counted. -/
theorem twoWay_union :
    (∀ r, (Segment.subnet (twoWay a b)).matchesRecord r ↔
      (Segment.subnet (oneWay a b)).matchesRecord r ∨
        (Segment.subnet (oneWay b a)).matchesRecord r) ∧
    (∀ r, (Segment.subnet (twoWay a b)).matchesRecord r.crossed =
      (Segment.subnet (twoWay a b)).matchesRecord r) ∧
    (∀ r, (Segment.subnet (twoWay b a)).matchesRecord r =
      (Segment.subnet (twoWay a b)).matchesRecord r) ∧
    ∀ rs : List Record,
      (∀ m : Measure, m.total (Segment.select (some (.subnet (twoWay a b))) rs) +
          m.total (common a b rs) =
        m.total (Segment.select (some (.subnet (oneWay a b))) rs) +
          m.total (Segment.select (some (.subnet (oneWay b a))) rs)) ∧
      (rs.length ≤ Counter.maximum →
        (Measure.flows.total (Segment.select (some (.subnet (twoWay a b))) rs)).toNat =
          (Measure.flows.total (Segment.select (some (.subnet (oneWay a b))) rs)).toNat +
            (Measure.flows.total (Segment.select (some (.subnet (oneWay b a))) rs)).toNat -
          (common a b rs).length) := by
  refine ⟨fun r => ?_, fun r => ?_, fun r => ?_, fun rs => ⟨fun m => total_twoWay_add a b m rs, ?_⟩⟩
  · rw [Segment.matchesRecord, matchesRecord_twoWay, Bool.or_eq_true]
    rfl
  · rw [Segment.matchesRecord, Segment.matchesRecord, matchesRecord_twoWay, matchesRecord_twoWay,
      matchesRecord_crossed, matchesRecord_crossed, Bool.or_comm]
  · rw [Segment.matchesRecord, Segment.matchesRecord, matchesRecord_twoWay, matchesRecord_twoWay,
      Bool.or_comm]
  · intro hlength
    -- no selection has more records than the list, so none of the counts is cut off
    have hcount : ∀ s : Segment, (Measure.flows.total (Segment.select (some s) rs)).toNat =
        (Segment.select (some s) rs).length := fun s =>
      Nat.min_eq_left ((List.length_filter_le _ rs).trans hlength)
    have hadd := length_twoWay_add a b rs
    rw [hcount, hcount, hcount]
    omega

end SubnetPair

namespace Sample

/-- The network 10.0.0.0 with some number of shared bits. -/
def block (length : Nat) (h : length ≤ 32) : Network := .of (.ofNat .v4 167772160) length h

/-- A record between two addresses. -/
def talk (source target : Address) : Record :=
  { record 0 1000 1 with
    key := { key with source := ⟨source, 40000⟩, target := ⟨target, 53⟩ } }

/-- Records into, out of and inside of the smaller of two networks, and one of the other family. -/
def inward : List Record :=
  let inner : Address := .ofNat .v4 167772161
  let outer : Address := .ofNat .v4 167837697
  let other : Address := .ofNat .v6 167772161
  [talk outer inner, talk inner outer, talk inner inner, talk other inner]

end Sample

/-- What stays inside the smaller of two nested networks goes both ways and is counted once. -/
theorem twoWay_union_sample :
    let outer := some (Sample.block 8 (by decide))
    let inner := some (Sample.block 24 (by decide))
    Sample.inward.length ≤ Counter.maximum ∧
      (Measure.flows.total (Segment.select (some (.subnet (SubnetPair.twoWay outer inner)))
        Sample.inward)).toNat = 2 + 2 - 1 := by
  intro outer inner
  have hlength : Sample.inward.length ≤ Counter.maximum := by decide
  have hflows := ((SubnetPair.twoWay_union outer inner).2.2.2 Sample.inward).2 hlength
  have hforward : (Measure.flows.total (Segment.select
      (some (.subnet (SubnetPair.oneWay outer inner))) Sample.inward)).toNat = 2 := by decide
  have hbackward : (Measure.flows.total (Segment.select
      (some (.subnet (SubnetPair.oneWay inner outer))) Sample.inward)).toNat = 2 := by decide
  have hcommon : (SubnetPair.common outer inner Sample.inward).length = 1 := by decide
  rw [hforward, hbackward, hcommon] at hflows
  exact ⟨hlength, hflows⟩

end FlowParity
