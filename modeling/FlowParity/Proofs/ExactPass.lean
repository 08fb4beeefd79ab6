import FlowParity.Proofs.Isolation
import FlowParity.Proofs.Rounding
/-!
# What a pass without tolerance says

A difference is the result of three roundings, of the distance, of the reference and of their
quotient. None of them makes a distance vanish: counters are rounded to doubles that are no less
than one and no more than `2 ^ 64`, and a quotient of two such numbers is far from the numbers
that are rounded to zero. So a metric with tolerance zero is passed by equal totals only
(`Counter.isWithin_iff_of_isZero`).

Totals are the exact sums of what the records of a dataset count, cut off at the largest
counter. Equal totals are therefore equal sums, unless both sums are too large to be told
apart (`isPassing_iff_sum_eq`), as they may well be (`exists_isPassing_sum_ne`).
-/

namespace FlowParity

open Reconciliation

/-! ## Differences -/

namespace Counter

open Binary64

variable {c r : Counter}

/-- The exact distance between two counters. -/
def distance (c r : Counter) : Nat := (c.toNat - r.toNat : Int).natAbs

theorem distance_eq_zero : c.distance r = 0 ↔ c = r := by
  rw [distance, Counter.ext_iff]
  omega

theorem distance_le (c r : Counter) : c.distance r ≤ 2 ^ 64 := by
  have hc := c.le_max
  have hr := r.le_max
  rw [distance]
  omega

/-- A difference is the quotient of the rounded distance and the rounded reference. -/
theorem relativeDifference_eq_div {a b : Fin finiteMagnitudes} (hr : r.toNat ≠ 0)
    (ha : Binary64.ofNat (c.distance r) = finite false a)
    (hb : Binary64.ofNat r.toNat = finite false b) :
    c.relativeDifference r = (finite false a).div (finite false b) := by
  rw [relativeDifference, if_neg hr, ← ha, ← hb]
  rfl

/-- **A difference is a finite number, and zero for equal counters only.** -/
theorem exists_relativeDifference_eq (c : Counter) (hr : r.toNat ≠ 0) :
    ∃ m : Fin finiteMagnitudes, c.relativeDifference r = finite false m ∧
      (m.val = 0 ↔ c = r) := by
  obtain ⟨a, ha, hazero, haone, hasmall⟩ := exists_ofNat_eq (distance_le c r)
  obtain ⟨b, hb, -, hbone, hbsmall⟩ := exists_ofNat_eq (Nat.le_trans r.le_max (by decide))
  have hbone := hbone (Nat.pos_of_ne_zero hr)
  have hbpos : 0 < units b.val := Nat.lt_of_lt_of_le unitsPerOne_pos hbone
  obtain ⟨m, hm, hmagnitude⟩ := exists_div_eq hasmall hbone
  refine ⟨m, by rw [relativeDifference_eq_div hr ha hb, hm], ?_⟩
  rw [← distance_eq_zero, hmagnitude]
  constructor
  · intro hzero
    by_contra hne
    have haone := haone (Nat.pos_of_ne_zero hne)
    -- the ratio is at least one unit, so it is not rounded to zero
    have hratio : 1 ≤ nearestMagnitude (units a.val * unitsPerOne) (units b.val) := by
      refine le_nearestMagnitude hbpos ?_
      calc units 1 * units b.val = units b.val := Nat.one_mul _
        _ ≤ 2 ^ 64 * unitsPerOne := hbsmall
        _ ≤ unitsPerOne * unitsPerOne := Nat.mul_le_mul_right _ (by decide +kernel)
        _ ≤ units a.val * unitsPerOne := Nat.mul_le_mul_right _ haone
    omega
  · intro hdistance
    rw [hazero hdistance]
    refine Nat.le_zero.1 (nearestMagnitude_le hbpos ?_)
    exact Nat.le_of_eq (by rw [show units 0 = 0 from rfl, Nat.zero_mul, Nat.zero_mul])

/-- **Only equal counters differ by nothing.** -/
theorem isWithin_iff_of_isZero {tolerance : Binary64} (h : tolerance.isZero = true) :
    (c.relativeDifference r).isWithin tolerance = true ↔ c = r := by
  rw [isWithin]
  by_cases hr : r.toNat = 0
  · rw [relativeDifference, if_pos hr]
    by_cases hc : c.toNat = 0
    · rw [if_pos hc]
      refine iff_of_true ((le_iff_of_isZero h).2 rfl) ?_
      ext
      rw [hc, hr]
    · rw [if_neg hc]
      refine iff_of_false (mt (le_iff_of_isZero h).1 (by decide)) ?_
      rintro rfl
      exact hc hr
  · obtain ⟨m, hm, hzero⟩ := exists_relativeDifference_eq c hr
    rw [hm, le_iff_of_isZero h, hzero]

end Counter

/-! ## Exact sums -/

/-- What the records of a segment count together, as a number without a limit. -/
def Measure.exactTotal (m : Measure) (segment : Option Segment) (rs : List Record) : Nat :=
  ((Segment.select segment rs).map m.count).sum

theorem Measure.count_shift (m : Measure) (r : Record) (offset : Millis) :
    m.count (r.shift offset) = m.count r := by
  obtain ⟨key, forward, reverse⟩ := r
  cases m <;> cases reverse <;> rfl

/-- Moving records in time changes neither their keys nor what they count. -/
theorem Measure.exactTotal_moved (m : Measure) (pair : Option SubnetPair) (offset : Option Millis)
    (rs : List Record) :
    m.exactTotal (pair.map .subnet) (Dataset.moved offset rs) =
      m.exactTotal (pair.map .subnet) rs := by
  cases offset with
  | none => rfl
  | some d =>
    have hselect : ((fun r => (pair.map Segment.subnet).all (·.matchesRecord r)) ∘ (·.shift d)) =
        fun r => (pair.map Segment.subnet).all (·.matchesRecord r) :=
      funext fun r => matchesRecord_congr_key pair rfl
    have hcount : m.count ∘ (·.shift d) = m.count := funext fun r => m.count_shift r d
    rw [Dataset.moved, exactTotal, Segment.select, List.filter_map, List.map_map, hselect, hcount]
    rfl

/-- **The totals of a dataset are the exact sums over its records**, up to the largest counter. -/
theorem Dataset.toNat_total {role : Role} {t : Timeouts} {offset : Option Millis}
    {rs : List Record} {d : Dataset} (h : ofRecords role t offset rs = .ok d) {m : Measure}
    (hm : m ≠ .flows) (pair : Option SubnetPair) :
    (d.total m (pair.map .subnet)).toNat =
      Nat.min (m.exactTotal (pair.map .subnet) rs) Counter.maximum := by
  obtain ⟨-, rfl⟩ := ofRecords_eq_ok.1 h
  rw [total, total_select_flows hm, m.toNat_total, ← m.exactTotal_moved pair offset]
  rfl

/-- Two numbers cut off at one limit are equal if they were before, or if both are cut off. -/
theorem min_eq_min_iff {a b limit : Nat} :
    Nat.min a limit = Nat.min b limit ↔ a = b ∨ limit ≤ a ∧ limit ≤ b := by
  simp only [Nat.min_def]
  split <;> split <;> omega

/-- An outcome without tolerance compares the exact sums of the two sides. -/
theorem Comparison.isPassing_outcome_iff {s : Settings} {candidate reference : List Record}
    {c : Comparison} (h : ofRecords s candidate reference = .ok c) (pair : Option SubnetPair)
    {metric : Metric} (hm : metric.measure ≠ .flows) (hzero : metric.tolerance.isZero = true) :
    (c.outcome (pair.map .subnet) metric).isPassing = true ↔
      metric.measure.exactTotal (pair.map .subnet) candidate =
          metric.measure.exactTotal (pair.map .subnet) reference ∨
        Counter.maximum ≤ metric.measure.exactTotal (pair.map .subnet) candidate ∧
          Counter.maximum ≤ metric.measure.exactTotal (pair.map .subnet) reference := by
  obtain ⟨-, d, e, hd, he, rfl⟩ := ofRecords_eq_ok.1 h
  have hvalue := Dataset.toNat_total hd hm pair
  have hreference := Dataset.toNat_total he hm pair
  rw [← min_eq_min_iff, ← hvalue, ← hreference, ← Counter.ext_iff]
  exact Counter.isWithin_iff_of_isZero hzero

/-- **A pass without tolerance says that the traffic matched**, packet by packet or byte by byte, as
far as it can be counted. For all records, settings and rules, an outcome without tolerance over
the whole traffic or a pair of networks passes exactly if the raw records of both sides count the
same, or enough to fill a counter on either side. -/
theorem isPassing_iff_sum_eq {s : Settings} {candidate reference : List Record} {c : Comparison}
    {rules : List Rule} {report : Report} (hc : Comparison.ofRecords s candidate reference = .ok c)
    (hreport : c.judge rules = .ok report) {o : Outcome} (ho : o ∈ report.outcomes)
    {pair : Option SubnetPair} (hsegment : o.segment = pair.map .subnet)
    (hmeasure : o.metric.measure ≠ .flows) (hzero : o.metric.tolerance.isZero = true) :
    o.isPassing = true ↔
      o.metric.measure.exactTotal o.segment candidate =
          o.metric.measure.exactTotal o.segment reference ∨
        Counter.maximum ≤ o.metric.measure.exactTotal o.segment candidate ∧
          Counter.maximum ≤ o.metric.measure.exactTotal o.segment reference := by
  obtain ⟨-, rfl⟩ := Comparison.judge_eq_ok.1 hreport
  obtain ⟨⟨segment, metric⟩, -, rfl⟩ := List.mem_map.1 ho
  obtain rfl : segment = pair.map .subnet := hsegment
  exact Comparison.isPassing_outcome_iff hc pair hmeasure hzero

namespace Sample

/-- Packets without tolerance. -/
def packetsExactly : Metric := ⟨.packets, .zero, Binary64.isTolerance_zero⟩

/-- A rule about them, over a part of the traffic. -/
def exactRule (segment : Option Segment) : Rule := ⟨[packetsExactly], segment, none⟩

end Sample

/-- Two pieces of a flow have the packets of the flow. -/
theorem isPassing_iff_sum_eq_sample :
    ∃ c report, Comparison.ofRecords .default
        [Sample.record 0 300000 2, Sample.record 300010 310000 3]
        [Sample.record 0 310000 5] = .ok c ∧
      c.judge [Sample.exactRule (some (.subnet Sample.pair))] = .ok report ∧
      report.outcomes.length = 1 ∧ ∀ o ∈ report.outcomes, o.isPassing = true := by
  have hok : ∃ c, Comparison.ofRecords .default
      [Sample.record 0 300000 2, Sample.record 300010 310000 3] [Sample.record 0 310000 5] = .ok c :=
    Comparison.exists_ofRecords_eq_ok.2 ⟨rfl, by decide, by decide⟩
  obtain ⟨c, hc⟩ := hok
  have hreport : c.judge [Sample.exactRule (some (.subnet Sample.pair))] = .ok
      ⟨[c.outcome (some (.subnet Sample.pair)) Sample.packetsExactly]⟩ := rfl
  have hmeasure : Sample.packetsExactly.measure ≠ .flows := by decide
  have hsum : Measure.packets.exactTotal (some (.subnet Sample.pair))
        [Sample.record 0 300000 2, Sample.record 300010 310000 3] =
      Measure.packets.exactTotal (some (.subnet Sample.pair)) [Sample.record 0 310000 5] := by
    decide
  refine ⟨c, _, hc, hreport, rfl, fun o ho => ?_⟩
  obtain rfl := List.mem_singleton.1 ho
  have hsegment : (c.outcome (some (.subnet Sample.pair)) Sample.packetsExactly).segment =
      (some Sample.pair).map .subnet := rfl
  exact (isPassing_iff_sum_eq hc hreport ho hsegment hmeasure rfl).2 (.inl hsum)

/-- **A full counter hides what does not fit**: one side has a packet more, and passes. -/
theorem exists_isPassing_sum_ne :
    ∃ candidate reference c report o,
      Comparison.ofRecords .default candidate reference = .ok c ∧
      c.judge [Sample.exactRule none] = .ok report ∧ o ∈ report.outcomes ∧
      o.isPassing = true ∧
      Measure.packets.exactTotal none candidate ≠ Measure.packets.exactTotal none reference := by
  have hok : ∃ c, Comparison.ofRecords .default
      [Sample.record 0 1000 Counter.maximum, Sample.record 2000 3000 1]
      [Sample.record 0 1000 Counter.maximum] = .ok c :=
    Comparison.exists_ofRecords_eq_ok.2 ⟨rfl, by decide, by decide⟩
  obtain ⟨c, hc⟩ := hok
  refine ⟨_, _, c, ⟨[c.outcome none Sample.packetsExactly]⟩, _, hc, rfl, List.mem_cons_self, ?_, ?_⟩
  · exact (Comparison.isPassing_outcome_iff hc none (by decide) rfl).2
      (.inr ⟨by decide, by decide⟩)
  · decide

end FlowParity
