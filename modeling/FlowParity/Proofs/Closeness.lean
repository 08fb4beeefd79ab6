import FlowParity.Proofs.ExactPass
import FlowParity.Proofs.NearestDoubles
/-!
# Closeness

A difference is the rounded quotient of a rounded distance and a rounded reference, a tolerance is a
rounded decimal, and a verdict compares the two. What it says of the totals themselves is put
together here (`outcome_faithful`). However large the totals are, no rounding makes a distance
vanish or what is farther away differ less (`Counter.relativeDifference_le`). And totals up to
`2 ^ 53` are rounded once only, so they pass whenever their exact quotient is within the decimal
that was meant (`Counter.isWithin_of_isNearestTo`).
-/

namespace FlowParity

/-! ## Differences -/

namespace Counter

open Binary64

variable {c c' r : Counter}

/-- **A difference is one rounded quotient of two rounded counts.** -/
theorem exists_relativeDifference_eq_nearest (c : Counter) (hr : r.toNat ≠ 0) :
    0 < units (countMagnitude r.toNat) ∧ ∃ m : Fin finiteMagnitudes,
      c.relativeDifference r = finite false m ∧
        m.val = nearestMagnitude (units (countMagnitude (c.distance r)) * unitsPerOne)
          (units (countMagnitude r.toNat)) := by
  obtain ⟨a, ha, -, -, hasmall⟩ := exists_ofNat_eq (distance_le c r)
  obtain ⟨b, hb, -, hbone, -⟩ := exists_ofNat_eq (Nat.le_trans r.le_max (by decide))
  have hbone := hbone (Nat.pos_of_ne_zero hr)
  obtain ⟨m, hm, hmagnitude⟩ := exists_div_eq hasmall hbone
  rw [← val_eq_of_ofNat_eq ha, ← val_eq_of_ofNat_eq hb]
  refine ⟨Nat.lt_of_lt_of_le unitsPerOne_pos hbone, m, ?_, hmagnitude⟩
  rw [relativeDifference_eq_div hr ha hb, hm]

/-- **What is closer does not differ more.** -/
theorem relativeDifference_le (h : c.distance r ≤ c'.distance r) :
    (c.relativeDifference r).le (c'.relativeDifference r) = true := by
  by_cases hr : r.toNat = 0
  · rw [distance, distance, hr] at h
    rw [relativeDifference, relativeDifference, if_pos hr, if_pos hr]
    split
    · split <;> decide +kernel
    · rw [if_neg (by omega)]
      decide +kernel
  · obtain ⟨hpos, m, hm, hvalue⟩ := exists_relativeDifference_eq_nearest c hr
    obtain ⟨-, m', hm', hvalue'⟩ := exists_relativeDifference_eq_nearest c' hr
    have hmagnitude : m.val ≤ m'.val := by
      rw [hvalue, hvalue']
      refine nearestMagnitude_mono hpos hpos (Nat.mul_le_mul_right _ (Nat.mul_le_mul_right _ ?_))
      exact units_strictMono.monotone (countMagnitude_mono h)
    rw [hm, hm']
    exact finite_le_finite_iff.2 hmagnitude

/-- **A quotient of small counters is within the decimal that was meant.** -/
theorem isWithin_of_isNearestTo {tolerance : Binary64} {q : ℚ} (hr : r.toNat ≠ 0)
    (hc : c.toNat ≤ 2 ^ 53) (hr' : r.toNat ≤ 2 ^ 53)
    (hle : (c.distance r : ℚ) ≤ q * r.toNat) (h : tolerance.IsNearestTo q) :
    (c.relativeDifference r).isWithin tolerance = true := by
  have hdistance : c.distance r ≤ 2 ^ 53 := by
    rw [distance]
    omega
  have hpos := Nat.pos_of_ne_zero hr
  obtain ⟨-, m, hm, hvalue⟩ := exists_relativeDifference_eq_nearest c hr
  rw [units_countMagnitude hdistance, units_countMagnitude hr',
    nearestMagnitude_mul_right hpos unitsPerOne_pos] at hvalue
  rw [hm, isWithin]
  refine le_of_isNearestTo h hpos ?_ hvalue
  rwa [div_le_iff₀ (Nat.cast_pos.2 hpos)]

/-- A difference is a finite number. -/
theorem exists_relativeDifference_eq_finite (c r : Counter) :
    ∃ m : Fin finiteMagnitudes, c.relativeDifference r = finite false m := by
  by_cases hr : r.toNat = 0
  · rw [relativeDifference, if_pos hr]
    split
    · exact ⟨_, rfl⟩
    · exact ⟨_, rfl⟩
  · obtain ⟨m, hm, -⟩ := exists_relativeDifference_eq c hr
    exact ⟨m, hm⟩

/-- Only equal counters differ by nothing. -/
theorem relativeDifference_eq_zero_iff : c.relativeDifference r = .zero ↔ c = r := by
  obtain ⟨m, hm⟩ := exists_relativeDifference_eq_finite c r
  have hzero : (c.relativeDifference r).isWithin .zero = true ↔ c = r := isWithin_iff_of_isZero rfl
  rw [← hzero, isWithin, hm, le_iff_of_isZero rfl]
  constructor
  · intro h
    cases h
    rfl
  · intro h
    rw [Fin.ext (a := m) (b := ⟨0, by decide⟩) h]
    rfl

/-- What is closer than something within a tolerance is within it. -/
theorem isWithin_of_distance_le {tolerance : Binary64} (ht : tolerance.isTolerance = true)
    (h : c.distance r ≤ c'.distance r)
    (hfar : (c'.relativeDifference r).isWithin tolerance = true) :
    (c.relativeDifference r).isWithin tolerance = true := by
  obtain ⟨v, hv, -⟩ := isTolerance_iff.1 ht
  obtain ⟨m, hm⟩ := exists_relativeDifference_eq_finite c r
  obtain ⟨m', hm'⟩ := exists_relativeDifference_eq_finite c' r
  have hle := relativeDifference_le h
  rw [hm, hm', le_iff_value_le (value?_finite m) (value?_finite m')] at hle
  rw [isWithin, hm', le_iff_value_le (value?_finite m') hv] at hfar
  rw [isWithin, hm, le_iff_value_le (value?_finite m) hv]
  exact le_trans hle hfar

/-- **Against nothing, something is within the largest tolerance only.** -/
theorem isWithin_iff_of_toNat_eq_zero {tolerance : Binary64} (ht : tolerance.isTolerance = true)
    (hr : r.toNat = 0) (hc : 0 < c.toNat) :
    (c.relativeDifference r).isWithin tolerance = true ↔ tolerance = .one := by
  obtain ⟨v, hv, -, hupper⟩ := isTolerance_iff.1 ht
  rw [relativeDifference, if_pos hr, if_neg hc.ne', isWithin, le_iff_value_le value?_one hv]
  constructor
  · intro hlower
    obtain rfl : v = 1 := le_antisymm hupper hlower
    exact eq_one_of_value? hv
  · rintro rfl
    rw [value?_one] at hv
    exact (Option.some.inj hv).le

/-- **A difference is what exact arithmetic gives, rounded three times**: the distance and the
reference to the nearest doubles, and the quotient of these. -/
theorem isNearestTo_relativeDifference (c : Counter) (hr : r.toNat ≠ 0) :
    ∃ (x y : Binary64) (v w : ℚ), x.IsNearestTo (c.distance r) ∧ y.IsNearestTo r.toNat ∧
      x.value? = some v ∧ y.value? = some w ∧ (c.relativeDifference r).IsNearestTo (v / w) := by
  have hr' : r.toNat ≤ 2 ^ 64 := Nat.le_trans r.le_max (by decide)
  obtain ⟨a, ha, -, -, hasmall⟩ := exists_ofNat_eq (distance_le c r)
  obtain ⟨b, hb, -, hbone, -⟩ := exists_ofNat_eq hr'
  refine ⟨finite false a, finite false b, _, _, ?_, ?_, value?_finite a, value?_finite b, ?_⟩
  · rw [← ha]
    exact isNearestTo_ofNat (distance_le c r)
  · rw [← hb]
    exact isNearestTo_ofNat hr'
  · rw [relativeDifference_eq_div hr ha hb]
    exact isNearestTo_div hasmall (hbone (Nat.pos_of_ne_zero hr))

end Counter

/-! ## Verdicts -/

namespace Outcome

/-- **What the verdict of an outcome says of its totals.** -/
structure Faithful (o : Outcome) : Prop where
  /-- The difference is the rounded quotient of the rounded distance and the rounded reference. -/
  isNearestTo : o.reference.toNat ≠ 0 → ∃ (x y : Binary64) (v w : ℚ),
    x.IsNearestTo (o.value.distance o.reference) ∧ y.IsNearestTo o.reference.toNat ∧
      x.value? = some v ∧ y.value? = some w ∧ o.difference.IsNearestTo (v / w)
  /-- The difference is a number, and not negative. -/
  finite : ∃ m, o.difference = .finite false m
  /-- It is zero for equal totals only. -/
  eq_zero_iff : o.difference = .zero ↔ o.value = o.reference
  /-- Without tolerance only equal totals pass. -/
  isPassing_iff_of_isZero : o.metric.tolerance.isZero = true →
    (o.isPassing = true ↔ o.value = o.reference)
  /-- A total that is at least as close does not differ more. -/
  le_of_distance_le : ∀ closer : Counter,
    closer.distance o.reference ≤ o.value.distance o.reference →
      (closer.relativeDifference o.reference).le o.difference = true
  /-- And it passes if the other one does. -/
  isPassing_of_distance_le : ∀ closer : Counter,
    closer.distance o.reference ≤ o.value.distance o.reference → o.isPassing = true →
      { o with value := closer }.isPassing = true
  /-- Against nothing, something passes with the largest tolerance only. -/
  isPassing_iff_of_reference_eq_zero : o.reference.toNat = 0 → 0 < o.value.toNat →
    (o.isPassing = true ↔ o.metric.tolerance = .one)
  /-- What differs by a ratio at most passes with the double nearest to the ratio, which is a
  tolerance. -/
  isPassing_of_isNearestTo : ∀ q : ℚ, 0 ≤ q → q ≤ 1 → 0 < o.reference.toNat →
    o.value.toNat ≤ 2 ^ 53 → o.reference.toNat ≤ 2 ^ 53 →
    (o.value.distance o.reference : ℚ) ≤ q * o.reference.toNat →
    ∀ tolerance : Binary64, tolerance.IsNearestTo q → ∃ h : tolerance.isTolerance = true,
      { o with metric := ⟨o.metric.measure, tolerance, h⟩ }.isPassing = true

end Outcome

/-- **A verdict is faithful to the totals.** For all totals of 64 bits and all metrics, the difference
is finite and not negative, zero for equal totals only, and no larger for totals that are closer. So
without tolerance only equal totals pass, what is closer passes if something farther does, and
against nothing only the largest tolerance lets something pass. Totals up to `2 ^ 53` that differ
by a ratio at most pass with the double nearest to that ratio, whatever their quotient is rounded
to. -/
theorem outcome_faithful (o : Outcome) : o.Faithful where
  isNearestTo := Counter.isNearestTo_relativeDifference o.value
  finite := Counter.exists_relativeDifference_eq_finite o.value o.reference
  eq_zero_iff := Counter.relativeDifference_eq_zero_iff
  isPassing_iff_of_isZero := Counter.isWithin_iff_of_isZero
  le_of_distance_le _ := Counter.relativeDifference_le
  isPassing_of_distance_le _ := Counter.isWithin_of_distance_le o.metric.isTolerance
  isPassing_iff_of_reference_eq_zero := Counter.isWithin_iff_of_toNat_eq_zero o.metric.isTolerance
  isPassing_of_isNearestTo _ hq hq' hr hc hr' hle _ h :=
    ⟨h.isTolerance hq hq', Counter.isWithin_of_isNearestTo hr.ne' hc hr' hle h⟩

namespace Sample

theorem isNearestTo_tenth : (Binary64.ofRatio false 1 10).IsNearestTo (1 / 10) := by
  have hnearest : (Binary64.ofRatio false 1 10).IsNearestTo ((1 : Nat) / (10 : Nat)) :=
    Binary64.isNearestTo_ofRatio (by decide) (by decide)
  rwa [Nat.cast_one, Nat.cast_ofNat] at hnearest

/-- Packets of which a tenth may be missing. -/
def packetsNearly : Metric :=
  ⟨.packets, _, isNearestTo_tenth.isTolerance (by norm_num) (by norm_num)⟩

/-- The outcome of two numbers of packets. -/
def outcome (metric : Metric) (value reference : Nat) : Outcome :=
  ⟨metric, none, .clamp value, .clamp reference⟩

end Sample

/-- A missing tenth is within the double nearest to a tenth, and so is what is closer. Without
tolerance it is not, and neither is a packet where none was expected. -/
theorem outcome_faithful_sample :
    (Sample.outcome Sample.packetsNearly 90 100).isPassing = true ∧
      (Sample.outcome Sample.packetsNearly 105 100).isPassing = true ∧
      ¬ (Sample.outcome Sample.packetsExactly 90 100).isPassing = true ∧
      ¬ (Sample.outcome Sample.packetsNearly 1 0).isPassing = true := by
  have hdistance : ((Sample.outcome Sample.packetsNearly 90 100).value.distance
      (Sample.outcome Sample.packetsNearly 90 100).reference : ℚ) ≤ 1 / 10 * (100 : Nat) := by
    have hten : (Sample.outcome Sample.packetsNearly 90 100).value.distance
        (Sample.outcome Sample.packetsNearly 90 100).reference = 10 := by
      decide
    rw [hten]
    norm_num
  have hnearly := outcome_faithful (Sample.outcome Sample.packetsNearly 90 100)
  have hexactly := outcome_faithful (Sample.outcome Sample.packetsExactly 90 100)
  have hunexpected := outcome_faithful (Sample.outcome Sample.packetsNearly 1 0)
  obtain ⟨_, hpass⟩ := hnearly.isPassing_of_isNearestTo (1 / 10) (by norm_num) (by norm_num)
    (by decide) (by decide) (by decide) hdistance _ Sample.isNearestTo_tenth
  refine ⟨hpass, hnearly.isPassing_of_distance_le (.clamp 105) (by decide) hpass, ?_, ?_⟩
  · rw [hexactly.isPassing_iff_of_isZero rfl]
    decide
  · rw [hunexpected.isPassing_iff_of_reference_eq_zero rfl (by decide)]
    decide +kernel

end FlowParity
