import FlowParity.Proofs.Rounding
import FlowParity.Compare.Difference
import Mathlib.Algebra.Order.Field.Rat
import Mathlib.Tactic.NormNum
/-!
# Nearest doubles

A ratio is rounded to the **nearest** double, and to the even one of two
(`Binary64.isNearestTo_ofRatio`). That is said here of the numbers that doubles stand for and not of
their encodings, so the double nearest to a decimal can be told without saying how it was computed.

A ratio that is within a decimal is then rounded to something within the double nearest to that
decimal (`Binary64.le_of_isNearestTo`), although neither needs to be a double itself. Whole numbers
up to `2 ^ 53` are doubles (`Binary64.units_countMagnitude`).
-/

namespace FlowParity

namespace Binary64

variable {num den : Nat}

/-! ## Midpoints -/

/-- **A magnitude is nearest to a ratio of units**: the ratio is not beyond the midpoint to the
magnitude above or to the one below, and if it is such a midpoint, the magnitude is even. -/
structure IsNearestMagnitude (num den k : Nat) : Prop where
  /-- It is not beyond the midpoint above. -/
  le_above : 2 * num ≤ (units k + units (k + 1)) * den
  /-- At the midpoint above the magnitude is even. -/
  even_above : 2 * num = (units k + units (k + 1)) * den → k % 2 = 0
  /-- It is not beyond the midpoint below. -/
  below_le : ∀ j, j + 1 = k → (units j + units k) * den ≤ 2 * num
  /-- At the midpoint below the magnitude is even. -/
  even_below : ∀ j, j + 1 = k → (units j + units k) * den = 2 * num → k % 2 = 0

/-- The next magnitude is one more of the significand, or more if that has one bit too many. -/
theorem le_units_add_one {e s : Nat} (hlarge : 0 < e → significandCount ≤ s)
    (hsmall : s ≤ 2 * significandCount) :
    (s + 1) * 2 ^ e ≤ units (e * significandCount + s + 1) := by
  have hlarge' : 0 < e → significandCount ≤ s + 1 := fun he => Nat.le_succ_of_le (hlarge he)
  rcases Nat.lt_or_eq_of_le hsmall with hlt | hfull
  · rw [Nat.add_assoc, units_eq hlarge' hlt]
  · have hcarry : e * significandCount + s + 1 =
        (e + 1) * significandCount + (significandCount + 1) := by
      rw [hfull, Nat.add_mul]
      omega
    rw [hcarry, units_eq (fun _ => Nat.le_succ _) (by decide), hfull, Nat.pow_succ]
    have hpow := Nat.two_pow_pos e
    nlinarith

/-- The magnitude below is one less of the significand, unless that is the first one of a binade. -/
theorem eq_or_exists_units_eq {e s j : Nat} (hlarge : 0 < e → significandCount ≤ s)
    (hsmall : s ≤ 2 * significandCount) (hj : j + 1 = e * significandCount + s) :
    0 < e ∧ s = significandCount ∨ ∃ t, s = t + 1 ∧ units j = t * 2 ^ e := by
  by_cases hfirst : 0 < e ∧ s = significandCount
  · exact .inl hfirst
  right
  have hpos : 0 < significandCount := by decide
  have hs : 0 < s := by
    rcases Nat.eq_zero_or_pos e with rfl | he
    · omega
    · exact Nat.lt_of_lt_of_le hpos (hlarge he)
  have hlarge' : 0 < e → significandCount ≤ s - 1 := fun he => by
    have := hlarge he
    omega
  refine ⟨s - 1, by omega, ?_⟩
  rw [← units_eq hlarge' (by omega)]
  congr 1
  omega

/-- A nearest significand makes a nearest magnitude. The magnitude below the first one of a binade is
nearer than the one above, but then the ratio is not below that first one either. -/
theorem isNearestMagnitude_of_isNearest {e s : Nat} (hnearest : IsNearest num (den * 2 ^ e) s)
    (hlarge : 0 < e → significandCount ≤ s) (hsmall : s ≤ 2 * significandCount)
    (hfirst : 0 < e → significandCount * 2 ^ e * den ≤ num) :
    IsNearestMagnitude num den (e * significandCount + s) := by
  have hvalue : units (e * significandCount + s) = s * 2 ^ e := units_eq hlarge hsmall
  have hparity : s % 2 = 0 → (e * significandCount + s) % 2 = 0 := by
    intro h
    rw [significandCount]
    omega
  have hmidpoint : (s * 2 ^ e + (s + 1) * 2 ^ e) * den =
      2 * (s * (den * 2 ^ e)) + den * 2 ^ e := by
    ring
  have habove : (s * 2 ^ e + (s + 1) * 2 ^ e) * den ≤
      (s * 2 ^ e + units (e * significandCount + s + 1)) * den :=
    Nat.mul_le_mul_right _ (Nat.add_le_add_left (le_units_add_one hlarge hsmall) _)
  have hbelow : ∀ j, j + 1 = e * significandCount + s →
      (units j + s * 2 ^ e) * den ≤ 2 * num ∧
        ((units j + s * 2 ^ e) * den = 2 * num → s % 2 = 0) := by
    intro j hj
    rcases eq_or_exists_units_eq hlarge hsmall hj with ⟨he, rfl⟩ | ⟨t, rfl, ht⟩
    · have hlt : units j < significandCount * 2 ^ e := by
        rw [← hvalue]
        exact units_strictMono (by omega)
      have hnum := hfirst he
      exact ⟨by nlinarith, fun _ => by decide⟩
    · rw [ht]
      have hnum := hnearest.le_add
      exact ⟨by linarith, fun heq => hnearest.even_above (by linarith)⟩
  have hnum := hnearest.le_mul_add
  constructor
  · rw [hvalue]
    omega
  · rw [hvalue]
    exact fun heq => hparity (hnearest.even_below (by omega))
  · rw [hvalue]
    exact fun j hj => (hbelow j hj).1
  · rw [hvalue]
    exact fun j hj heq => hparity ((hbelow j hj).2 heq)

/-- **What arithmetic rounds to is nearest.** -/
theorem isNearestMagnitude_nearestMagnitude (num : Nat) (hden : 0 < den) :
    IsNearestMagnitude num den (nearestMagnitude num den) := by
  have hfirst : 0 < exponent (num / den) →
      significandCount * 2 ^ exponent (num / den) * den ≤ num := by
    intro h
    have hle := pow_exponent_le h
    rwa [Nat.le_div_iff_mul_le hden, Nat.pow_add, Nat.mul_comm (2 ^ _),
      ← significandCount_eq] at hle
  rw [nearestMagnitude_eq]
  exact isNearestMagnitude_of_isNearest
    (isNearest_nearest num (Nat.mul_pos hden (Nat.two_pow_pos _)))
    (le_significand hden) (significand_le num hden) hfirst

namespace IsNearestMagnitude

variable {k m : Nat} (h : IsNearestMagnitude num den k)

include h

/-- No magnitude above is nearer. -/
theorem le_of_lt (hm : k < m) : 2 * num ≤ (units k + units m) * den := by
  have hunits : units (k + 1) ≤ units m := units_strictMono.monotone hm
  exact Nat.le_trans h.le_above (Nat.mul_le_mul_right _ (Nat.add_le_add_left hunits _))

/-- One that is as near is the next one, so the magnitude is even. -/
theorem even_of_lt (hm : k < m) (heq : 2 * num = (units k + units m) * den) : k % 2 = 0 := by
  have hunits : units (k + 1) ≤ units m := units_strictMono.monotone hm
  have hle := Nat.mul_le_mul_right den (Nat.add_le_add_left hunits (units k))
  exact h.even_above (Nat.le_antisymm h.le_above (heq ▸ hle))

/-- No magnitude below is nearer. -/
theorem le_of_gt (hm : m < k) : (units m + units k) * den ≤ 2 * num := by
  have hunits : units m ≤ units (k - 1) := units_strictMono.monotone (by omega)
  exact Nat.le_trans (Nat.mul_le_mul_right _ (Nat.add_le_add_right hunits _))
    (h.below_le (k - 1) (by omega))

/-- One that is as near is the one before, so the magnitude is even. -/
theorem even_of_gt (hden : 0 < den) (hm : m < k) (heq : (units m + units k) * den = 2 * num) :
    m + 1 = k ∧ k % 2 = 0 := by
  have hunits : units m ≤ units (k - 1) := units_strictMono.monotone (by omega)
  have hle := Nat.mul_le_mul_right den (Nat.add_le_add_right hunits (units k))
  have heq' := Nat.le_antisymm (h.below_le (k - 1) (by omega)) (heq ▸ hle)
  have hsame : units m = units (k - 1) := by
    have := Nat.eq_of_mul_eq_mul_right hden (heq.trans heq'.symm)
    omega
  have hpred := units_strictMono.injective hsame
  exact ⟨by omega, h.even_below (k - 1) (by omega) heq'⟩

end IsNearestMagnitude

/-! ## Values -/

/-- The number that a finite double stands for. -/
def value? : Binary64 → Option ℚ
  | finite negative magnitude => some (signedUnits negative magnitude.val / unitsPerOne)
  | _ => none

/-- **A double is nearest to a number**: no other is nearer, and if one with another value is as
near, the last bit of this one is zero. -/
def IsNearestTo (x : Binary64) (q : ℚ) : Prop :=
  ∃ v, x.value? = some v ∧ ∀ (y : Binary64) (w : ℚ), y.value? = some w →
    |v - q| ≤ |w - q| ∧ (|w - q| = |v - q| → w ≠ v → x.toBits % 2 = 0)

theorem cast_unitsPerOne_pos : (0 : ℚ) < unitsPerOne := by
  exact_mod_cast unitsPerOne_pos

/-- Magnitudes and the numbers that they stand for have one order. -/
theorem value_lt_value_iff {k m : Nat} :
    (units k / unitsPerOne : ℚ) < units m / unitsPerOne ↔ k < m := by
  rw [div_lt_div_iff_of_pos_right cast_unitsPerOne_pos, Nat.cast_lt, units_strictMono.lt_iff_lt]

/-- A number that is not negative is the value of a magnitude, which is as even as the double. -/
theorem exists_magnitude {x : Binary64} {v : ℚ} (hx : x.value? = some v) (hv : 0 ≤ v) :
    ∃ m : Fin finiteMagnitudes, v = units m.val / unitsPerOne ∧ x.toBits % 2 = m.val % 2 := by
  cases x with
  | nan | infinite => cases hx
  | finite negative m =>
    cases hx
    cases negative with
    | false => exact ⟨m, rfl, by simp [toBits]⟩
    | true =>
      have hsigned : signedUnits true m.val = -(units m.val : Int) := rfl
      rw [hsigned, le_div_iff₀ cast_unitsPerOne_pos, zero_mul, Int.cast_nonneg_iff] at hv
      have hzero : units m.val = 0 := by omega
      refine ⟨m, by rw [hsigned, hzero]; rfl, ?_⟩
      rw [toBits, if_pos rfl, signBit]
      omega

/-- **Doubles are compared as the numbers that they stand for.** -/
theorem le_iff_value_le {x y : Binary64} {v w : ℚ} (hx : x.value? = some v)
    (hy : y.value? = some w) : x.le y = true ↔ v ≤ w := by
  cases x with
  | nan | infinite => cases hx
  | finite negative m =>
    cases y with
    | nan | infinite => cases hy
    | finite negative' m' =>
      cases hx
      cases hy
      rw [le, decide_eq_true_eq, div_le_div_iff_of_pos_right cast_unitsPerOne_pos, Int.cast_le]

theorem finite_le_finite_iff {m m' : Fin finiteMagnitudes} :
    (finite false m).le (finite false m') = true ↔ m.val ≤ m'.val := by
  rw [le, decide_eq_true_eq, ← units_strictMono.le_iff_le]
  exact Int.ofNat_le

/-- Of two numbers the smaller one is no nearer if the midpoint is no larger. -/
theorem abs_sub_le_abs_sub_iff {v w q : ℚ} (h : v < w) : |v - q| ≤ |w - q| ↔ 2 * q ≤ v + w := by
  constructor <;> intro hle <;> rcases abs_cases (v - q) with ⟨h₁, h₂⟩ | ⟨h₁, h₂⟩ <;>
    rcases abs_cases (w - q) with ⟨h₃, h₄⟩ | ⟨h₃, h₄⟩ <;> linarith

/-- Of two numbers the larger one is no nearer if the midpoint is no smaller. -/
theorem abs_sub_le_abs_sub_iff' {v w q : ℚ} (h : v < w) : |w - q| ≤ |v - q| ↔ v + w ≤ 2 * q := by
  constructor <;> intro hle <;> rcases abs_cases (v - q) with ⟨h₁, h₂⟩ | ⟨h₁, h₂⟩ <;>
    rcases abs_cases (w - q) with ⟨h₃, h₄⟩ | ⟨h₃, h₄⟩ <;> linarith

theorem value?_finite (m : Fin finiteMagnitudes) :
    (finite false m).value? = some (units m.val / unitsPerOne : ℚ) := rfl

theorem value?_zero : zero.value? = some 0 := by
  rw [zero, signedZero, value?_finite, show units 0 = 0 from rfl, Nat.cast_zero, zero_div]

theorem value?_one : one.value? = some 1 := by
  have hone : units 4607182418800017408 = unitsPerOne := units_one
  rw [one, value?_finite, hone, div_self cast_unitsPerOne_pos.ne']

theorem eq_one_of_value? {x : Binary64} (h : x.value? = some 1) : x = one := by
  have hone : units 4607182418800017408 = unitsPerOne := units_one
  cases x with
  | nan | infinite => cases h
  | finite negative m =>
    have hunits : signedUnits negative m.val = unitsPerOne := by
      have h := Option.some.inj h
      rw [div_eq_one_iff_eq cast_unitsPerOne_pos.ne'] at h
      exact_mod_cast h
    cases negative with
    | false =>
      have hm : m.val = 4607182418800017408 := by
        refine units_strictMono.injective (Eq.trans ?_ hone.symm)
        exact Int.ofNat.inj hunits
      rw [one, show m = ⟨_, by decide⟩ from Fin.ext hm]
    | true =>
      have hpos := unitsPerOne_pos
      have hsigned : signedUnits true m.val = -(units m.val : Int) := rfl
      omega

/-- **A tolerance is a double from zero to one.** -/
theorem isTolerance_iff {x : Binary64} :
    x.isTolerance = true ↔ ∃ v, x.value? = some v ∧ 0 ≤ v ∧ v ≤ 1 := by
  cases hx : x.value? with
  | none =>
    refine iff_of_false ?_ (by rintro ⟨v, hv, -⟩; cases hv)
    cases x with
    | nan => decide
    | infinite negative => cases negative <;> decide
    | finite negative m => cases hx
  | some v =>
    rw [isTolerance, Bool.and_eq_true, le_iff_value_le value?_zero hx,
      le_iff_value_le hx value?_one]
    simp only [Option.some.injEq, exists_eq_left']

namespace IsNearestTo

variable {x : Binary64} {q : ℚ} (h : x.IsNearestTo q) (hq : 0 ≤ q)

include h hq

/-- The double nearest to a number that is not negative is not negative either: zero is nearer. -/
theorem nonneg {v : ℚ} (hx : x.value? = some v) : 0 ≤ v := by
  obtain ⟨v', hx', hnearest⟩ := h
  obtain rfl : v' = v := Option.some.inj (hx'.symm.trans hx)
  have hzero := (hnearest zero 0 value?_zero).1
  rw [zero_sub, abs_neg, abs_of_nonneg hq] at hzero
  have hlower := (abs_le.1 hzero).1
  linarith

/-- The double nearest to a number from zero to one is a tolerance. -/
theorem isTolerance (hq' : q ≤ 1) : x.isTolerance = true := by
  obtain ⟨v, hx, hnearest⟩ := id h
  have hone := (hnearest one 1 value?_one).1
  rw [abs_of_nonneg (sub_nonneg.2 hq')] at hone
  have hupper := (abs_le.1 hone).2
  exact isTolerance_iff.2 ⟨v, hx, h.nonneg hq hx, by linarith⟩

end IsNearestTo

/-! ## Nearest doubles -/

/-- Ratios of units, as numbers. -/
theorem two_mul_div_le_iff (hden : 0 < den) {a b : Nat} :
    2 * (num / den : ℚ) ≤ a / unitsPerOne + b / unitsPerOne ↔
      2 * (num * unitsPerOne) ≤ (a + b) * den := by
  have hden' : (0 : ℚ) < den := by exact_mod_cast hden
  rw [← add_div, ← mul_div_assoc, div_le_div_iff₀ hden' cast_unitsPerOne_pos, mul_assoc]
  exact_mod_cast Iff.rfl

theorem le_two_mul_div_iff (hden : 0 < den) {a b : Nat} :
    (a / unitsPerOne + b / unitsPerOne : ℚ) ≤ 2 * (num / den) ↔
      (a + b) * den ≤ 2 * (num * unitsPerOne) := by
  have hden' : (0 : ℚ) < den := by exact_mod_cast hden
  rw [← add_div, ← mul_div_assoc, div_le_div_iff₀ cast_unitsPerOne_pos hden', mul_assoc]
  exact_mod_cast Iff.rfl

namespace IsNearestMagnitude

variable {k : Nat} {w : ℚ} (h : IsNearestMagnitude (num * unitsPerOne) den k) (hden : 0 < den)

include h hden

/-- No double below is nearer, and the magnitude is even if one is as near. -/
theorem of_value_lt {y : Binary64} (hy : y.value? = some w) (hw : w < (units k / unitsPerOne : ℚ)) :
    (w + units k / unitsPerOne : ℚ) ≤ 2 * (num / den) ∧
      ((w + units k / unitsPerOne : ℚ) = 2 * (num / den) → k % 2 = 0) := by
  rcases lt_or_ge w 0 with hneg | hnonneg
  · have hhalf : ((0 : Nat) / unitsPerOne + units k / unitsPerOne : ℚ) ≤ 2 * (num / den) := by
      rw [le_two_mul_div_iff hden]
      rcases Nat.eq_zero_or_pos k with rfl | hk
      · exact Nat.le_trans (Nat.le_of_eq (Nat.zero_mul den)) (Nat.zero_le _)
      · exact h.le_of_gt hk
    rw [Nat.cast_zero, zero_div, zero_add] at hhalf
    exact ⟨by linarith, fun heq => by linarith⟩
  · obtain ⟨m, rfl, -⟩ := exists_magnitude hy hnonneg
    rw [value_lt_value_iff] at hw
    refine ⟨(le_two_mul_div_iff hden).2 (h.le_of_gt hw), fun heq => ?_⟩
    have hge := (two_mul_div_le_iff hden).1 heq.ge
    exact (h.even_of_gt hden hw (Nat.le_antisymm (h.le_of_gt hw) hge)).2

/-- No double above is nearer, and the magnitude is even if one is as near. -/
theorem of_lt_value {y : Binary64} (hy : y.value? = some w) (hw : (units k / unitsPerOne : ℚ) < w) :
    (2 * (num / den) : ℚ) ≤ units k / unitsPerOne + w ∧
      ((units k / unitsPerOne + w : ℚ) = 2 * (num / den) → k % 2 = 0) := by
  have hnonneg : 0 ≤ w := le_trans (div_nonneg (Nat.cast_nonneg _) cast_unitsPerOne_pos.le) hw.le
  obtain ⟨m, rfl, -⟩ := exists_magnitude hy hnonneg
  rw [value_lt_value_iff] at hw
  refine ⟨(two_mul_div_le_iff hden).2 (h.le_of_lt hw), fun heq => ?_⟩
  have hge := (le_two_mul_div_iff hden).1 heq.le
  exact h.even_of_lt hw (Nat.le_antisymm (h.le_of_lt hw) hge)

end IsNearestMagnitude

/-- **Ratios are rounded to the nearest double**, the even one of two. -/
theorem isNearestTo_ofRatio (hden : 0 < den) (hle : num ≤ 2 ^ 64 * den) :
    (ofRatio false num den).IsNearestTo (num / den) := by
  have hmagnitude : nearestMagnitude (num * unitsPerOne) den ≤ (64 + 1023) * significandCount := by
    refine nearestMagnitude_le hden ?_
    rw [units_two_pow, Nat.mul_right_comm]
    exact Nat.mul_le_mul_right _ hle
  have hfinite : nearestMagnitude (num * unitsPerOne) den < finiteMagnitudes :=
    Nat.lt_of_le_of_lt hmagnitude (by decide)
  have hnearest := isNearestMagnitude_nearestMagnitude (num * unitsPerOne) hden
  have hx : ofRatio false num den = finite false ⟨_, hfinite⟩ := dif_pos hfinite
  rw [hx]
  refine ⟨_, value?_finite _, fun y w hy => ?_⟩
  have hparity : nearestMagnitude (num * unitsPerOne) den % 2 = 0 →
      (finite false ⟨_, hfinite⟩).toBits % 2 = 0 := by
    intro heven
    rw [toBits, if_neg Bool.false_ne_true, Nat.zero_add]
    exact heven
  rcases lt_trichotomy w (units (nearestMagnitude (num * unitsPerOne) den) / unitsPerOne) with
    hlt | rfl | hgt
  · obtain ⟨hfar, htie⟩ := hnearest.of_value_lt hden hy hlt
    refine ⟨(abs_sub_le_abs_sub_iff' hlt).2 hfar, fun heq _ => hparity (htie ?_)⟩
    exact le_antisymm hfar ((abs_sub_le_abs_sub_iff hlt).1 heq.le)
  · exact ⟨le_rfl, fun _ hne => absurd rfl hne⟩
  · obtain ⟨hfar, htie⟩ := hnearest.of_lt_value hden hy hgt
    refine ⟨(abs_sub_le_abs_sub_iff hgt).2 hfar, fun heq _ => hparity (htie ?_)⟩
    exact le_antisymm ((abs_sub_le_abs_sub_iff' hgt).1 heq.le) hfar

theorem isNearestTo_ofNat {n : Nat} (h : n ≤ 2 ^ 64) : (ofNat n).IsNearestTo n := by
  have hle : n ≤ 2 ^ 64 * 1 := by rwa [Nat.mul_one]
  have hnearest := isNearestTo_ofRatio Nat.one_pos hle
  rwa [Nat.cast_one, div_one] at hnearest

/-- Dividing such doubles by doubles from one upwards gives the double nearest to the quotient. -/
theorem isNearestTo_div {a b : Fin finiteMagnitudes} (ha : units a.val ≤ 2 ^ 64 * unitsPerOne)
    (hb : unitsPerOne ≤ units b.val) :
    ((finite false a).div (finite false b)).IsNearestTo
      ((units a.val / unitsPerOne) / (units b.val / unitsPerOne)) := by
  have hbpos : 0 < units b.val := Nat.lt_of_lt_of_le unitsPerOne_pos hb
  rw [div_eq_ofRatio hbpos, div_div_div_cancel_right₀ cast_unitsPerOne_pos.ne']
  exact isNearestTo_ofRatio hbpos (Nat.le_trans ha (Nat.mul_le_mul_left _ hb))

/-- **Rounding a ratio does not take it past a double that is nearest to something larger.** If it
did, the two doubles would be neighbours, the ratio halfway between them, and both even. -/
theorem le_of_isNearestTo {x : Binary64} {q : ℚ} (hx : x.IsNearestTo q) (hden : 0 < den)
    (hle : (num / den : ℚ) ≤ q) {k : Fin finiteMagnitudes}
    (hk : k.val = nearestMagnitude (num * unitsPerOne) den) :
    (finite false k).le x = true := by
  obtain ⟨v, hv, hnearest⟩ := id hx
  rw [le_iff_value_le (value?_finite k) hv]
  by_contra hlt
  rw [not_le] at hlt
  have hq : 0 ≤ q := le_trans (div_nonneg (Nat.cast_nonneg _) (Nat.cast_nonneg _)) hle
  obtain ⟨m, rfl, hparity⟩ := exists_magnitude hv (hx.nonneg hq hv)
  have hround := isNearestMagnitude_nearestMagnitude (num * unitsPerOne) hden
  rw [← hk] at hround
  have hmid := (abs_sub_le_abs_sub_iff hlt).1 (hnearest _ _ (value?_finite k)).1
  have hfar := (hround.of_value_lt hden hv hlt).1
  -- the ratio and the number are both the midpoint of the two doubles
  have hratio : (2 * (num / den) : ℚ) = 2 * q := by linarith
  have htie : |(units k.val / unitsPerOne : ℚ) - q| = |(units m.val / unitsPerOne : ℚ) - q| := by
    refine le_antisymm ((abs_sub_le_abs_sub_iff' hlt).2 ?_) ((abs_sub_le_abs_sub_iff hlt).2 hmid)
    linarith
  have heven := (hnearest _ _ (value?_finite k)).2 htie hlt.ne'
  rw [value_lt_value_iff] at hlt
  have hge := (two_mul_div_le_iff hden).1 (hratio.trans_le hmid)
  obtain ⟨hnext, heven'⟩ := hround.even_of_gt hden hlt (Nat.le_antisymm (hround.le_of_gt hlt) hge)
  omega

/-! ## Doubles of counters -/

/-- The magnitude that a count is rounded to. -/
def countMagnitude (n : Nat) : Nat := nearestMagnitude (n * unitsPerOne) 1

theorem countMagnitude_mono {n n' : Nat} (h : n ≤ n') : countMagnitude n ≤ countMagnitude n' :=
  nearestMagnitude_mono Nat.one_pos Nat.one_pos
    (Nat.mul_le_mul_right _ (Nat.mul_le_mul_right _ h))

theorem val_eq_of_ofNat_eq {n : Nat} {m : Fin finiteMagnitudes} (h : ofNat n = finite false m) :
    m.val = countMagnitude n := by
  by_cases hfinite : countMagnitude n < finiteMagnitudes
  · have hm : ofNat n = finite false ⟨_, hfinite⟩ := dif_pos hfinite
    rw [hm] at h
    cases h
    rfl
  · have hm : ofNat n = infinite false := dif_neg hfinite
    rw [hm] at h
    cases h

/-- **Counts up to `2 ^ 53` are doubles.** Such a count fills the significand once it is moved by as
many bits as it is short of. -/
theorem exists_units_eq_mul {n : Nat} (h : n ≤ 2 ^ 53) : ∃ m, units m = n * unitsPerOne := by
  rcases Nat.eq_zero_or_pos n with rfl | hpos
  · exact ⟨0, (Nat.zero_mul _).symm⟩
  obtain ⟨k, hk, hlow, hhigh⟩ : ∃ k ≤ 52, 2 ^ k ≤ n ∧ n ≤ 2 * 2 ^ k := by
    rcases Nat.lt_or_eq_of_le h with hlt | rfl
    · have hlog : Nat.log2 n < 53 := (Nat.log2_lt hpos.ne').2 hlt
      refine ⟨Nat.log2 n, by omega, Nat.log2_self_le hpos.ne', ?_⟩
      rw [← Nat.pow_succ']
      exact Nat.lt_log2_self.le
    · exact ⟨52, le_rfl, by decide, by decide⟩
  have hfull : 2 ^ k * 2 ^ (52 - k) = significandCount := by
    rw [← Nat.pow_add, Nat.add_sub_cancel' hk, significandCount_eq]
  have hindex : (k + 1023) * significandCount =
      (1022 + k) * significandCount + significandCount := by
    ring
  have hshift : 2 ^ (52 - k) * 2 ^ (1022 + k) = unitsPerOne := by
    refine Nat.eq_of_mul_eq_mul_left (Nat.two_pow_pos k) ?_
    rw [← Nat.mul_assoc, hfull, ← units_two_pow, hindex, units_eq (fun _ => le_rfl) (by decide)]
  refine ⟨(1022 + k) * significandCount + n * 2 ^ (52 - k), ?_⟩
  rw [units_eq (fun _ => hfull ▸ Nat.mul_le_mul_right _ hlow), Nat.mul_assoc, hshift]
  rw [← hfull, ← Nat.mul_assoc]
  exact Nat.mul_le_mul_right _ hhigh

/-- So they are not rounded. -/
theorem units_countMagnitude {n : Nat} (h : n ≤ 2 ^ 53) :
    units (countMagnitude n) = n * unitsPerOne := by
  obtain ⟨m, hm⟩ := exists_units_eq_mul h
  have hself := nearestMagnitude_units m Nat.one_pos
  rw [hm, Nat.mul_one] at hself
  rw [countMagnitude, hself, hm]

/-- A common factor does not matter. -/
theorem nearestMagnitude_mul_right {u : Nat} (hden : 0 < den) (hu : 0 < u) :
    nearestMagnitude (num * u) (den * u) = nearestMagnitude num den := by
  have heq : num * u * den = num * (den * u) := by ring
  exact Nat.le_antisymm
    (nearestMagnitude_mono (Nat.mul_pos hden hu) hden heq.le)
    (nearestMagnitude_mono hden (Nat.mul_pos hden hu) heq.ge)

end Binary64

end FlowParity
