import FlowParity.Number.Binary64
import Mathlib.Algebra.Order.Ring.Nat
import Mathlib.Tactic.Linarith
import Mathlib.Tactic.Ring
/-!
# Rounding

All arithmetic on doubles is exact arithmetic followed by one rounding, so what is true of
differences and verdicts comes down to two facts about rounding. It is **monotone** in the
ratio that is rounded (`nearestMagnitude_mono`), whatever binades the results fall into, and a
ratio that is a double already is rounded to itself (`nearestMagnitude_units`). Any bound on a
rounded result that is a double follows from the two.

Ratios are compared by cross-multiplication, so no fraction occurs. What is said of a
magnitude is said of its significand and its exponent: below `2 ^ 53`, and not below `2 ^ 52`
unless the exponent is the least one.
-/

namespace FlowParity

namespace Binary64

/-! ## The nearest whole number -/

/-- A whole number is nearest to a ratio: it is half a unit away at most, and even if it is. -/
structure IsNearest (num den n : Nat) : Prop where
  /-- It is not too large. -/
  le_add : 2 * (n * den) ≤ 2 * num + den
  /-- It is not too small. -/
  le_mul_add : 2 * num ≤ 2 * (n * den) + den
  /-- Half a unit above the ratio it is even. -/
  even_above : 2 * (n * den) = 2 * num + den → n % 2 = 0
  /-- Half a unit below the ratio it is even. -/
  even_below : 2 * num = 2 * (n * den) + den → n % 2 = 0

variable {num den num' den' n n' : Nat}

theorem isNearest_nearest (num : Nat) (hden : 0 < den) : IsNearest num den (nearest num den) := by
  have hsplit := Nat.div_add_mod num den
  have hrest := Nat.mod_lt num hden
  have hbelow : num / den * den = den * (num / den) := Nat.mul_comm _ _
  have habove : (num / den + 1) * den = num / den * den + den := Nat.succ_mul _ _
  rw [nearest]
  split
  · constructor <;> omega
  split
  · constructor <;> omega
  · -- a tie: the even one of the two neighbours is taken
    rcases Nat.mod_two_eq_zero_or_one (num / den) with heven | hodd
    · rw [heven, Nat.add_zero]
      constructor <;> omega
    · rw [hodd]
      constructor <;> omega

/-- **Of two ratios the larger one has no smaller nearest number.** If it had, both ratios would
be halfway between two neighbours, which are not both even. -/
theorem IsNearest.le (h : IsNearest num den n) (h' : IsNearest num' den' n') (hden : 0 < den)
    (hden' : 0 < den') (hle : num * den' ≤ num' * den) : n ≤ n' := by
  by_contra hlt
  have hstep : (n' + 1) * (den * den') ≤ n * (den * den') :=
    Nat.mul_le_mul_right _ (by omega)
  have habove : 2 * (n * den) * den' ≤ (2 * num + den) * den' :=
    Nat.mul_le_mul_right den' h.le_add
  have hbelow : 2 * num' * den ≤ (2 * (n' * den') + den') * den :=
    Nat.mul_le_mul_right den h'.le_mul_add
  -- there is no room between the two, so every bound is met
  have heq : 2 * (n * den) * den' = (2 * num + den) * den' := by linarith
  have heq' : 2 * num' * den = (2 * (n' * den') + den') * den := by linarith
  have hone : n * (den * den') = (n' + 1) * (den * den') := by linarith
  have heven := h.even_above (Nat.eq_of_mul_eq_mul_right hden' heq)
  have heven' := h'.even_below (Nat.eq_of_mul_eq_mul_right hden heq')
  have hsucc := Nat.eq_of_mul_eq_mul_right (Nat.mul_pos hden hden') hone
  omega

theorem nearest_mono (hden : 0 < den) (hden' : 0 < den') (hle : num * den' ≤ num' * den) :
    nearest num den ≤ nearest num' den' :=
  (isNearest_nearest num hden).le (isNearest_nearest num' hden') hden hden' hle

/-- A whole number is its own nearest one. -/
theorem nearest_mul_self (n : Nat) (hden : 0 < den) : nearest (n * den) den = n := by
  rw [nearest, Nat.mul_mod_left, Nat.mul_div_cancel n hden]
  exact if_pos (by omega)

/-! ## Exponents -/

/-- The exponent of the double nearest to a number of units, counted from the least one. -/
def exponent (q : Nat) : Nat := Nat.log2 q - 52

theorem significandCount_eq : significandCount = 2 ^ 52 := by decide

theorem nearestMagnitude_eq (num den : Nat) :
    nearestMagnitude num den = exponent (num / den) * significandCount +
      nearest num (den * 2 ^ exponent (num / den)) := rfl

theorem lt_pow_exponent (q : Nat) : q < 2 ^ (exponent q + 53) := by
  refine Nat.lt_of_lt_of_le (Nat.lt_log2_self (n := q)) ?_
  exact Nat.pow_le_pow_right (by omega) (by rw [exponent]; omega)

theorem pow_exponent_le {q : Nat} (h : 0 < exponent q) : 2 ^ (exponent q + 52) ≤ q := by
  have hlog : exponent q + 52 = Nat.log2 q := by
    rw [exponent] at h ⊢
    omega
  rw [hlog]
  refine Nat.log2_self_le ?_
  rintro rfl
  simp [exponent] at h

theorem exponent_le {q e : Nat} (h : q < 2 ^ (e + 53)) : exponent q ≤ e := by
  by_contra hlt
  have hle : 2 ^ (exponent q + 52) ≤ q := pow_exponent_le (by omega)
  have hpow : 2 ^ (e + 53) ≤ 2 ^ (exponent q + 52) :=
    Nat.pow_le_pow_right (by omega) (by omega)
  omega

theorem le_exponent {q e : Nat} (h : 2 ^ (e + 52) ≤ q) : e ≤ exponent q := by
  have hlt : 2 ^ (e + 52) < 2 ^ (exponent q + 53) := Nat.lt_of_le_of_lt h (lt_pow_exponent q)
  have := (Nat.pow_lt_pow_iff_right (by omega)).1 hlt
  omega

theorem exponent_mono {q q' : Nat} (h : q ≤ q') : exponent q ≤ exponent q' :=
  exponent_le (Nat.lt_of_le_of_lt h (lt_pow_exponent q'))

/-! ## Significands -/

/-- The significand of the double nearest to a ratio of units. If the ratio is rounded up to the
next power of two, it has one bit too many. -/
def significand (num den : Nat) : Nat := nearest num (den * 2 ^ exponent (num / den))

theorem significand_le (num : Nat) (hden : 0 < den) :
    significand num den ≤ 2 * significandCount := by
  have hlt := lt_pow_exponent (num / den)
  rw [Nat.div_lt_iff_lt_mul hden, Nat.pow_add] at hlt
  have hone : nearest (2 * significandCount * 1) 1 = 2 * significandCount :=
    nearest_mul_self _ Nat.one_pos
  rw [← hone]
  refine nearest_mono (Nat.mul_pos hden (Nat.two_pow_pos _)) Nat.one_pos ?_
  rw [significandCount_eq]
  nlinarith

theorem le_significand (hden : 0 < den) (h : 0 < exponent (num / den)) :
    significandCount ≤ significand num den := by
  have hle := pow_exponent_le h
  rw [Nat.le_div_iff_mul_le hden, Nat.pow_add] at hle
  have hone : nearest (significandCount * 1) 1 = significandCount :=
    nearest_mul_self _ Nat.one_pos
  rw [← hone]
  refine nearest_mono Nat.one_pos (Nat.mul_pos hden (Nat.two_pow_pos _)) ?_
  rw [significandCount_eq]
  nlinarith

/-- **Rounding is monotone.** In one binade that is a matter of significands; from one to the next
the exponents tell, since a significand that is rounded up past its binade just reaches the
next one. -/
theorem nearestMagnitude_mono (hden : 0 < den) (hden' : 0 < den')
    (hle : num * den' ≤ num' * den) : nearestMagnitude num den ≤ nearestMagnitude num' den' := by
  have hdiv : num / den ≤ num' / den' := by
    rw [Nat.le_div_iff_mul_le hden']
    refine Nat.le_of_mul_le_mul_right ?_ hden
    calc num / den * den' * den = num / den * den * den' := Nat.mul_right_comm _ _ _
      _ ≤ num * den' := Nat.mul_le_mul_right _ (Nat.div_mul_le_self num den)
      _ ≤ num' * den := hle
  rw [nearestMagnitude_eq, nearestMagnitude_eq]
  rcases Nat.eq_or_lt_of_le (exponent_mono hdiv) with heq | hlt
  · rw [heq]
    refine Nat.add_le_add_left (nearest_mono ?_ ?_ ?_) _
    · exact Nat.mul_pos hden (Nat.two_pow_pos _)
    · exact Nat.mul_pos hden' (Nat.two_pow_pos _)
    · rw [← Nat.mul_assoc, ← Nat.mul_assoc]
      exact Nat.mul_le_mul_right _ hle
  · have hsmall := significand_le num hden
    have hlarge : significandCount ≤ significand num' den' := le_significand hden' (by omega)
    have hsteps : (exponent (num / den) + 1) * significandCount ≤
        exponent (num' / den') * significandCount := Nat.mul_le_mul_right _ hlt
    rw [significand] at hsmall hlarge
    rw [Nat.add_mul] at hsteps
    omega

/-! ## Magnitudes and their values -/

/-- The value of an exponent and a significand. A significand with one bit too many stands for
the same value as the carry into the exponent. -/
theorem units_eq {e s : Nat} (hlarge : 0 < e → significandCount ≤ s)
    (hsmall : s ≤ 2 * significandCount) : units (e * significandCount + s) = s * 2 ^ e := by
  have hpos : 0 < significandCount := by decide
  rcases Nat.lt_or_ge s significandCount with hlt | hge
  · have he : e = 0 := by omega
    rw [he, Nat.zero_mul, Nat.zero_add, units, if_pos hlt, Nat.pow_zero, Nat.mul_one]
  have hvalue : ∀ e' r, r < significandCount → units ((e' + 1) * significandCount + r) =
      (significandCount + r) * 2 ^ e' := by
    intro e' r hr
    have hnot : ¬ (e' + 1) * significandCount + r < significandCount := by
      rw [Nat.add_mul]
      omega
    have hdiv : ((e' + 1) * significandCount + r) / significandCount = e' + 1 := by
      rw [Nat.mul_comm, Nat.mul_add_div hpos, Nat.div_eq_of_lt hr, Nat.add_zero]
    have hmod : ((e' + 1) * significandCount + r) % significandCount = r := by
      rw [Nat.mul_comm, Nat.mul_add_mod, Nat.mod_eq_of_lt hr]
    rw [units, if_neg hnot, hdiv, hmod]
    rfl
  rcases Nat.lt_or_ge s (2 * significandCount) with hlt | hfull
  · have hsplit : e * significandCount + s =
        (e + 1) * significandCount + (s - significandCount) := by
      rw [Nat.add_mul]
      omega
    rw [hsplit, hvalue _ _ (by omega), Nat.add_sub_cancel' hge]
  · have hcarry : s = 2 * significandCount := by omega
    have hsplit : e * significandCount + s = (e + 1 + 1) * significandCount + 0 := by
      rw [hcarry, Nat.add_mul, Nat.add_mul]
      omega
    rw [hsplit, hvalue _ _ hpos, hcarry, Nat.pow_succ]
    ring

/-- Every magnitude has an exponent and a significand. -/
theorem exists_exponent_significand (m : Nat) :
    ∃ e s, m = e * significandCount + s ∧ (0 < e → significandCount ≤ s) ∧
      s < 2 * significandCount := by
  have hpos : 0 < significandCount := by decide
  rcases Nat.lt_or_ge m significandCount with hlt | hge
  · exact ⟨0, m, by omega, by omega, by omega⟩
  · have hmod := Nat.mod_lt m hpos
    have hdiv := Nat.div_add_mod m significandCount
    have hone : 1 ≤ m / significandCount := (Nat.one_le_div_iff hpos).2 hge
    refine ⟨m / significandCount - 1, significandCount + m % significandCount, ?_, ?_, ?_⟩
    · rw [Nat.sub_mul, Nat.mul_comm (m / significandCount)]
      have := Nat.mul_le_mul_left significandCount hone
      omega
    · omega
    · omega

/-- **Magnitudes are in the order of their values.** -/
theorem units_strictMono : StrictMono units := by
  refine strictMono_nat_of_lt_succ fun m => ?_
  obtain ⟨e, s, rfl, hlarge, hsmall⟩ := exists_exponent_significand m
  have hlarge' : 0 < e → significandCount ≤ s + 1 := fun he => by
    have := hlarge he
    omega
  rw [units_eq hlarge (by omega), Nat.add_assoc, units_eq hlarge' (by omega)]
  exact Nat.mul_lt_mul_of_pos_right (by omega) (Nat.two_pow_pos e)

/-- **A double is rounded to itself.** -/
theorem nearestMagnitude_units (m : Nat) (hden : 0 < den) :
    nearestMagnitude (units m * den) den = m := by
  obtain ⟨e, s, rfl, hlarge, hsmall⟩ := exists_exponent_significand m
  rw [units_eq hlarge (by omega), nearestMagnitude_eq, Nat.mul_div_cancel _ hden]
  have he : exponent (s * 2 ^ e) = e := by
    rw [significandCount_eq] at hlarge hsmall
    refine Nat.le_antisymm (exponent_le ?_) ?_
    · rw [Nat.pow_add, Nat.mul_comm]
      exact Nat.mul_lt_mul_of_pos_left (by omega) (Nat.two_pow_pos e)
    · rcases Nat.eq_zero_or_pos e with rfl | hpos
      · exact Nat.zero_le _
      · refine le_exponent ?_
        rw [Nat.pow_add, Nat.mul_comm]
        exact Nat.mul_le_mul_right _ (hlarge hpos)
  rw [he, Nat.mul_assoc, Nat.mul_comm (2 ^ e),
    nearest_mul_self s (Nat.mul_pos hden (Nat.two_pow_pos e))]

/-- A ratio that is no less than a double is not rounded below it. -/
theorem le_nearestMagnitude {m : Nat} (hden : 0 < den) (h : units m * den ≤ num) :
    m ≤ nearestMagnitude num den := by
  have hself : nearestMagnitude (units m * 1) 1 = m := nearestMagnitude_units m Nat.one_pos
  rw [← hself]
  refine nearestMagnitude_mono Nat.one_pos hden ?_
  rw [Nat.mul_one, Nat.mul_one]
  exact h

/-- A ratio that is no more than a double is not rounded above it. -/
theorem nearestMagnitude_le {m : Nat} (hden : 0 < den) (h : num ≤ units m * den) :
    nearestMagnitude num den ≤ m := by
  have hself : nearestMagnitude (units m * 1) 1 = m := nearestMagnitude_units m Nat.one_pos
  rw [← hself]
  refine nearestMagnitude_mono hden Nat.one_pos ?_
  rw [Nat.mul_one, Nat.mul_one]
  exact h

/-- One more in the exponent doubles the value. -/
theorem units_pow_mul (k n : Nat) : units ((k + n + 1) * significandCount) =
    2 ^ k * units ((n + 1) * significandCount) := by
  have hvalue : ∀ e, units ((e + 1) * significandCount) = significandCount * 2 ^ e := by
    intro e
    rw [Nat.succ_mul, units_eq (fun _ => Nat.le_refl _) (by omega)]
  rw [hvalue, hvalue, Nat.pow_add]
  ring

/-- The number one is as many units as it should be. -/
theorem units_one : units (1023 * significandCount) = unitsPerOne := by decide +kernel

/-- The magnitude of a power of two. -/
theorem units_two_pow (k : Nat) : units ((k + 1023) * significandCount) = 2 ^ k * unitsPerOne := by
  rw [← units_one]
  exact units_pow_mul k 1022

/-! ## Doubles of counts -/

/-- **Whole numbers of 64 bits are rounded to finite doubles**, from one upwards to doubles from one
upwards, and never above the next power of two. -/
theorem exists_ofNat_eq {n : Nat} (h : n ≤ 2 ^ 64) :
    ∃ m : Fin finiteMagnitudes, ofNat n = finite false m ∧ (n = 0 → m.val = 0) ∧
      (0 < n → unitsPerOne ≤ units m.val) ∧ units m.val ≤ 2 ^ 64 * unitsPerOne := by
  have hmagnitude : nearestMagnitude (n * unitsPerOne) 1 ≤ (64 + 1023) * significandCount := by
    refine nearestMagnitude_le Nat.one_pos ?_
    rw [units_two_pow, Nat.mul_one]
    exact Nat.mul_le_mul_right _ h
  have hfinite : nearestMagnitude (n * unitsPerOne) 1 < finiteMagnitudes :=
    Nat.lt_of_le_of_lt hmagnitude (by decide)
  refine ⟨⟨_, hfinite⟩, dif_pos hfinite, ?_, ?_, ?_⟩
  · rintro rfl
    refine Nat.le_zero.1 (nearestMagnitude_le Nat.one_pos ?_)
    rw [Nat.zero_mul]
    exact Nat.zero_le _
  · intro hpos
    have hle : 1023 * significandCount ≤ nearestMagnitude (n * unitsPerOne) 1 := by
      refine le_nearestMagnitude Nat.one_pos ?_
      rw [units_one, Nat.mul_one]
      exact Nat.le_mul_of_pos_left _ hpos
    exact Nat.le_trans units_one.ge (units_strictMono.monotone hle)
  · exact Nat.le_trans (units_strictMono.monotone hmagnitude) (units_two_pow 64).le

theorem unitsPerOne_pos : 0 < unitsPerOne := by decide +kernel

/-- Dividing by something rounds the ratio. -/
theorem div_eq_ofRatio {a b : Fin finiteMagnitudes} (hb : 0 < units b.val) :
    (finite false a).div (finite false b) = ofRatio false (units a.val) (units b.val) := by
  refine if_neg fun hzero => ?_
  rw [hzero] at hb
  exact absurd hb (by decide)

/-- **Dividing such numbers by one from one upwards rounds their ratio** to a finite double. -/
theorem exists_div_eq {a b : Fin finiteMagnitudes} (ha : units a.val ≤ 2 ^ 64 * unitsPerOne)
    (hb : unitsPerOne ≤ units b.val) :
    ∃ m : Fin finiteMagnitudes, (finite false a).div (finite false b) = finite false m ∧
      m.val = nearestMagnitude (units a.val * unitsPerOne) (units b.val) := by
  have hbpos : 0 < units b.val := Nat.lt_of_lt_of_le unitsPerOne_pos hb
  have hmagnitude : nearestMagnitude (units a.val * unitsPerOne) (units b.val) ≤
      (64 + 1023) * significandCount := by
    refine nearestMagnitude_le hbpos ?_
    rw [units_two_pow]
    exact Nat.mul_le_mul ha hb
  have hfinite : nearestMagnitude (units a.val * unitsPerOne) (units b.val) < finiteMagnitudes :=
    Nat.lt_of_le_of_lt hmagnitude (by decide)
  refine ⟨⟨_, hfinite⟩, ?_, rfl⟩
  rw [div_eq_ofRatio hbpos]
  exact dif_pos hfinite

/-! ## Comparing doubles -/

/-- Nothing but zero is within a zero. -/
theorem le_iff_of_isZero {x : Binary64} {m : Fin finiteMagnitudes} (hx : x.isZero = true) :
    (finite false m).le x = true ↔ m.val = 0 := by
  cases x with
  | nan | infinite => cases hx
  | finite negative z =>
    have hz : z.val = 0 := of_decide_eq_true hx
    have hzero : signedUnits negative z.val = 0 := by
      rw [hz]
      cases negative <;> rfl
    rw [le, hzero, decide_eq_true_eq]
    show (units m.val : Int) ≤ 0 ↔ m.val = 0
    rw [← units_strictMono.injective.eq_iff]
    show (units m.val : Int) ≤ 0 ↔ units m.val = 0
    omega

end Binary64

end FlowParity
