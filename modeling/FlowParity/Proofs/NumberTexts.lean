import FlowParity.Proofs.Numerals
import Mathlib.Data.Rat.Floor
import Mathlib.Tactic.Linarith
import Mathlib.Tactic.Positivity
/-!
# Texts of numbers

What a text of digits is worth (`SpellsInteger`, `SpellsDecimal`), apart from how it is read. A
reader that keeps to a limit finds every integer within it and nothing else
(`readInt?_eq_some_iff`), since no part of a numeral is worth more than the whole. The part of a
decimal number in front of its point is its integer part, toward zero (`integerPart`).
-/

namespace FlowParity

namespace Text

variable {limit negLimit acc n : Nat} {s t : List Char}

/-! ## The value of digits -/

/-- **A numeral**: digits, one at least. -/
def IsNumeral (s : List Char) : Prop := s ≠ [] ∧ ∀ c ∈ s, isDigit c = true

instance (s : List Char) : Decidable (IsNumeral s) :=
  decidable_of_iff (s ≠ [] ∧ s.all isDigit = true) (by rw [IsNumeral, List.all_eq_true])

theorem digit?_of_isDigit {c : Char} (hc : isDigit c = true) : ∃ d < 10, digit? c = some d := by
  simp only [isDigit, Bool.and_eq_true, decide_eq_true_eq] at hc
  refine ⟨c.toNat - '0'.toNat, ?_, if_pos hc⟩
  have hle : c.toNat ≤ '9'.toNat := hc.2
  have h9 : '9'.toNat = 57 := rfl
  have h0 : '0'.toNat = 48 := rfl
  omega

theorem isDigit_of_digit?_eq_some {c : Char} {d : Nat} (h : digit? c = some d) :
    isDigit c = true := by
  rw [digit?] at h
  split at h
  · rename_i hc
    rw [isDigit, decide_eq_true hc.1, decide_eq_true hc.2]
    rfl
  · cases h

theorem foldl_digits (acc : Nat) (s : List Char) :
    s.foldl (fun acc c => 10 * acc + (digit? c).getD 0) acc =
      acc * 10 ^ s.length + digitsValue s := by
  induction s generalizing acc with
  | nil => simp [digitsValue]
  | cons c s ih =>
    have hcons : digitsValue (c :: s) = (digit? c).getD 0 * 10 ^ s.length + digitsValue s := by
      rw [digitsValue, List.foldl_cons, Nat.mul_zero, Nat.zero_add, ih]
    rw [List.foldl_cons, ih, hcons, List.length_cons, pow_succ]
    ring

/-- **Digits count by their place.** -/
theorem digitsValue_append (s t : List Char) :
    digitsValue (s ++ t) = digitsValue s * 10 ^ t.length + digitsValue t := by
  have happend := foldl_digits (digitsValue s) t
  rwa [digitsValue, ← List.foldl_append] at happend

theorem digitsValue_cons (c : Char) (s : List Char) :
    digitsValue (c :: s) = (digit? c).getD 0 * 10 ^ s.length + digitsValue s := by
  have hone : digitsValue [c] = (digit? c).getD 0 := by simp [digitsValue]
  rw [← hone, ← digitsValue_append, List.singleton_append]

/-- Digits are worth less than one in the place before them. -/
theorem digitsValue_lt (s : List Char) : digitsValue s < 10 ^ s.length := by
  induction s with
  | nil => exact Nat.one_pos
  | cons c s ih =>
    have hdigit : (digit? c).getD 0 ≤ 9 := by
      rw [digit?]
      split
      · rename_i hc
        have hle : c.toNat ≤ 57 := hc.2
        have h0 : '0'.toNat = 48 := rfl
        simp only [Option.getD_some]
        omega
      · exact Nat.zero_le _
    rw [digitsValue_cons, List.length_cons, pow_succ]
    have hmul := Nat.mul_le_mul_right (10 ^ s.length) hdigit
    omega

/-! ## Integers -/

/-- **Digits are read within a limit** exactly if they are worth no more. -/
theorem readDigits_eq_ok_iff (hacc : acc ≤ limit) : readDigits limit acc s = .ok n ↔
    (∀ c ∈ s, isDigit c = true) ∧ acc * 10 ^ s.length + digitsValue s = n ∧ n ≤ limit := by
  induction s generalizing acc with
  | nil =>
    simp [readDigits, digitsValue]
    omega
  | cons c s ih =>
    rw [readDigits, List.forall_mem_cons, digitsValue_cons, List.length_cons, pow_succ]
    cases hc : digit? c with
    | none =>
      have hdigit : isDigit c ≠ true := fun h => by
        obtain ⟨d, -, hd⟩ := digit?_of_isDigit h
        rw [hc] at hd
        cases hd
      simp [hdigit]
    | some d =>
      have hvalue : acc * (10 ^ s.length * 10) + (d * 10 ^ s.length + digitsValue s) =
          (10 * acc + d) * 10 ^ s.length + digitsValue s := by ring
      simp only [isDigit_of_digit?_eq_some hc, true_and, Option.getD_some, hvalue]
      split
      · rename_i hnext
        exact ih hnext
      · rename_i hnext
        -- what is too large after some digits does not get smaller
        have hpos : 0 < 10 ^ s.length := Nat.pow_pos (by decide)
        have hle := Nat.le_mul_of_pos_right (10 * acc + d) hpos
        simp only [reduceCtorEq, false_iff]
        omega

/-- **An integer in text**: a numeral, perhaps after a sign. -/
inductive SpellsInteger : List Char → Int → Prop
  /-- Without a sign. -/
  | bare {s : List Char} (h : IsNumeral s) : SpellsInteger s (digitsValue s)
  /-- After a plus. -/
  | plus {s : List Char} (h : IsNumeral s) : SpellsInteger ('+' :: s) (digitsValue s)
  /-- After a minus. -/
  | minus {s : List Char} (h : IsNumeral s) : SpellsInteger ('-' :: s) (-(digitsValue s))

theorem readDigits_numeral (hs : s ≠ []) :
    readDigits limit 0 s = .ok n ↔ IsNumeral s ∧ digitsValue s = n ∧ n ≤ limit := by
  rw [readDigits_eq_ok_iff (Nat.zero_le _), Nat.zero_mul, Nat.zero_add, IsNumeral, and_iff_right hs]

/-- A numeral does not start with a sign. -/
theorem IsNumeral.head?_ne (hs : IsNumeral s) : s.head? ≠ some '-' ∧ s.head? ≠ some '+' := by
  have hsign : ∀ c, isDigit c = false → s.head? ≠ some c := fun c hc hhead => by
    rw [hs.2 c (List.mem_of_head? hhead)] at hc
    cases hc
  exact ⟨hsign '-' rfl, hsign '+' rfl⟩

theorem SpellsInteger.ne_nil {i : Int} (h : SpellsInteger s i) : s ≠ [] := by
  cases h with
  | bare h => exact h.1
  | plus => exact List.cons_ne_nil _ _
  | minus => exact List.cons_ne_nil _ _

theorem spellsInteger_minus {i : Int} :
    SpellsInteger ('-' :: s) i ↔ IsNumeral s ∧ -(digitsValue s : Int) = i := by
  constructor
  · rintro (h | _ | h)
    · exact absurd rfl h.head?_ne.1
    · exact ⟨h, rfl⟩
  · rintro ⟨h, rfl⟩
    exact .minus h

theorem spellsInteger_plus {i : Int} :
    SpellsInteger ('+' :: s) i ↔ IsNumeral s ∧ (digitsValue s : Int) = i := by
  constructor
  · rintro (h | h | _)
    · exact absurd rfl h.head?_ne.2
    · exact ⟨h, rfl⟩
  · rintro ⟨h, rfl⟩
    exact .plus h

theorem spellsInteger_of_head?_ne {i : Int} (hminus : s.head? ≠ some '-')
    (hplus : s.head? ≠ some '+') :
    SpellsInteger s i ↔ IsNumeral s ∧ (digitsValue s : Int) = i := by
  constructor
  · rintro (h | _ | _)
    · exact ⟨h, rfl⟩
    · exact absurd rfl hplus
    · exact absurd rfl hminus
  · rintro ⟨h, rfl⟩
    exact .bare h

theorem readNat_plus (hs : s ≠ []) : readNat limit ('+' :: s) = readDigits limit 0 s := by
  rw [readNat]
  exact hs

/-- **An integer without a minus is read within its limit**, and nothing else is. -/
theorem readNat_eq_ok_iff (hminus : s.head? ≠ some '-') :
    readNat limit s = .ok n ↔ SpellsInteger s n ∧ n ≤ limit := by
  cases s with
  | nil =>
    constructor
    · rintro ⟨⟩
    · rintro ⟨h, -⟩
      exact absurd rfl h.ne_nil
  | cons c s =>
    by_cases hplus : c = '+'
    · subst hplus
      rw [spellsInteger_plus, Int.natCast_inj, and_assoc]
      by_cases hs : s = []
      · subst hs
        constructor
        · rintro ⟨⟩
        · rintro ⟨h, -⟩
          exact absurd rfl h.1
      · rw [readNat_plus hs, readDigits_numeral hs]
    · have hplus' : (c :: s).head? ≠ some '+' := by simpa using hplus
      rw [readNat_of_head?_ne (List.cons_ne_nil _ _) hplus',
        readDigits_numeral (List.cons_ne_nil _ _), spellsInteger_of_head?_ne hminus hplus',
        Int.natCast_inj, and_assoc]

theorem toOption_eq_some_iff {ε α : Type} {x : Except ε α} {a : α} :
    x.toOption = some a ↔ x = .ok a := by
  cases x <;> simp [Except.toOption]

/-- **An integer is read within its limits**, and nothing else is. -/
theorem readInt?_eq_some_iff {i : Int} : readInt? negLimit limit s = some i ↔
    SpellsInteger s i ∧ -negLimit ≤ i ∧ i ≤ limit := by
  rcases eq_or_ne s [] with rfl | hs
  · constructor
    · rintro ⟨⟩
    · rintro ⟨h, -⟩
      exact absurd rfl h.ne_nil
  by_cases hminus : s.head? = some '-'
  · obtain ⟨t, rfl⟩ := List.head?_eq_some_iff.1 hminus
    rcases eq_or_ne t [] with rfl | ht
    · constructor
      · rintro ⟨⟩
      · rintro ⟨h, -⟩
        exact absurd rfl (spellsInteger_minus.1 h).1.1
    · rw [readInt?_minus ht, Option.map_eq_some_iff, spellsInteger_minus]
      simp only [toOption_eq_some_iff, readDigits_numeral ht]
      constructor
      · rintro ⟨m, ⟨hdigits, rfl, hle⟩, rfl⟩
        exact ⟨⟨hdigits, rfl⟩, by omega, by omega⟩
      · rintro ⟨⟨hdigits, rfl⟩, hlower, -⟩
        exact ⟨digitsValue t, ⟨hdigits, rfl, by omega⟩, rfl⟩
  · rw [readInt?_of_head?_ne hs hminus, Option.map_eq_some_iff]
    simp only [toOption_eq_some_iff, readNat_eq_ok_iff hminus]
    constructor
    · rintro ⟨m, ⟨h, hle⟩, rfl⟩
      exact ⟨h, by simp, by simpa using hle⟩
    · rintro ⟨h, -, hupper⟩
      have hnonneg : 0 ≤ i := by
        cases h with
        | bare => exact Int.natCast_nonneg _
        | plus => exact Int.natCast_nonneg _
        | minus => exact absurd rfl hminus
      obtain ⟨m, rfl⟩ := Int.eq_ofNat_of_zero_le hnonneg
      exact ⟨m, ⟨h, by omega⟩, rfl⟩

/-- An integer in text is one number. -/
theorem SpellsInteger.unique {i j : Int} (hi : SpellsInteger s i) (hj : SpellsInteger s j) :
    i = j := by
  -- both are read under limits that are wide enough for either
  have hread : ∀ k, SpellsInteger s k → -(i.natAbs + j.natAbs : Nat) ≤ k →
      k ≤ (i.natAbs + j.natAbs : Nat) →
      readInt? (i.natAbs + j.natAbs) (i.natAbs + j.natAbs) s = some k :=
    fun k hk hlower hupper => readInt?_eq_some_iff.2 ⟨hk, hlower, hupper⟩
  have heq := (hread i hi (by omega) (by omega)).symm.trans (hread j hj (by omega) (by omega))
  exact Option.some.inj heq

/-- Nothing but digits and signs is in an integer. -/
theorem SpellsInteger.forall_mem {i : Int} (h : SpellsInteger s i) :
    ∀ c ∈ s, c = '-' ∨ c = '+' ∨ isDigit c = true := by
  cases h with
  | bare h => exact fun c hc => .inr (.inr (h.2 c hc))
  | plus h => exact List.forall_mem_cons.2 ⟨.inr (.inl rfl), fun c hc => .inr (.inr (h.2 c hc))⟩
  | minus h => exact List.forall_mem_cons.2 ⟨.inl rfl, fun c hc => .inr (.inr (h.2 c hc))⟩

/-! ## Decimal numbers -/

/-- The value of digits after a point. -/
def fractionValue (s : List Char) : ℚ := digitsValue s / 10 ^ s.length

theorem fractionValue_nonneg (s : List Char) : 0 ≤ fractionValue s := by
  rw [fractionValue]
  positivity

theorem fractionValue_lt_one (s : List Char) : fractionValue s < 1 := by
  have hpos : (0 : ℚ) < 10 ^ s.length := by positivity
  rw [fractionValue, div_lt_one hpos]
  exact_mod_cast digitsValue_lt s

/-- **A decimal number in text**: numerals on both sides of a point, perhaps after a minus. -/
inductive SpellsDecimal : List Char → ℚ → Prop
  /-- Without a sign. -/
  | bare {w f : List Char} (hw : IsNumeral w) (hf : IsNumeral f) :
    SpellsDecimal (w ++ '.' :: f) (digitsValue w + fractionValue f)
  /-- After a minus. -/
  | minus {w f : List Char} (hw : IsNumeral w) (hf : IsNumeral f) :
    SpellsDecimal ('-' :: (w ++ '.' :: f)) (-(digitsValue w + fractionValue f))

/-- **A number in text**, whole or decimal. -/
inductive SpellsNumber : List Char → ℚ → Prop
  /-- A whole number. -/
  | integer {s : List Char} {n : Int} (h : SpellsInteger s n) : SpellsNumber s n
  /-- A decimal number. -/
  | decimal {s : List Char} {x : ℚ} (h : SpellsDecimal s x) : SpellsNumber s x

/-- Nothing but digits, signs and a point is in a number. -/
theorem SpellsNumber.forall_mem {x : ℚ} (h : SpellsNumber s x) :
    ∀ c ∈ s, c = '-' ∨ c = '+' ∨ c = '.' ∨ isDigit c = true := by
  have hnumeral : ∀ w f : List Char, IsNumeral w → IsNumeral f → ∀ c ∈ w ++ '.' :: f,
      c = '-' ∨ c = '+' ∨ c = '.' ∨ isDigit c = true := by
    intro w f hw hf c hc
    rcases List.mem_append.1 hc with hc | hc
    · exact .inr (.inr (.inr (hw.2 c hc)))
    · rcases List.mem_cons.1 hc with rfl | hc
      · exact .inr (.inr (.inl rfl))
      · exact .inr (.inr (.inr (hf.2 c hc)))
  cases h with
  | integer h => exact fun c hc => (h.forall_mem c hc).imp_right (·.imp_right .inr)
  | decimal h =>
    cases h with
    | bare hw hf => exact hnumeral _ _ hw hf
    | minus hw hf => exact List.forall_mem_cons.2 ⟨.inl rfl, hnumeral _ _ hw hf⟩

/-- A text with another character in it is no number. -/
theorem not_spellsNumber_of_mem {c : Char} (hc : c ∈ s)
    (hother : (c == '-' || c == '+' || c == '.' || isDigit c) = false) (x : ℚ) :
    ¬ SpellsNumber s x := by
  intro h
  rcases h.forall_mem c hc with rfl | rfl | rfl | hdigit
  · cases hother
  · cases hother
  · cases hother
  · rw [hdigit, Bool.or_true] at hother
    cases hother

/-- What is left of a number without its fraction. -/
def integerPart (x : ℚ) : Int := if 0 ≤ x then ⌊x⌋ else ⌈x⌉

theorem integerPart_neg (x : ℚ) : integerPart (-x) = -integerPart x := by
  rw [integerPart, integerPart]
  rcases lt_trichotomy x 0 with hx | rfl | hx
  · rw [if_pos (by linarith), if_neg (by linarith), Int.floor_neg]
  · simp
  · rw [if_neg (by linarith), if_pos (by linarith), Int.ceil_neg]

theorem integerPart_add_fractionValue (n : Nat) (s : List Char) :
    integerPart (n + fractionValue s) = n := by
  have hnonneg := fractionValue_nonneg s
  have hlt := fractionValue_lt_one s
  have hn : (0 : ℚ) ≤ n := Nat.cast_nonneg n
  rw [integerPart, if_pos (by linarith), Int.floor_eq_iff]
  push_cast
  exact ⟨by linarith, by linarith⟩

/-- **A text is cut** at the first occurrence of the separator. -/
theorem cut?_append_cons {sep : Char} {before : List Char} (h : sep ∉ before) (after : List Char) :
    cut? sep (before ++ sep :: after) = some (before, after) := by
  induction before with
  | nil => exact if_pos rfl
  | cons c before ih =>
    rw [List.mem_cons, not_or] at h
    rw [List.cons_append, cut?, if_neg (Ne.symm h.1), ih h.2]
    rfl

theorem eq_append_of_cut?_eq_some {sep : Char} {before after : List Char}
    (h : cut? sep s = some (before, after)) : s = before ++ sep :: after := by
  induction s generalizing before with
  | nil => cases h
  | cons c s ih =>
    rw [cut?] at h
    split at h
    · rename_i hc
      cases h
      rw [hc, List.nil_append]
    · obtain ⟨⟨before', after'⟩, hcut, hpair⟩ := Option.map_eq_some_iff.1 h
      cases hpair
      rw [ih hcut, List.cons_append]

/-- A point is no digit. -/
theorem IsNumeral.point_not_mem (hs : IsNumeral s) : '.' ∉ s := fun h =>
  absurd (hs.2 '.' h) (by decide)

theorem IsNumeral.append_ne_minus_cons (hs : IsNumeral s) (t u : List Char) :
    s ++ t ≠ '-' :: u := by
  obtain ⟨c, s, rfl⟩ := List.exists_cons_of_ne_nil hs.1
  rintro heq
  obtain rfl : c = '-' := (List.cons.inj heq).1
  exact hs.head?_ne.1 rfl

/-- A decimal number in text is one number. -/
theorem SpellsDecimal.unique {x y : ℚ} (hx : SpellsDecimal s x) (hy : SpellsDecimal s y) :
    x = y := by
  have hcut : ∀ {w f w' f'}, IsNumeral w → IsNumeral w' → w ++ '.' :: f = w' ++ '.' :: f' →
      w = w' ∧ f = f' := by
    intro w f w' f' hw hw' heq
    have hpair := cut?_append_cons hw'.point_not_mem f'
    rw [← heq, cut?_append_cons hw.point_not_mem] at hpair
    cases hpair
    exact ⟨rfl, rfl⟩
  generalize heq : s = s' at hy
  cases hx with
  | bare hw =>
    cases hy with
    | bare hw' =>
      obtain ⟨rfl, rfl⟩ := hcut hw hw' heq
      rfl
    | minus => exact absurd heq (hw.append_ne_minus_cons _ _)
  | minus hw =>
    cases hy with
    | bare hw' => exact absurd heq.symm (hw'.append_ne_minus_cons _ _)
    | minus hw' =>
      obtain ⟨rfl, rfl⟩ := hcut hw hw' (List.cons.inj heq).2
      rfl

/-- A point is in every decimal number and in no whole one. -/
theorem SpellsInteger.not_spellsDecimal {i : Int} (h : SpellsInteger s i) (x : ℚ) :
    ¬ SpellsDecimal s x := by
  intro hdecimal
  have hpoint : '.' ∈ s := by cases hdecimal <;> simp
  have hother := h.forall_mem '.' hpoint
  revert hother
  decide

/-- A number in text is one number. -/
theorem SpellsNumber.unique {x y : ℚ} (hx : SpellsNumber s x) (hy : SpellsNumber s y) : x = y := by
  cases hx with
  | integer hx =>
    cases hy with
    | integer hy => rw [hx.unique hy]
    | decimal hy => exact absurd hy (hx.not_spellsDecimal _)
  | decimal hx =>
    cases hy with
    | integer hy => exact absurd hx (hy.not_spellsDecimal _)
    | decimal hy => exact hx.unique hy

end Text

namespace Timestamp

open Text

variable {s whole : List Char} {t : Timestamp} {x : ℚ}

/-! ## Whole milliseconds and others -/

/-- **A number of milliseconds that fits** is that instant. -/
theorem ofInt?_eq_some_iff {n : Int} : Millis.ofInt? n = some t ↔ t.ms = n := by
  have hlower := t.lower
  have hupper := t.upper
  rw [Millis.ofInt?, Option.dite_none_right_eq_some]
  constructor
  · rintro ⟨h, heq⟩
    rw [← Option.some.inj heq]
  · rintro rfl
    exact ⟨⟨hlower, hupper⟩, rfl⟩

/-- **Whole milliseconds are read if they fit**, and nothing else is. -/
theorem ofIntegerText?_eq_some_iff : ofIntegerText? s = some t ↔ SpellsInteger s t.ms := by
  have hlower := t.lower
  have hupper := t.upper
  rw [ofIntegerText?, Option.bind_eq_some_iff]
  constructor
  · rintro ⟨n, hread, hfit⟩
    rw [ofInt?_eq_some_iff.1 hfit]
    exact (readInt?_eq_some_iff.1 hread).1
  · intro h
    exact ⟨t.ms, readInt?_eq_some_iff.2 ⟨h, by omega, by omega⟩, ofInt?_eq_some_iff.2 rfl⟩

theorem ofIntegerText?_of_spellsInteger {n : Int} (h : SpellsInteger s n) :
    ofIntegerText? s = Millis.ofInt? n := by
  refine Option.ext fun t => ?_
  rw [ofIntegerText?_eq_some_iff, ofInt?_eq_some_iff]
  exact ⟨fun ht => ht.unique h, fun ht => ht ▸ h⟩

/-- A minus in front of a numeral is taken off. -/
theorem isNumeral_unsigned_iff :
    IsNumeral (if whole.head? = some '-' then whole.drop 1 else whole) ↔
      IsNumeral whole ∨ ∃ w, whole = '-' :: w ∧ IsNumeral w := by
  by_cases hminus : whole.head? = some '-'
  · have hsigned : ¬ IsNumeral whole := fun h => h.head?_ne.1 hminus
    cases whole with
    | nil => cases hminus
    | cons c w =>
      obtain rfl := Option.some.inj hminus
      simp [hsigned]
  · have hunsigned : ∀ w, whole ≠ '-' :: w := by
      rintro w rfl
      exact hminus rfl
    simp [hminus, hunsigned]

/-- **A decimal number is cut at its point.** -/
theorem wholePart?_eq_some_iff : wholePart? s = some whole ↔ ∃ fraction,
    s = whole ++ '.' :: fraction ∧ IsNumeral fraction ∧
      (IsNumeral whole ∨ ∃ w, whole = '-' :: w ∧ IsNumeral w) := by
  have hnumeral : ∀ t : List Char, (!t.isEmpty && t.all isDigit) = true ↔ IsNumeral t := by
    intro t
    simp [IsNumeral]
  rw [← isNumeral_unsigned_iff, wholePart?]
  constructor
  · intro h
    obtain ⟨⟨before, after⟩, hcut, h⟩ := Option.bind_eq_some_iff.1 h
    obtain ⟨hdigits, hwhole⟩ := Option.ite_none_right_eq_some.1 h
    cases hwhole
    rw [Bool.and_assoc, Bool.and_eq_true, hnumeral, hnumeral] at hdigits
    exact ⟨after, eq_append_of_cut?_eq_some hcut, hdigits.2, hdigits.1⟩
  · rintro ⟨f, rfl, hf, hw⟩
    have hpoint : '.' ∉ whole := by
      rcases isNumeral_unsigned_iff.1 hw with hw | ⟨w, rfl, hw⟩
      · exact hw.point_not_mem
      · simpa using hw.point_not_mem
    rw [cut?_append_cons hpoint]
    refine if_pos ?_
    rw [Bool.and_assoc, Bool.and_eq_true, hnumeral, hnumeral]
    exact ⟨hw, hf⟩

/-- **The part in front of the point** is the integer part of the number. -/
theorem exists_wholePart? (h : SpellsDecimal s x) :
    ∃ whole, wholePart? s = some whole ∧ SpellsInteger whole (integerPart x) := by
  cases h with
  | @bare w f hw hf =>
    refine ⟨w, wholePart?_eq_some_iff.2 ⟨f, rfl, hf, .inl hw⟩, ?_⟩
    rw [integerPart_add_fractionValue]
    exact .bare hw
  | @minus w f hw hf =>
    refine ⟨'-' :: w, wholePart?_eq_some_iff.2 ⟨f, rfl, hf, .inr ⟨w, rfl, hw⟩⟩, ?_⟩
    rw [integerPart_neg, integerPart_add_fractionValue]
    exact .minus hw

theorem exists_spellsDecimal (h : wholePart? s = some whole) : ∃ x, SpellsDecimal s x := by
  obtain ⟨f, rfl, hf, hw | ⟨w, rfl, hw⟩⟩ := wholePart?_eq_some_iff.1 h
  · exact ⟨_, .bare hw hf⟩
  · exact ⟨_, .minus hw hf⟩

/-! ## Numbers come first -/

/-- **A whole number that fits is its instant.** -/
theorem parseTrimmed_of_spellsInteger (h : SpellsInteger s t.ms) : parseTrimmed s = .ok t := by
  rw [parseTrimmed, List.isEmpty_eq_false_iff.2 h.ne_nil, ofIntegerText?_eq_some_iff.2 h]
  rfl

/-- A number of milliseconds as an instant, or a fault if it takes more than 64 bits. -/
def within (n : Int) (fault : TimestampFault) : Except TimestampFault Timestamp :=
  (Millis.ofInt? n).elim (.error fault) .ok

theorem within_eq_ok {n : Int} {fault : TimestampFault} : within n fault = .ok t ↔ t.ms = n := by
  rw [← ofInt?_eq_some_iff, within]
  cases Millis.ofInt? n <;> simp

theorem within_eq_error {n : Int} (fault : TimestampFault) (h : ∀ t : Timestamp, t.ms ≠ n) :
    within n fault = .error fault := by
  have hnone : Millis.ofInt? n = none :=
    Option.eq_none_iff_forall_ne_some.2 fun t ht => h t (ofInt?_eq_some_iff.1 ht)
  rw [within, hnone]
  rfl

/-- **A decimal number is its integer part**, or out of range. -/
theorem parseTrimmed_of_spellsDecimal (h : SpellsDecimal s x) :
    parseTrimmed s = within (integerPart x) (.outOfRange (String.ofList s)) := by
  obtain ⟨whole, hwhole, hinteger⟩ := exists_wholePart? h
  have hnone : ofIntegerText? s = none := Option.eq_none_iff_forall_ne_some.2 fun t ht =>
    (ofIntegerText?_eq_some_iff.1 ht).not_spellsDecimal x h
  have hne : s.isEmpty = false := by
    rw [List.isEmpty_eq_false_iff]
    rintro rfl
    cases hwhole
  rw [parseTrimmed, hne, hnone, hwhole, within, ← ofIntegerText?_of_spellsInteger hinteger]
  cases hread : ofIntegerText? whole <;> simp [hread]

/-- What is neither a whole number that fits nor a decimal one is left to the reader of
date-times. -/
theorem parseTrimmed_eq_dateTime (hs : s ≠ [])
    (hinteger : ∀ t : Timestamp, ¬ SpellsInteger s t.ms) (hdecimal : ∀ x, ¬ SpellsDecimal s x) :
    parseTrimmed s = match (DateTime.parse? s).bind Millis.ofInt? with
      | some t => .ok t
      | none => .error (.malformed (String.ofList s)) := by
  have hnone : ofIntegerText? s = none := Option.eq_none_iff_forall_ne_some.2 fun t ht =>
    hinteger t (ofIntegerText?_eq_some_iff.1 ht)
  have hcut : wholePart? s = none := Option.eq_none_iff_forall_ne_some.2 fun whole hwhole => by
    obtain ⟨x, hx⟩ := exists_spellsDecimal hwhole
    exact hdecimal x hx
  rw [parseTrimmed, List.isEmpty_eq_false_iff.2 hs, hnone, hcut]
  rfl

/-- **What is no number is read as a date-time** or not at all. -/
theorem parseTrimmed_of_not_number (hs : s ≠ []) (h : ∀ x, ¬ SpellsNumber s x) :
    parseTrimmed s = match (DateTime.parse? s).bind Millis.ofInt? with
      | some t => .ok t
      | none => .error (.malformed (String.ofList s)) :=
  parseTrimmed_eq_dateTime hs (fun t ht => h t.ms (.integer ht)) fun x hx => h x (.decimal hx)

end Timestamp

end FlowParity
