import FlowParity.Text.Integer
import FlowParity.Time.Timestamp
import Mathlib.Algebra.GroupWithZero.Nat
/-!
# Numerals

What is written in decimal is read back. A numeral is built from its last digit on, so each fact
about it is one about its digits (`Nat.base_induction`): what they are, what stands first, and what
they are worth. A reader that keeps to a limit never meets it, as long as the number itself does.
-/

namespace FlowParity

namespace Text

variable {b n limit : Nat} {c : Char} {s t : List Char}

/-! ## The digits of a number -/

theorem digit?_digitChar : ∀ d < 10, digit? (Nat.digitChar d) = some d := by
  decide

theorem hexDigit?_digitChar : ∀ d < 16, hexDigit? (Nat.digitChar d) = some d := by
  decide

theorem exists_of_mem_toDigits (hb : 1 < b) (hc : c ∈ Nat.toDigits b n) :
    ∃ d < b, c = Nat.digitChar d := by
  induction n using Nat.base_induction b hb with
  | single m hm =>
    rw [Nat.toDigits_of_lt_base hm, List.mem_singleton] at hc
    exact ⟨m, hm, hc⟩
  | digit m k hk hm ih =>
    rw [← Nat.toDigits_append_toDigits hb hm hk, List.mem_append,
      Nat.toDigits_of_lt_base hk, List.mem_singleton] at hc
    rcases hc with hc | hc
    · exact ih hc
    · exact ⟨k, hk, hc⟩

/-- No number but zero starts with a zero. -/
theorem exists_head?_toDigits (hb : 1 < b) (hn : 0 < n) :
    ∃ d, 0 < d ∧ d < b ∧ (Nat.toDigits b n).head? = some (Nat.digitChar d) := by
  induction n using Nat.base_induction b hb with
  | single m hm => exact ⟨m, hn, hm, by rw [Nat.toDigits_of_lt_base hm]; rfl⟩
  | digit m k hk hm ih =>
    obtain ⟨d, hd, hdb, hhead⟩ := ih hm
    refine ⟨d, hd, hdb, ?_⟩
    rw [← Nat.toDigits_append_toDigits hb hm hk, List.head?_append, hhead]
    rfl

/-- The digits are worth the number, by whatever reader knows each of them. -/
theorem foldl_toDigits (hb : 1 < b) {value : Char → Nat}
    (hvalue : ∀ d < b, value (Nat.digitChar d) = d) (n : Nat) :
    (Nat.toDigits b n).foldl (fun acc c => b * acc + value c) 0 = n := by
  induction n using Nat.base_induction b hb with
  | single m hm => simp [Nat.toDigits_of_lt_base hm, hvalue m hm]
  | digit m k hk hm ih =>
    rw [← Nat.toDigits_append_toDigits hb hm hk, List.foldl_append, ih,
      Nat.toDigits_of_lt_base hk, List.foldl_cons, List.foldl_nil, hvalue k hk]

theorem digitsValue_toDigits (n : Nat) : digitsValue (Nat.toDigits 10 n) = n :=
  foldl_toDigits (by decide) (fun d hd => by rw [digit?_digitChar d hd]; rfl) n

theorem toList_toString (n : Nat) : (toString n).toList = Nat.toDigits 10 n := by
  simp

theorem toList_toString_int (i : Int) :
    (toString i).toList =
      if i < 0 then '-' :: Nat.toDigits 10 i.natAbs else Nat.toDigits 10 i.natAbs := by
  rw [Int.toString_eq_repr]
  cases i with
  | ofNat n => simp [Int.repr]
  | negSucc n => simp [Int.repr]

/-- A numeral that starts with a zero is no longer than that. -/
theorem length_toDigits_le_one (h : (Nat.toDigits 10 n).head? = some '0') :
    (Nat.toDigits 10 n).length ≤ 1 := by
  have hdigit : ∀ d < 10, 0 < d → Nat.digitChar d ≠ '0' := by decide
  rcases Nat.eq_zero_or_pos n with rfl | hpos
  · simp
  · obtain ⟨d, hd, hd', hfirst⟩ := exists_head?_toDigits (b := 10) (by decide) hpos
    rw [hfirst, Option.some.injEq] at h
    exact absurd h (hdigit d hd' hd)

/-! ## Leading zeros -/

theorem toList_padded {w : Nat} :
    (padded w n).toList =
      List.replicate (w - (Nat.toDigits 10 n).length) '0' ++ Nat.toDigits 10 n := by
  simp [padded, ← String.length_toList]

/-- Zeros in front do not count. -/
theorem digitsValue_replicate_append (k : Nat) :
    digitsValue (List.replicate k '0' ++ s) = digitsValue s := by
  have hzero : digitsValue (List.replicate k '0') = 0 := by
    induction k with
    | zero => rfl
    | succ k ih => exact ih
  rw [digitsValue] at hzero
  rw [digitsValue, List.foldl_append, hzero, digitsValue]

theorem digitsValue_padded {w : Nat} : digitsValue (padded w n).toList = n := by
  rw [toList_padded, digitsValue_replicate_append, digitsValue_toDigits]

/-- A number with leading zeros has the wanted width, if it is not too large for it. -/
theorem length_padded {w : Nat} (hw : 0 < w) (hn : n < 10 ^ w) :
    (padded w n).toList.length = w := by
  have hlength : (Nat.toDigits 10 n).length ≤ w :=
    (Nat.length_toDigits_le_iff (by decide) hw).2 hn
  rw [toList_padded, List.length_append, List.length_replicate]
  omega

/-- A field of fixed width can be told from the front of a text. -/
theorem padded_append_inj {w m : Nat} (hw : 0 < w) (hm : m < 10 ^ w) (hn : n < 10 ^ w) :
    (padded w m).toList ++ s = (padded w n).toList ++ t ↔ m = n ∧ s = t := by
  constructor
  · intro h
    have hlength : (padded w m).toList.length = (padded w n).toList.length := by
      rw [length_padded hw hm, length_padded hw hn]
    obtain ⟨hfield, hrest⟩ := List.append_inj h hlength
    refine ⟨?_, hrest⟩
    rw [← digitsValue_padded (n := m) (w := w), hfield, digitsValue_padded]
  · rintro ⟨rfl, rfl⟩
    rfl

/-! ## Reading within a limit -/

theorem readDigits_append {acc : Nat} :
    readDigits limit acc (s ++ t) =
      (readDigits limit acc s).bind fun next => readDigits limit next t := by
  induction s generalizing acc with
  | nil => rfl
  | cons c s ih =>
    rw [List.cons_append, readDigits, readDigits]
    cases digit? c with
    | none => rfl
    | some d =>
      simp only
      split
      · exact ih
      · rfl

theorem readDigits_toDigits (hn : n ≤ limit) :
    readDigits limit 0 (Nat.toDigits 10 n) = .ok n := by
  induction n using Nat.base_induction 10 (by decide) with
  | single m hm => simp [Nat.toDigits_of_lt_base hm, readDigits, digit?_digitChar m hm, hn]
  | digit m k hk hm ih =>
    -- what stands before the last digit is smaller still, so it is within the limit
    rw [← Nat.toDigits_append_toDigits (by decide) hm hk, readDigits_append, ih (by omega),
      Nat.toDigits_of_lt_base hk]
    simp [Except.bind, readDigits, digit?_digitChar k hk, hn]

/-- A numeral starts with a digit, so it has no sign. -/
theorem exists_toDigits_eq_cons (n : Nat) :
    ∃ d < 10, ∃ rest, Nat.toDigits 10 n = Nat.digitChar d :: rest := by
  cases hdigits : Nat.toDigits 10 n with
  | nil => exact absurd hdigits Nat.toDigits_ne_nil
  | cons c rest =>
    obtain ⟨d, hd, rfl⟩ := exists_of_mem_toDigits (by decide) (hdigits ▸ List.mem_cons_self)
    exact ⟨d, hd, rest, rfl⟩

theorem digitChar_ne_sign : ∀ d < 10, Nat.digitChar d ≠ '+' ∧ Nat.digitChar d ≠ '-' := by
  decide

theorem readNat_of_head?_ne (hs : s ≠ []) (hplus : s.head? ≠ some '+') :
    readNat limit s = readDigits limit 0 s := by
  unfold readNat
  split
  · exact absurd rfl hs
  · exact absurd rfl hplus
  · exact absurd rfl hplus
  · rfl

theorem readInt?_of_head?_ne {negLimit : Nat} (hs : s ≠ []) (hminus : s.head? ≠ some '-') :
    readInt? negLimit limit s = (readNat limit s).toOption.map Int.ofNat := by
  unfold readInt?
  split
  · exact absurd rfl hs
  · exact absurd rfl hminus
  · exact absurd rfl hminus
  · rfl

theorem readInt?_minus {negLimit : Nat} (hs : s ≠ []) :
    readInt? negLimit limit ('-' :: s) =
      (readDigits negLimit 0 s).toOption.map fun n : Nat => -(n : Int) := by
  rw [readInt?]
  · cases readDigits negLimit 0 s <;> rfl
  · exact hs

/-- **A number within the limit is read back.** -/
theorem readNat_toDigits (hn : n ≤ limit) : readNat limit (Nat.toDigits 10 n) = .ok n := by
  obtain ⟨d, hd, rest, hdigits⟩ := exists_toDigits_eq_cons n
  rw [readNat_of_head?_ne Nat.toDigits_ne_nil, readDigits_toDigits hn]
  rw [hdigits, List.head?_cons, ne_eq, Option.some.injEq]
  exact (digitChar_ne_sign d hd).1

end Text

open Text

/-! ## Instants -/

theorem Millis.toList_toText (a : Millis) :
    a.toText.toList =
      if a.ms < 0 then '-' :: Nat.toDigits 10 a.ms.natAbs else Nat.toDigits 10 a.ms.natAbs := by
  rw [Millis.toText, toList_toString_int]

/-- Whole milliseconds are read back, from the least to the largest. -/
theorem Timestamp.ofIntegerText?_toText (t : Timestamp) :
    ofIntegerText? t.toText.toList = some t := by
  have hlower := t.lower
  have hupper := t.upper
  have hfit : Millis.ofInt? t.ms = some t := dif_pos ⟨hlower, hupper⟩
  rw [ofIntegerText?, Millis.toList_toText]
  split
  · have habs : -(t.ms.natAbs : Int) = t.ms := by omega
    rw [readInt?_minus Nat.toDigits_ne_nil, readDigits_toDigits (by omega)]
    simpa only [Except.toOption, Option.map_some, Option.bind_some, habs] using hfit
  · have habs : Int.ofNat t.ms.natAbs = t.ms := Int.natAbs_of_nonneg (by omega)
    obtain ⟨d, hd, rest, hdigits⟩ := exists_toDigits_eq_cons t.ms.natAbs
    rw [readInt?_of_head?_ne Nat.toDigits_ne_nil, readNat_toDigits (by omega)]
    · simpa only [Except.toOption, Option.map_some, Option.bind_some, habs] using hfit
    · rw [hdigits, List.head?_cons, ne_eq, Option.some.injEq]
      exact (digitChar_ne_sign d hd).2

/-- **An instant is read back from its milliseconds.** -/
theorem Timestamp.parseTrimmed_toText (t : Timestamp) :
    parseTrimmed t.toText.toList = .ok t := by
  have hne : t.toText.toList.isEmpty = false := by
    rw [Millis.toList_toText]
    split <;> simp
  rw [parseTrimmed, hne, ofIntegerText?_toText]
  rfl

end FlowParity
