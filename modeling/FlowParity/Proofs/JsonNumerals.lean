import FlowParity.Document.JsonReading
import FlowParity.Proofs.AddressReading
/-!
# JSON numerals

A number in a JSON text ends where no character comes that it may go on with (`goesOn`). Up to
there it is read the same whatever follows (`numeral?_append`), and an integer of 64 bits, which is
written by its digits and a sign, is read back (`numeral?_integer`, `toDocument_integer`).
-/

namespace FlowParity

open Text Address

namespace Document.Json

variable {s t rest : List Char} {n : Numeral}

/-! ## Numbers -/

/-- A character that a number may go on with. -/
def goesOn (c : Char) : Bool :=
  isDigit c || c = '.' || c = 'e' || c = 'E'

theorem stops_isDigit (h : Stops goesOn rest) : Stops isDigit rest := by
  intro c hc
  have hgoes := h c hc
  simp only [goesOn, Bool.or_eq_false_iff] at hgoes
  exact hgoes.1.1.1

/-- Whether a text starts with a minus sign, and what comes after it. -/
def sign : List Char → Bool × List Char
  | '-' :: rest => (true, rest)
  | rest => (false, rest)

/-- The digits after a point, if there is one, and the rest. -/
def fraction? : List Char → Option (List Char × List Char)
  | '.' :: rest => someDigits? rest
  | rest => some ([], rest)

/-- Whether an exponent starts with a minus sign, and what comes after its sign. -/
def exponentSign : List Char → Bool × List Char
  | '-' :: rest => (true, rest)
  | '+' :: rest => (false, rest)
  | rest => (false, rest)

/-- The reader of exponents, part by part. -/
theorem exponent?_cons (c : Char) (s : List Char) :
    exponent? (c :: s) =
      if c = 'e' ∨ c = 'E' then
        (someDigits? (exponentSign s).2).map fun (digits, t) =>
          (some ((exponentSign s).1, digits), t)
      else some (none, c :: s) := by
  simp only [exponent?.eq_def, Bool.or_eq_true, decide_eq_true_eq]
  split
  · split
    · rfl
    · rfl
    · rename_i hminus hplus
      rw [exponentSign]
      · exact hminus
      · exact hplus
  · rfl

/-- The reader of numbers, part by part. -/
theorem numeral?_eq (s : List Char) :
    numeral? s = (someDigits? (sign s).2).bind fun whole =>
      if whole.1.head? = some '0' ∧ 1 < whole.1.length then none
      else (fraction? whole.2).bind fun fraction => (exponent? fraction.2).map fun exponent =>
        (⟨(sign s).1, whole.1, fraction.1, exponent.1⟩, exponent.2) := by
  unfold numeral?
  split
  rename_i negative t hsign
  have hs : sign s = (negative, t) := by
    split at hsign
    · exact hsign
    · rename_i hminus
      rw [sign, hsign]
      exact hminus
  rw [hs]
  refine Option.bind_congr fun whole _ => ?_
  obtain ⟨whole, t⟩ := whole
  simp only [Bool.and_eq_true, decide_eq_true_eq]
  split
  · rfl
  · unfold fraction?
    split <;> simp only [Option.map_eq_bind, Function.comp_def] <;> rfl

theorem sign_append (hs : s ≠ []) : sign (s ++ rest) = ((sign s).1, (sign s).2 ++ rest) := by
  obtain ⟨c, s, rfl⟩ := List.exists_cons_of_ne_nil hs
  by_cases hc : c = '-'
  · subst hc
    rfl
  · simp [sign, hc]

theorem exponentSign_append (hs : s ≠ []) :
    exponentSign (s ++ rest) = ((exponentSign s).1, (exponentSign s).2 ++ rest) := by
  obtain ⟨c, s, rfl⟩ := List.exists_cons_of_ne_nil hs
  by_cases hminus : c = '-'
  · subst hminus
    rfl
  · by_cases hplus : c = '+'
    · subst hplus
      rfl
    · simp [exponentSign, hminus, hplus]

theorem takeWhile_isDigit_append (hrest : Stops isDigit rest) :
    (s ++ rest).takeWhile isDigit = s.takeWhile isDigit ∧
      (s ++ rest).dropWhile isDigit = s.dropWhile isDigit ++ rest := by
  induction s with
  | nil => exact ⟨takeWhile_append_of_stops (s := []) (by simp) hrest,
      dropWhile_append_of_stops (s := []) (by simp) hrest⟩
  | cons c s ih => cases hc : isDigit c <;> simp [hc, ih]

theorem someDigits?_append (hrest : Stops isDigit rest) :
    someDigits? (s ++ rest) = (someDigits? s).map fun (digits, t) => (digits, t ++ rest) := by
  obtain ⟨htake, hdrop⟩ := takeWhile_isDigit_append (s := s) hrest
  simp only [someDigits?, htake, hdrop]
  split <;> rfl

theorem fraction?_of_stops (hrest : Stops goesOn rest) : fraction? rest = some ([], rest) := by
  rw [fraction?]
  rintro t rfl
  exact absurd (hrest '.' rfl) (by decide)

theorem fraction?_append (hrest : Stops goesOn rest) :
    fraction? (s ++ rest) = (fraction? s).map fun (digits, t) => (digits, t ++ rest) := by
  cases s with
  | nil => exact fraction?_of_stops hrest
  | cons c s =>
    by_cases hc : c = '.'
    · subst hc
      exact someDigits?_append (stops_isDigit hrest)
    · simp [fraction?, hc]

theorem exponent?_of_stops (hrest : Stops goesOn rest) : exponent? rest = some (none, rest) := by
  cases rest with
  | nil => rfl
  | cons c rest =>
    have hgoes := hrest c rfl
    simp only [goesOn, Bool.or_eq_false_iff, decide_eq_false_iff_not] at hgoes
    rw [exponent?_cons, if_neg (not_or.2 ⟨hgoes.1.2, hgoes.2⟩)]

/-- An exponent that is read has digits, so its sign is found in front of a rest, too. -/
theorem exponent?_append (hrest : Stops goesOn rest) {e : Option (Bool × List Char)}
    (h : exponent? s = some (e, t)) : exponent? (s ++ rest) = some (e, t ++ rest) := by
  cases s with
  | nil =>
    cases h
    exact exponent?_of_stops hrest
  | cons c s =>
    rw [exponent?_cons] at h
    rw [List.cons_append, exponent?_cons]
    split at h
    · rename_i hc
      have hs : s ≠ [] := by
        rintro rfl
        cases h
      obtain ⟨⟨digits, t'⟩, hdigits, h⟩ := Option.map_eq_some_iff.1 h
      cases h
      rw [if_pos hc, exponentSign_append hs, someDigits?_append (stops_isDigit hrest), hdigits]
      rfl
    · rename_i hc
      cases h
      rw [if_neg hc]
      rfl

/-- **A number is the same in front of a text that does not go on with it.** -/
theorem numeral?_append (hrest : Stops goesOn rest) (h : numeral? s = some (n, t)) :
    numeral? (s ++ rest) = some (n, t ++ rest) := by
  have hs : s ≠ [] := by
    rintro rfl
    cases h
  rw [numeral?_eq] at h
  obtain ⟨⟨whole, t₁⟩, hwhole, h⟩ := Option.bind_eq_some_iff.1 h
  obtain ⟨hzero, h⟩ := Option.ite_none_left_eq_some.1 h
  obtain ⟨⟨fraction, t₂⟩, hfraction, h⟩ := Option.bind_eq_some_iff.1 h
  obtain ⟨⟨exponent, t₃⟩, hexponent, h⟩ := Option.map_eq_some_iff.1 h
  cases h
  rw [numeral?_eq, sign_append hs, someDigits?_append (stops_isDigit hrest), hwhole]
  simp only [Option.map_some, Option.bind_some, if_neg hzero, fraction?_append hrest, hfraction,
    exponent?_append hrest hexponent]

/-! ## Integers -/

theorem someDigits?_toDigits (m : Nat) (hrest : Stops isDigit rest) :
    someDigits? (Nat.toDigits 10 m ++ rest) = some (Nat.toDigits 10 m, rest) := by
  have hdigits : ∀ c ∈ Nat.toDigits 10 m, isDigit c = true := fun _ => isDigit_of_mem_toDigits
  rw [someDigits?, takeWhile_append_of_stops hdigits hrest,
    dropWhile_append_of_stops hdigits hrest]
  simp

theorem sign_toDigits (m : Nat) : sign (Nat.toDigits 10 m) = (false, Nat.toDigits 10 m) := by
  obtain ⟨d, hd, rest, hdigits⟩ := exists_toDigits_eq_cons m
  rw [hdigits, sign]
  intro t ht
  exact (digitChar_ne_sign d hd).2 (List.cons.inj ht).1

/-- A whole number is read back, with its sign. -/
theorem numeral?_of_sign {negative : Bool} {m : Nat}
    (hs : sign s = (negative, Nat.toDigits 10 m)) (hne : s ≠ []) (hrest : Stops goesOn rest) :
    numeral? (s ++ rest) = some (⟨negative, Nat.toDigits 10 m, [], none⟩, rest) := by
  have hzero : ¬ ((Nat.toDigits 10 m).head? = some '0' ∧ 1 < (Nat.toDigits 10 m).length) :=
    fun h => absurd (length_toDigits_le_one h.1) (Nat.not_le.2 h.2)
  rw [numeral?_eq, sign_append hne, hs, someDigits?_toDigits m (stops_isDigit hrest)]
  simp only [Option.bind_some, if_neg hzero, fraction?_of_stops hrest, exponent?_of_stops hrest,
    Option.map_some]

theorem numeral?_integer (i : Int) (hrest : Stops goesOn rest) :
    numeral? ((toString i).toList ++ rest) =
      some (⟨decide (i < 0), Nat.toDigits 10 i.natAbs, [], none⟩, rest) := by
  rw [toList_toString_int]
  split
  · rename_i hneg
    rw [decide_eq_true hneg]
    exact numeral?_of_sign rfl (List.cons_ne_nil _ _) hrest
  · rename_i hpos
    rw [decide_eq_false hpos]
    exact numeral?_of_sign (sign_toDigits _) Nat.toDigits_ne_nil hrest

/-- An integer of at most 64 bits stands for itself. -/
theorem toDocument_integer {i : Int} (hlower : -9223372036854775808 ≤ i)
    (hupper : i ≤ 18446744073709551615) :
    Numeral.toDocument ⟨decide (i < 0), Nat.toDigits 10 i.natAbs, [], none⟩ = integer i := by
  simp only [Numeral.toDocument, digitsValue_toDigits, maxSignificand, List.isEmpty_nil,
    Bool.not_true, Option.isSome_none, Bool.or_false, Bool.false_eq_true, if_false,
    decide_eq_true_eq, Bool.or_eq_true]
  by_cases hneg : i < 0
  · have habs : -(i.natAbs : Int) = i := by omega
    rw [if_pos hneg, if_neg (by omega), habs]
  · have habs : (i.natAbs : Int) = i := by omega
    rw [if_neg hneg, if_neg (by omega), habs]

end Document.Json

end FlowParity
