import FlowParity.Proofs.DateTimeTexts
/-!
# The instants of texts

Three grammars are tried on a text in turn: a whole number of milliseconds, a decimal one, a
date-time. No text belongs to two of them, so what a text is read as follows from the one that it
belongs to (`Classified`): a number is its integer part, toward zero, and a date-time is rounded
down. A number past 64 bits is out of range if it has a point, and malformed if it has none. The two
ways to drop a fraction differ before the epoch, and there alone the spelling of an instant counts
(`ms_of_parse`).
-/

namespace FlowParity

namespace Timestamp

open DateTime Text

variable {s : List Char} {text : String} {t : Timestamp} {n : Int} {x : ℚ}

/-! ## What a text is read as -/

/-- A colon is in every date-time and in no number. -/
theorem not_spellsNumber_of_spellsDateTime (h : SpellsDateTime s x) (y : ℚ) : ¬ SpellsNumber s y :=
  not_spellsNumber_of_mem h.colon_mem rfl y

/-- **What a text without blanks around it is read as**, by the grammar that it belongs to. -/
structure Classified (s : List Char) (result : Except TimestampFault Timestamp) : Prop where
  /-- Only no text at all is empty. -/
  empty : result = .error .empty ↔ s = []
  /-- A whole number is itself if it fits, and malformed otherwise. -/
  whole : ∀ n, SpellsInteger s n → result = within n (.malformed (String.ofList s))
  /-- A decimal number is its integer part if that fits, and out of range otherwise. -/
  decimal : ∀ x, SpellsDecimal s x →
    result = within (integerPart x) (.outOfRange (String.ofList s))
  /-- A date-time is its instant, rounded down to the millisecond; it always fits. -/
  dateTime : ∀ x, SpellsDateTime s x → ∃ t, t.ms = ⌊x⌋ ∧ result = .ok t
  /-- Any other text is malformed. -/
  other : s ≠ [] → (∀ x, ¬ SpellsNumber s x) → (∀ x, ¬ SpellsDateTime s x) →
    result = .error (.malformed (String.ofList s))

/-- **A whole number is itself**, or malformed: no other grammar takes it up. -/
theorem parseTrimmed_eq_within (h : SpellsInteger s n) :
    parseTrimmed s = within n (.malformed (String.ofList s)) := by
  by_cases hfit : ∃ t : Timestamp, t.ms = n
  · obtain ⟨t, rfl⟩ := hfit
    rw [within_eq_ok.2 rfl, parseTrimmed_of_spellsInteger h]
  · have hnone : ∀ t : Timestamp, ¬ SpellsInteger s t.ms := fun t ht => hfit ⟨t, ht.unique h⟩
    have hdateTime : ¬ ∃ x, SpellsDateTime s x := fun ⟨x, hx⟩ =>
      not_spellsNumber_of_spellsDateTime hx n (.integer h)
    rw [parseTrimmed_eq_dateTime h.ne_nil hnone h.not_spellsDecimal,
      parse?_eq_none_iff.2 hdateTime, within_eq_error _ (not_exists.1 hfit)]
    rfl

/-- **A date-time is rounded down.** -/
theorem exists_parseTrimmed_eq_ok (h : SpellsDateTime s x) :
    ∃ t, t.ms = ⌊x⌋ ∧ parseTrimmed s = .ok t := by
  obtain ⟨t, ht⟩ := h.exists_ms_eq
  refine ⟨t, ht, ?_⟩
  rw [parseTrimmed_of_not_number (List.ne_nil_of_mem h.colon_mem)
    (not_spellsNumber_of_spellsDateTime h), h.parse?_eq_some, Option.bind_some,
    ofInt?_eq_some_iff.2 ht]

/-- Only no text at all is empty. -/
theorem parseTrimmed_eq_empty_iff : parseTrimmed s = .error .empty ↔ s = [] := by
  constructor
  · intro h
    rw [parseTrimmed] at h
    split at h
    · exact List.isEmpty_iff.1 ‹_›
    · repeat' split at h
      all_goals cases h
  · rintro rfl
    rfl

/-- **Every text is classified.** Blanks around it aside, no text is empty only if nothing is left,
a number is its integer part, a date-time its instant, and the rest is malformed. A number whose
integer part does not fit is out of range if it is decimal, and malformed if it is whole. -/
theorem parse_classified (text : String) : Classified (trim text.toList) (parse text) where
  empty := parseTrimmed_eq_empty_iff
  whole _ h := parseTrimmed_eq_within h
  decimal _ h := parseTrimmed_of_spellsDecimal h
  dateTime _ h := exists_parseTrimmed_eq_ok h
  other hs hnumber hdateTime := by
    rw [parse, parseTrimmed_of_not_number hs hnumber,
      parse?_eq_none_iff.2 (not_exists.2 hdateTime)]
    rfl

/-- **A whole number past 64 bits is malformed**, where a decimal one is out of range. -/
theorem exists_whole_parse_malformed : ∃ (text : String) (n : Int),
    SpellsInteger (trim text.toList) n ∧ 9223372036854775807 < n ∧
      parse text = .error (.malformed text) ∧ parse text ≠ .error (.outOfRange text) ∧
      parse (text ++ ".0") = .error (.outOfRange (text ++ ".0")) := by
  refine ⟨"9223372036854775808", 9223372036854775808, .bare (by decide), by decide, by decide,
    by decide, by decide⟩

/-! ## The spelling of an instant -/

/-- **What a text denotes**, in milliseconds since the epoch and to the last digit. -/
def Denotes (s : List Char) (x : ℚ) : Prop := SpellsNumber s x ∨ SpellsDateTime s x

/-- **A text denotes one instant at most.** -/
theorem Denotes.unique {y : ℚ} (hx : Denotes s x) (hy : Denotes s y) : x = y := by
  rcases hx with hx | hx <;> rcases hy with hy | hy
  · exact hx.unique hy
  · exact absurd hx (not_spellsNumber_of_spellsDateTime hy x)
  · exact absurd hy (not_spellsNumber_of_spellsDateTime hx y)
  · exact hx.unique hy

/-- **A number that is read as the millisecond after its instant**: it lies before the epoch, and
is no whole millisecond. -/
def RoundsUp (s : List Char) (x : ℚ) : Prop := SpellsNumber s x ∧ x < 0 ∧ (⌊x⌋ : ℚ) ≠ x

theorem integerPart_eq_floor (h : 0 ≤ x ∨ (⌊x⌋ : ℚ) = x) : integerPart x = ⌊x⌋ := by
  rw [integerPart]
  split
  · rfl
  · rename_i hneg
    rw [← h.resolve_left hneg, Int.ceil_intCast, Int.floor_intCast]

theorem integerPart_eq_floor_add_one (hneg : x < 0) (hfraction : (⌊x⌋ : ℚ) ≠ x) :
    integerPart x = ⌊x⌋ + 1 := by
  rw [integerPart, if_neg (not_le.2 hneg), Int.ceil_eq_floor_add_one_iff_notMem]
  rintro ⟨m, rfl⟩
  rw [Int.floor_intCast] at hfraction
  exact hfraction rfl

/-- **A number is its integer part**, toward zero. -/
theorem ms_of_spellsNumber (h : parseTrimmed s = .ok t) (hx : SpellsNumber s x) :
    t.ms = integerPart x := by
  cases hx with
  | integer hn =>
    rw [parseTrimmed_eq_within hn] at h
    rw [within_eq_ok.1 h, integerPart_eq_floor (.inr (by rw [Int.floor_intCast])),
      Int.floor_intCast]
  | decimal hx =>
    rw [parseTrimmed_of_spellsDecimal hx] at h
    exact within_eq_ok.1 h

theorem ms_of_spellsDateTime (h : parseTrimmed s = .ok t) (hx : SpellsDateTime s x) :
    t.ms = ⌊x⌋ := by
  obtain ⟨t', ht', hread⟩ := exists_parseTrimmed_eq_ok hx
  rw [h] at hread
  cases hread
  exact ht'

/-- **What is read is the instant that the text denotes, rounded down**, or the millisecond after
that for some numbers before the epoch. -/
theorem ms_of_parse (h : parseTrimmed s = .ok t) (hx : Denotes s x) :
    RoundsUp s x ∧ t.ms = ⌊x⌋ + 1 ∨ ¬ RoundsUp s x ∧ t.ms = ⌊x⌋ := by
  rcases hx with hx | hx
  · rw [ms_of_spellsNumber h hx]
    by_cases hup : x < 0 ∧ (⌊x⌋ : ℚ) ≠ x
    · exact .inl ⟨⟨hx, hup⟩, integerPart_eq_floor_add_one hup.1 hup.2⟩
    · refine .inr ⟨fun hr => hup hr.2, integerPart_eq_floor ?_⟩
      rwa [not_and_or, not_lt, not_not] at hup
  · have hnumber := not_spellsNumber_of_spellsDateTime hx x
    exact .inr ⟨fun hr => hnumber hr.1, ms_of_spellsDateTime h hx⟩

/-- What is accepted denotes an instant. -/
theorem existsUnique_denotes (h : parseTrimmed s = .ok t) : ∃! x, Denotes s x := by
  refine existsUnique_of_exists_of_unique ?_ fun _ _ => Denotes.unique
  by_cases hnumber : ∃ x, SpellsNumber s x
  · exact hnumber.imp fun _ => .inl
  by_cases hdateTime : ∃ x, SpellsDateTime s x
  · exact hdateTime.imp fun _ => .inr
  have hs : s ≠ [] := by
    rintro rfl
    cases h
  rw [parseTrimmed_of_not_number hs (not_exists.1 hnumber), parse?_eq_none_iff.2 hdateTime] at h
  cases h

/-- **Spellings of instants agree** but for numbers before the epoch. Every text that is accepted
denotes one instant. Two that denote the same one are read as the same millisecond unless one of
them is a number that rounds up and the other is not. Of two that denote different instants, the
earlier is not read as a later millisecond, except where it is a number that rounds up, and the
later one, in the same millisecond, is not. No two are ever out of order by more than one
millisecond. -/
theorem parse_spellings {text' : String} {t' : Timestamp} (h : parse text = .ok t)
    (h' : parse text' = .ok t') :
    (∃! x, Denotes (trim text.toList) x) ∧ ∀ x x', Denotes (trim text.toList) x →
      Denotes (trim text'.toList) x' →
        (x = x' → (t = t' ↔ (RoundsUp (trim text.toList) x ↔ RoundsUp (trim text'.toList) x'))) ∧
        (x < x' → (t ≤ t' ↔ ¬ (RoundsUp (trim text.toList) x ∧ ⌊x⌋ = ⌊x'⌋ ∧
          ¬ RoundsUp (trim text'.toList) x'))) ∧
        (x ≤ x' → t.ms ≤ t'.ms + 1) := by
  refine ⟨existsUnique_denotes h, fun x x' hx hx' => ?_⟩
  have hms := ms_of_parse h hx
  have hms' := ms_of_parse h' hx'
  have hext : t = t' ↔ t.ms = t'.ms := ⟨congrArg _, Millis.ext⟩
  rw [hext, Millis.le_def]
  refine ⟨?_, fun hlt => ?_, fun hle => ?_⟩
  · rintro rfl
    rcases hms with ⟨hup, hms⟩ | ⟨hup, hms⟩ <;> rcases hms' with ⟨hup', hms'⟩ | ⟨hup', hms'⟩ <;>
      simp [hup, hup', hms, hms']
  · have hfloor := Int.floor_mono hlt.le
    rcases hms with ⟨hup, hms⟩ | ⟨hup, hms⟩ <;> rcases hms' with ⟨hup', hms'⟩ | ⟨hup', hms'⟩ <;>
      simp only [hup, hup', true_and, and_true, false_and, and_false, not_true, not_false_eq_true,
        iff_true] <;> omega
  · have hfloor := Int.floor_mono hle
    omega

/-- One millisecond and a half before the epoch, as a number. -/
theorem denotes_early_number : Denotes (trim "-1.5".toList) (-(3 / 2)) := by
  have hvalue : fractionValue ['5'] = 5 / 10 := rfl
  have hspells := SpellsDecimal.minus (w := ['1']) (f := ['5']) (by decide) (by decide)
  rw [hvalue, show digitsValue ['1'] = 1 from rfl] at hspells
  norm_num at hspells
  exact .inl (.decimal hspells)

/-- The same instant as a date-time. -/
theorem denotes_early_dateTime : Denotes (trim "1969-12-31T23:59:59.9985Z".toList) (-(3 / 2)) := by
  have hyear : IsField 4 ['1', '9', '6', '9'] 1969 := by decide
  have hmonth : IsField 2 ['1', '2'] 12 := by decide
  have hday : IsField 2 ['3', '1'] 31 := by decide
  have hhour : IsField 2 ['2', '3'] 23 := by decide
  have hlast : IsField 2 ['5', '9'] 59 := by decide
  have hfraction := SpellsFraction.digits (s := ['9', '9', '8', '5']) (by decide)
  have hparts := SpellsDateTime.parts (.fields hyear hmonth hday (by decide)) (.inl rfl)
    (.fields hhour hlast hlast (by decide) hfraction) (.utc (.inl rfl))
  have hdays : (⟨(1969 : Nat), 12, 31⟩ : Calendar.Date).toDay = -1 := by decide
  have hvalue : fractionValue ['9', '9', '8', '5'] = 9985 / 10000 := rfl
  rw [hdays, hvalue] at hparts
  norm_num at hparts
  exact .inr hparts

/-- **The spelling of an instant can tell** before the epoch: a number is rounded up there, and a
date-time is rounded down. -/
theorem exists_spellings_ne : ∃ (text text' : String) (t t' : Timestamp) (x : ℚ),
    parse text = .ok t ∧ parse text' = .ok t' ∧ Denotes (trim text.toList) x ∧
      Denotes (trim text'.toList) x ∧ t ≠ t' :=
  ⟨"-1.5", "1969-12-31T23:59:59.9985Z", .ofInt (-1), .ofInt (-2), -(3 / 2), by decide, by decide,
    denotes_early_number, denotes_early_dateTime, by decide⟩

theorem parse_spellings_sample :
    parse "-1.5" = .ok (.ofInt (-1)) ∧ parse "1969-12-31T23:59:59.9985Z" = .ok (.ofInt (-2)) ∧
      ¬ (RoundsUp (trim "-1.5".toList) (-(3 / 2)) ↔
        RoundsUp (trim "1969-12-31T23:59:59.9985Z".toList) (-(3 / 2))) := by
  have hnumber : parse "-1.5" = .ok (.ofInt (-1)) := by decide
  have hdateTime : parse "1969-12-31T23:59:59.9985Z" = .ok (.ofInt (-2)) := by decide
  refine ⟨hnumber, hdateTime, fun hup => ?_⟩
  have hagree := ((parse_spellings hnumber hdateTime).2 _ _ denotes_early_number
    denotes_early_dateTime).1 rfl
  exact absurd (hagree.2 hup) (by decide)

end Timestamp

end FlowParity
