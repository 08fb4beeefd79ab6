import FlowParity.Proofs.DateTimeTexts
import FlowParity.Proofs.Labels
/-!
# Reading instants back

An instant is shown as a date-time, and the number of its milliseconds stands in where there is no
date. Either is read back as the instant, to the millisecond and on both sides of the epoch
(`Timestamp.parse_format`): fields written with a fixed width make up a date-time of the grammar, a
date of the calendar belongs to one day, and no date-time is taken for a number, since it ends with
a letter. The only dates that are not read are those of a year that does not have four digits. Such
a year is written with a sign, and a date-time starts with a digit.
-/

namespace FlowParity

open Calendar Text

variable {c : Char} {s rest : List Char}

/-! ## Fields -/

namespace DateTime

variable {w n : Nat}

theorem isDigit_of_mem_padded : ∀ c ∈ (padded w n).toList, isDigit c = true := by
  rw [toList_padded, List.forall_mem_append]
  refine ⟨fun c hc => ?_, fun c hc => Address.isDigit_of_mem_toDigits hc⟩
  rw [List.eq_of_mem_replicate hc]
  decide

/-- **A number written with a fixed width is a field.** -/
theorem isField_padded (hw : 0 < w) (hn : n < 10 ^ w) : IsField w (padded w n).toList n :=
  ⟨length_padded hw hn, isDigit_of_mem_padded, digitsValue_padded⟩

/-- Nothing else than a digit starts a date-time. -/
theorem parse?_cons_eq_none (hc : isDigit c = false) : parse? (c :: rest) = none := by
  rw [parse?, digits?, List.take_succ_cons, List.all_cons, hc, Bool.false_and, Bool.and_false]
  rfl

/-- Three digits of a fraction of a second are milliseconds. -/
theorem floor_fractionValue_padded (hn : n < 10 ^ 3) :
    ⌊fractionValue (padded 3 n).toList * 1000⌋ = n := by
  have hlength := length_padded (by decide : 0 < 3) hn
  rw [floor_fractionValue (List.ne_nil_of_length_pos (by omega)), List.take_left' hlength,
    digitsValue_padded]

/-- **The fields of a date-time in UTC are read back**, as the milliseconds up to it. -/
theorem parse?_fields {year month day hour minute second millis : Nat} (hyear : year < 10 ^ 4)
    (hmonth : month < 10 ^ 2) (hday : day < 10 ^ 2)
    (hdate : (⟨year, month, day⟩ : Date).isValid = true) (hhour : hour ≤ 23)
    (hminute : minute ≤ 59) (hsecond : second ≤ 60) (hmillis : millis < 10 ^ 3) :
    parse? ((padded 4 year).toList ++ '-' :: ((padded 2 month).toList ++
      '-' :: ((padded 2 day).toList ++ 'T' :: ((padded 2 hour).toList ++
        ':' :: ((padded 2 minute).toList ++ ':' :: ((padded 2 second).toList ++
          '.' :: ((padded 3 millis).toList ++ ['Z']))))))) =
      some (((((⟨year, month, day⟩ : Date).toDay * 24 + hour) * 60 + minute) * 60 + second) * 1000 +
        millis) := by
  have hspells := SpellsDate.fields (isField_padded (by decide) hyear)
    (isField_padded Nat.two_pos hmonth) (isField_padded Nat.two_pos hday) hdate
  have hfraction : SpellsFraction ('.' :: (padded 3 millis).toList) _ :=
    .digits ⟨List.ne_nil_of_length_pos
      (by rw [length_padded (by decide : 0 < 3) hmillis]; decide), isDigit_of_mem_padded⟩
  have htime := SpellsTime.fields (isField_padded Nat.two_pos (by omega : hour < 10 ^ 2))
    (isField_padded Nat.two_pos (by omega : minute < 10 ^ 2))
    (isField_padded Nat.two_pos (by omega : second < 10 ^ 2)) ⟨hhour, hminute, hsecond⟩ hfraction
  have hread := (SpellsDateTime.parts hspells (.inl rfl) htime (.utc (.inl rfl))).parse?_eq_some
  rw [floor_dateTime, floor_fractionValue_padded hmillis, Int.sub_zero] at hread
  simpa only [List.append_assoc, List.cons_append] using hread

end DateTime

namespace Timestamp

open DateTime

variable {t : Timestamp}

/-- **What has a letter in it is read as a date-time or not at all.** -/
theorem parseTrimmed_of_mem (hZ : 'Z' ∈ s) :
    parseTrimmed s = match (DateTime.parse? s).bind Millis.ofInt? with
      | some t => .ok t
      | none => .error (.malformed (String.ofList s)) :=
  parseTrimmed_of_not_number (List.ne_nil_of_mem hZ) (not_spellsNumber_of_mem hZ rfl)

/-! ## Instants -/

/-- The date of an instant in UTC. -/
def date (t : Timestamp) : Date := Date.ofDay (t.ms / 1000 / 86400)

/-- **An instant can be read back**: it has no date, or one of a year with four digits. -/
def IsReadable (t : Timestamp) : Prop :=
  hasDate (t.ms / 1000) = true → 0 ≤ t.date.year ∧ t.date.year ≤ 9999

instance (t : Timestamp) : Decidable t.IsReadable := inferInstanceAs (Decidable (_ → _))

/-- **A date-time is read back to the millisecond.** -/
theorem parse?_format (h : hasDate (t.ms / 1000) = true)
    (hyear : 0 ≤ t.date.year ∧ t.date.year ≤ 9999) :
    DateTime.parse? t.format.toList = some t.ms := by
  rw [date] at hyear
  obtain ⟨hmonth, hday⟩ := Date.month_lt_and_day_lt (t.ms / 1000 / 86400)
  obtain ⟨-, -, -, hmillis⟩ := fields_lt t
  have hyears : (Date.ofDay (t.ms / 1000 / 86400)).year.natAbs < 10 ^ 4 := by omega
  have hdate : (⟨(Date.ofDay (t.ms / 1000 / 86400)).year.natAbs,
      (Date.ofDay (t.ms / 1000 / 86400)).month, (Date.ofDay (t.ms / 1000 / 86400)).day⟩ : Date) =
        Date.ofDay (t.ms / 1000 / 86400) := by
    rw [Date.mk.injEq]
    exact ⟨by omega, rfl, rfl⟩
  rw [toList_format_of_hasDate h, toList_yearText, if_pos hyear, afterYear]
  rw [parse?_fields hyears hmonth hday (by rw [hdate, Date.isValid_ofDay]) (by omega) (by omega)
    (by omega) hmillis, hdate, Date.toDay_ofDay]
  -- the day and the time of day make up the milliseconds again, also before the epoch
  exact congrArg some (by omega)

/-- A year that does not have four digits is written with a sign, which is no digit. -/
theorem parse?_format_eq_none (h : hasDate (t.ms / 1000) = true)
    (hyear : ¬ (0 ≤ t.date.year ∧ t.date.year ≤ 9999)) :
    DateTime.parse? t.format.toList = none := by
  rw [date] at hyear
  have hsign : isDigit (if (Date.ofDay (t.ms / 1000 / 86400)).year < 0 then '-' else '+') =
      false := by
    split <;> decide
  rw [toList_format_of_hasDate h, toList_yearText, if_neg hyear, List.cons_append]
  exact parse?_cons_eq_none hsign

/-- The years with four digits last from the first millisecond of year 0 to the last one of
year 9999. -/
theorem year_mem_iff :
    0 ≤ t.date.year ∧ t.date.year ≤ 9999 ↔ -62167219200000 ≤ t.ms ∧ t.ms ≤ 253402300799999 := by
  obtain ⟨hstart, hend⟩ := yearOf_bounds (t.ms / 1000 / 86400)
  have hyear : t.date.year = yearOf (t.ms / 1000 / 86400) := rfl
  rw [hyear]
  rw [yearStart] at hstart hend
  omega

theorem isReadable_iff : t.IsReadable ↔
    -62167219200000 ≤ t.ms ∧ t.ms ≤ 253402300799999 ∨
      t.ms < -8334601228800000 ∨ 8210266876800000 ≤ t.ms := by
  rw [IsReadable, year_mem_iff, hasDate, Bool.and_eq_true, decide_eq_true_eq, decide_eq_true_eq]
  omega

/-- **An instant is read back from its text.** For all milliseconds of 64 bits, what is written is
read as the same instant if that has a date in a year from 0 to 9999, or no date, and is malformed
otherwise. The former are those from the first millisecond of year 0 to the last one of year 9999,
the latter those past either end of the calendar. -/
theorem parse_format (t : Timestamp) :
    (parse t.format = if t.IsReadable then .ok t else .error (.malformed t.format)) ∧
      (t.IsReadable ↔ -62167219200000 ≤ t.ms ∧ t.ms ≤ 253402300799999 ∨
        t.ms < -8334601228800000 ∨ 8210266876800000 ≤ t.ms) := by
  refine ⟨?_, isReadable_iff⟩
  have htrim : trim t.format.toList = t.format.toList := by
    have hblank : ∀ c ∈ instantLetters, isBlank c = false := forall_mem_of_all (by decide)
    exact strip_of_forall fun c hc => hblank c (t.mem_instantLetters_of_mem_format c hc)
  have hfit : Millis.ofInt? t.ms = some t := dif_pos ⟨t.lower, t.upper⟩
  rw [parse, htrim]
  by_cases h : hasDate (t.ms / 1000) = true
  · rw [parseTrimmed_of_mem (mem_format_iff_hasDate.2 h)]
    by_cases hyear : 0 ≤ t.date.year ∧ t.date.year ≤ 9999
    · have hreadable : t.IsReadable := fun _ => hyear
      rw [parse?_format h hyear, Option.bind_some, hfit, if_pos hreadable]
    · have hreadable : ¬ t.IsReadable := fun hr => hyear (hr h)
      rw [parse?_format_eq_none h hyear, if_neg hreadable, String.ofList_toList]
      rfl
  · have hreadable : t.IsReadable := fun hd => absurd hd h
    have htext : t.format = t.toText := if_neg h
    rw [if_pos hreadable, htext, parseTrimmed_toText]

/-- The last millisecond of a leap year before the epoch. -/
example : format (.ofInt (-62135596800001)) = "0000-12-31T23:59:59.999Z" := by decide

end Timestamp

end FlowParity
