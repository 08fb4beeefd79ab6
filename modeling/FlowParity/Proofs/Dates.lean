import FlowParity.Proofs.Numerals
/-!
# Dates

The date of a day is a date of the calendar, and the day is that of its date (`Date.toDay_ofDay`).
So an instant can be told from its text: the fields after the year have a fixed width, the year
is what is left in front of them, and what has no date has no letter in it either
(`Timestamp.format_injective`).
-/

namespace FlowParity

namespace Calendar

/-! ## Days and dates -/

theorem daysOf_cons (length : Nat) (later : List Nat) :
    daysOf (length :: later) = length + daysOf later := rfl

/-- **A day is found in its month**: the months before it and its place in the month make it up. -/
theorem exists_monthAndDay (month : Nat) {day : Nat} {lengths : List Nat}
    (hday : day < daysOf lengths) :
    ∃ i, ∃ h : i < lengths.length, ∃ d, monthAndDay month day lengths = (month + i, d) ∧
      0 < d ∧ d ≤ lengths[i] ∧ daysOf (lengths.take i) + d = day + 1 := by
  induction lengths generalizing month day with
  | nil => exact absurd hday (Nat.not_lt_zero _)
  | cons length later ih =>
    rw [monthAndDay]
    split
    · rename_i hlt
      exact ⟨0, Nat.zero_lt_succ _, day + 1, rfl, Nat.zero_lt_succ _, hlt, Nat.zero_add _⟩
    · have hlater : day - length < daysOf later := by
        rw [daysOf_cons] at hday
        omega
      obtain ⟨i, hi, d, hfound, hpos, hle, hsum⟩ := ih (month + 1) hlater
      refine ⟨i + 1, Nat.succ_lt_succ hi, d, ?_, hpos, hle, ?_⟩
      · rw [hfound, Nat.add_assoc, Nat.add_comm 1 i]
      · rw [List.take_succ_cons, daysOf_cons]
        omega

theorem exists_ofDay (day : Int) :
    ∃ i, ∃ h : i < (monthLengths (yearOf day)).length, ∃ d,
      Date.ofDay day = ⟨yearOf day, i + 1, d⟩ ∧ 0 < d ∧ d ≤ (monthLengths (yearOf day))[i] ∧
        yearStart (yearOf day) + daysOf ((monthLengths (yearOf day)).take i) + d = day + 1 := by
  obtain ⟨hstart, hend⟩ := yearOf_bounds day
  rw [yearStart_succ] at hend
  have hday : (day - yearStart (yearOf day)).toNat < daysOf (monthLengths (yearOf day)) := by
    omega
  obtain ⟨i, hi, d, hfound, hpos, hle, hsum⟩ := exists_monthAndDay 1 hday
  refine ⟨i, hi, d, ?_, hpos, hle, by omega⟩
  rw [Date.ofDay, hfound, Nat.add_comm 1 i]

namespace Date

/-- **A day is that of its date.** -/
theorem toDay_ofDay (day : Int) : (ofDay day).toDay = day := by
  obtain ⟨i, -, d, hdate, -, -, hsum⟩ := exists_ofDay day
  rw [hdate, toDay]
  dsimp only
  rw [Nat.add_sub_cancel]
  omega

/-- **The date of a day exists.** -/
theorem isValid_ofDay (day : Int) : (ofDay day).isValid = true := by
  obtain ⟨i, hi, d, hdate, hpos, hle, -⟩ := exists_ofDay day
  rw [hdate, isValid, daysInMonth, if_neg (Nat.succ_ne_zero i), Nat.add_sub_cancel,
    List.getElem?_eq_getElem hi, Option.getD_some, Bool.and_eq_true, decide_eq_true_eq,
    decide_eq_true_eq]
  exact ⟨hpos, hle⟩

theorem le_of_mem_monthLengths {year : Int} : ∀ n ∈ monthLengths year, n ≤ 31 := by
  rw [monthLengths]
  cases isLeap year <;> decide

/-- Months and days have at most two digits. -/
theorem month_lt_and_day_lt (day : Int) : (ofDay day).month < 100 ∧ (ofDay day).day < 100 := by
  obtain ⟨i, hi, d, hdate, -, hle, -⟩ := exists_ofDay day
  have hmonth : i < 12 := hi
  have hlength := le_of_mem_monthLengths _ (List.getElem_mem hi)
  rw [hdate]
  dsimp only
  omega

end Date

end Calendar

open Calendar Text

namespace DateTime

/-! ## Years -/

theorem toList_yearText (year : Int) :
    (yearText year).toList =
      if 0 ≤ year ∧ year ≤ 9999 then (padded 4 year.natAbs).toList
      else (if year < 0 then '-' else '+') :: (padded 4 year.natAbs).toList := by
  rw [yearText]
  split
  · rfl
  · split <;> simp

/-- A sign in front counts for nothing. -/
theorem digitsValue_sign_cons {c : Char} {s : List Char} (hc : digit? c = none) :
    digitsValue (c :: s) = digitsValue s := by
  rw [digitsValue, List.foldl_cons, hc]
  rfl

theorem digitsValue_yearText (year : Int) : digitsValue (yearText year).toList = year.natAbs := by
  rw [toList_yearText]
  split
  · exact digitsValue_padded
  · rw [digitsValue_sign_cons, digitsValue_padded]
    split <;> rfl

theorem head?_padded_ne_minus {w n : Nat} : (padded w n).toList.head? ≠ some '-' := by
  rw [toList_padded]
  cases w - (Nat.toDigits 10 n).length with
  | zero =>
    obtain ⟨d, hd, rest, hdigits⟩ := exists_toDigits_eq_cons n
    rw [hdigits, List.replicate_zero, List.nil_append, List.head?_cons, ne_eq, Option.some.injEq]
    exact (digitChar_ne_sign d hd).2
  | succ k => exact fun h => absurd (Option.some.inj h) (by decide)

theorem head?_yearText (year : Int) : (yearText year).toList.head? = some '-' ↔ year < 0 := by
  rw [toList_yearText]
  split
  · rename_i h
    exact iff_of_false head?_padded_ne_minus (by omega)
  · split
    · rename_i h
      exact iff_of_true rfl h
    · rename_i h
      exact iff_of_false (fun h => absurd (Option.some.inj h) (by decide)) h

/-- **A year can be told from its text**: its digits from those of the text, its sign from what stands
first. -/
theorem yearText_inj {y z : Int} (h : (yearText y).toList = (yearText z).toList) : y = z := by
  have habs := digitsValue_yearText y
  have hsign := head?_yearText y
  rw [h, digitsValue_yearText] at habs
  rw [h, head?_yearText] at hsign
  omega

end DateTime

open DateTime

namespace Timestamp

/-! ## Instants -/

/-- What follows the year in the text of an instant that has a date. -/
def afterYear (t : Timestamp) : List Char :=
  let seconds := t.ms / 1000
  let date := Date.ofDay (seconds / 86400)
  let time := (seconds % 86400).toNat
  '-' :: ((padded 2 date.month).toList ++ '-' :: ((padded 2 date.day).toList ++
    'T' :: ((padded 2 (time / 3600)).toList ++ ':' :: ((padded 2 (time / 60 % 60)).toList ++
      ':' :: ((padded 2 (time % 60)).toList ++
        '.' :: ((padded 3 (t.ms % 1000).toNat).toList ++ ['Z']))))))

variable {t u : Timestamp}

theorem toList_format_of_hasDate (h : hasDate (t.ms / 1000) = true) :
    t.format.toList =
      (yearText (Date.ofDay (t.ms / 1000 / 86400)).year).toList ++ afterYear t := by
  simp [format, h, secondsText, afterYear]

/-- The fields of an instant have at most two digits, its milliseconds three. -/
theorem fields_lt (t : Timestamp) :
    let time := (t.ms / 1000 % 86400).toNat
    time / 3600 < 10 ^ 2 ∧ time / 60 % 60 < 10 ^ 2 ∧ time % 60 < 10 ^ 2 ∧
      (t.ms % 1000).toNat < 10 ^ 3 := by
  intro time
  omega

theorem length_afterYear (t : Timestamp) : (afterYear t).length = 20 := by
  obtain ⟨hmonth, hday⟩ := Date.month_lt_and_day_lt (t.ms / 1000 / 86400)
  obtain ⟨hhour, hminute, hsecond, hmillis⟩ := fields_lt t
  simp only [afterYear, List.length_cons, List.length_append, List.length_nil,
    length_padded Nat.two_pos hmonth, length_padded Nat.two_pos hday,
    length_padded Nat.two_pos hhour, length_padded Nat.two_pos hminute,
    length_padded Nat.two_pos hsecond, length_padded (by decide : 0 < 3) hmillis, Nat.reduceAdd]

/-- **The month, the day and the time of day can be told from what follows the year.** -/
theorem afterYear_inj (h : afterYear t = afterYear u) :
    (Date.ofDay (t.ms / 1000 / 86400)).month = (Date.ofDay (u.ms / 1000 / 86400)).month ∧
    (Date.ofDay (t.ms / 1000 / 86400)).day = (Date.ofDay (u.ms / 1000 / 86400)).day ∧
    t.ms % 86400000 = u.ms % 86400000 := by
  obtain ⟨hmonth, hday⟩ := Date.month_lt_and_day_lt (t.ms / 1000 / 86400)
  obtain ⟨hhour, hminute, hsecond, hmillis⟩ := fields_lt t
  obtain ⟨hmonth', hday'⟩ := Date.month_lt_and_day_lt (u.ms / 1000 / 86400)
  obtain ⟨hhour', hminute', hsecond', hmillis'⟩ := fields_lt u
  simp only [afterYear, List.cons.injEq, true_and, padded_append_inj Nat.two_pos hmonth hmonth',
    padded_append_inj Nat.two_pos hday hday', padded_append_inj Nat.two_pos hhour hhour',
    padded_append_inj Nat.two_pos hminute hminute', padded_append_inj Nat.two_pos hsecond hsecond',
    padded_append_inj (by decide : 0 < 3) hmillis hmillis'] at h
  obtain ⟨hmonths, hdays, hhours, hminutes, hseconds, hmillis, -⟩ := h
  exact ⟨hmonths, hdays, by omega⟩

theorem format_inj_of_hasDate (ht : hasDate (t.ms / 1000) = true)
    (hu : hasDate (u.ms / 1000) = true) (h : t.format = u.format) : t = u := by
  have hlist := congrArg String.toList h
  rw [toList_format_of_hasDate ht, toList_format_of_hasDate hu] at hlist
  -- the year is of any width, so the fields after it are cut off from behind
  obtain ⟨hyear, hrest⟩ := List.append_inj' hlist (by rw [length_afterYear, length_afterYear])
  obtain ⟨hmonth, hday, htime⟩ := afterYear_inj hrest
  have hdate : Date.ofDay (t.ms / 1000 / 86400) = Date.ofDay (u.ms / 1000 / 86400) := by
    rw [Date.mk.injEq]
    exact ⟨yearText_inj hyear, hmonth, hday⟩
  have hdays := congrArg Date.toDay hdate
  rw [Date.toDay_ofDay, Date.toDay_ofDay] at hdays
  apply Millis.ext
  omega

/-- A date ends with a letter, and a number has none. -/
theorem mem_format_iff_hasDate : 'Z' ∈ t.format.toList ↔ hasDate (t.ms / 1000) = true := by
  cases h : hasDate (t.ms / 1000) with
  | true =>
    rw [toList_format_of_hasDate h, afterYear]
    simp
  | false =>
    have hdigit : ∀ d < 10, 'Z' ≠ Nat.digitChar d := by decide
    have hdigits : 'Z' ∉ Nat.toDigits 10 t.ms.natAbs := fun hmem => by
      obtain ⟨d, hd, hZ⟩ := exists_of_mem_toDigits (by decide) hmem
      exact hdigit d hd hZ
    simp only [format, h, Bool.false_eq_true, if_false, iff_false, Millis.toList_toText]
    split
    · simpa using hdigits
    · exact hdigits

theorem toText_inj (h : t.toText = u.toText) : t = u := by
  have hread := ofIntegerText?_toText t
  rw [h, ofIntegerText?_toText] at hread
  exact (Option.some.inj hread).symm

/-- **An instant can be told from its text**, with four digits to the year or a sign in front of
them, and beyond the ends of the calendar. -/
theorem format_injective : Function.Injective format := by
  intro t u h
  have hboth : hasDate (t.ms / 1000) = true ↔ hasDate (u.ms / 1000) = true := by
    rw [← mem_format_iff_hasDate, h, mem_format_iff_hasDate]
  by_cases ht : hasDate (t.ms / 1000) = true
  · exact format_inj_of_hasDate ht (hboth.1 ht) h
  · simp only [format, if_neg ht, if_neg (mt hboth.2 ht)] at h
    exact toText_inj h

end Timestamp

end FlowParity
