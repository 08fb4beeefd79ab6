import FlowParity.Proofs.AddressReading
import FlowParity.Proofs.Dates
import FlowParity.Proofs.NumberTexts
/-!
# Texts of date-times

The RFC 3339 grammar as a relation between texts and instants (`SpellsDateTime`), apart from how a
text is read. An instant is a number of milliseconds since the epoch, a fraction of one included.
Reading accepts exactly the texts of the grammar, and rounds what they stand for down to a whole
millisecond (`parse?_eq_some_iff`). No instant of the grammar is too far from the epoch for 64 bits.
-/

namespace FlowParity

namespace Text

/-- The digits in front of a place, and what is left behind it. -/
theorem fractionValue_append (s t : List Char) :
    fractionValue (s ++ t) * 10 ^ s.length = digitsValue s + fractionValue t := by
  rw [fractionValue, fractionValue, digitsValue_append, List.length_append, pow_add]
  have hs : (10 : ℚ) ^ s.length ≠ 0 := by positivity
  have ht : (10 : ℚ) ^ t.length ≠ 0 := by positivity
  push_cast
  field_simp

/-- Zeros at the end of a fraction do not count. -/
theorem fractionValue_append_zeros (s : List Char) :
    fractionValue (s ++ ['0', '0']) = fractionValue s := by
  have hzeros : digitsValue ['0', '0'] = 0 := rfl
  have hs : (10 : ℚ) ^ s.length ≠ 0 := by positivity
  rw [fractionValue, fractionValue, digitsValue_append, hzeros, List.length_append, pow_add]
  push_cast
  field_simp
  norm_num

/-- **The first three digits** of a fraction of a second are its whole milliseconds. -/
theorem floor_fractionValue {s : List Char} (hs : s ≠ []) :
    ⌊fractionValue s * 1000⌋ = digitsValue ((s ++ ['0', '0']).take 3) := by
  have hlength : ((s ++ ['0', '0']).take 3).length = 3 := by
    have hpos := List.length_pos_of_ne_nil hs
    rw [List.length_take, List.length_append]
    simp only [List.length_cons, List.length_nil]
    omega
  have hsplit := fractionValue_append ((s ++ ['0', '0']).take 3) ((s ++ ['0', '0']).drop 3)
  rw [List.take_append_drop, fractionValue_append_zeros, hlength] at hsplit
  have hnonneg := fractionValue_nonneg ((s ++ ['0', '0']).drop 3)
  have hlt := fractionValue_lt_one ((s ++ ['0', '0']).drop 3)
  rw [Int.floor_eq_iff]
  push_cast
  norm_num at hsplit
  exact ⟨by linarith, by linarith⟩

end Text

namespace DateTime

open Calendar Text

variable {s rest : List Char} {width n : Nat}

/-! ## The grammar -/

/-- **A field**: as many digits as it is wide. -/
def IsField (width : Nat) (s : List Char) (n : Nat) : Prop :=
  s.length = width ∧ (∀ c ∈ s, isDigit c = true) ∧ digitsValue s = n

instance (width : Nat) (s : List Char) (n : Nat) : Decidable (IsField width s n) :=
  decidable_of_iff (s.length = width ∧ s.all isDigit = true ∧ digitsValue s = n)
    (by rw [IsField, List.all_eq_true])

/-- **A fraction of a second**: none, or a point and digits, of which there may be any number. -/
inductive SpellsFraction : List Char → ℚ → Prop
  /-- No fraction. -/
  | absent : SpellsFraction [] 0
  /-- A point and digits. -/
  | digits {s : List Char} (h : IsNumeral s) : SpellsFraction ('.' :: s) (fractionValue s)

/-- **An offset from UTC**, in minutes. -/
inductive SpellsOffset : List Char → Int → Prop
  /-- UTC itself. -/
  | utc {c : Char} (hc : c = 'Z' ∨ c = 'z') : SpellsOffset [c] 0
  /-- Local time is ahead of UTC. -/
  | ahead {h m : List Char} {hours minutes : Nat} (hhours : IsField 2 h hours)
    (hminutes : IsField 2 m minutes) (hle : hours ≤ 23 ∧ minutes ≤ 59) :
    SpellsOffset ('+' :: (h ++ ':' :: m)) (hours * 60 + minutes)
  /-- Local time is behind UTC. Besides the hyphen, which is all the RFC has, the minus sign proper
  is accepted. -/
  | behind {c : Char} {h m : List Char} {hours minutes : Nat} (hc : c = '-' ∨ c = '\u2212')
    (hhours : IsField 2 h hours) (hminutes : IsField 2 m minutes)
    (hle : hours ≤ 23 ∧ minutes ≤ 59) :
    SpellsOffset (c :: (h ++ ':' :: m)) (-(hours * 60 + minutes))

/-- **A date of the calendar**, year, month and day. -/
inductive SpellsDate : List Char → Date → Prop
  /-- The three fields. -/
  | fields {y m d : List Char} {year month day : Nat} (hyear : IsField 4 y year)
    (hmonth : IsField 2 m month) (hday : IsField 2 d day)
    (hvalid : (⟨year, month, day⟩ : Date).isValid = true) :
    SpellsDate (y ++ '-' :: (m ++ '-' :: d)) ⟨year, month, day⟩

/-- **A time of day**, in seconds since midnight. The second 60 is the one after second 59; the
grammar of the RFC allows it in every minute, and so does this one. -/
inductive SpellsTime : List Char → ℚ → Prop
  /-- The three fields and the fraction. -/
  | fields {h m c f : List Char} {hour minute second : Nat} {x : ℚ} (hhour : IsField 2 h hour)
    (hminute : IsField 2 m minute) (hsecond : IsField 2 c second)
    (hle : hour ≤ 23 ∧ minute ≤ 59 ∧ second ≤ 60) (hfraction : SpellsFraction f x) :
    SpellsTime (h ++ ':' :: (m ++ ':' :: (c ++ f))) ((hour * 60 + minute) * 60 + second + x)

/-- **A date-time**, in milliseconds since the epoch: a date, a time of day and an offset. Between
date and time there is a `T` of either case, or a blank for the sake of readability. -/
inductive SpellsDateTime : List Char → ℚ → Prop
  /-- The three parts. -/
  | parts {d t o : List Char} {separator : Char} {date : Date} {time : ℚ} {offset : Int}
    (hdate : SpellsDate d date) (hseparator : separator = 'T' ∨ separator = 't' ∨ separator = ' ')
    (htime : SpellsTime t time) (hoffset : SpellsOffset o offset) :
    SpellsDateTime (d ++ separator :: (t ++ o))
      ((date.toDay * 86400 + time - offset * 60) * 1000)

/-- There is a colon in every date-time. -/
theorem SpellsDateTime.colon_mem {x : ℚ} (h : SpellsDateTime s x) : ':' ∈ s := by
  obtain ⟨-, -, htime, -⟩ := h
  cases htime
  simp

/-! ## Reading the parts -/

/-- **A field is what its reader takes off.** -/
theorem digits?_eq_some_iff :
    digits? width s = some (n, rest) ↔ ∃ f, IsField width f n ∧ s = f ++ rest := by
  rw [digits?, Option.ite_none_right_eq_some]
  simp only [Bool.and_eq_true, decide_eq_true_eq, List.all_eq_true, Option.some.injEq,
    Prod.mk.injEq]
  constructor
  · rintro ⟨⟨hlength, hdigits⟩, hvalue, rfl⟩
    exact ⟨s.take width, ⟨hlength, hdigits, hvalue⟩, (List.take_append_drop width s).symm⟩
  · rintro ⟨f, ⟨rfl, hdigits, hvalue⟩, rfl⟩
    rw [List.take_left, List.drop_left]
    exact ⟨⟨rfl, hdigits⟩, hvalue, rfl⟩

/-- Reading that starts with a field. -/
theorem bind_digits?_eq_some_iff {α : Type} {f : Nat × List Char → Option α} {a : α} :
    (digits? width s >>= f) = some a ↔
      ∃ t n rest, IsField width t n ∧ s = t ++ rest ∧ f (n, rest) = some a := by
  refine Option.bind_eq_some_iff.trans ⟨?_, ?_⟩
  · rintro ⟨⟨n, rest⟩, hread, hnext⟩
    obtain ⟨t, ht, rfl⟩ := digits?_eq_some_iff.1 hread
    exact ⟨t, n, rest, ht, rfl, hnext⟩
  · rintro ⟨t, n, rest, ht, rfl, hnext⟩
    exact ⟨(n, rest), digits?_eq_some_iff.2 ⟨t, ht, rfl⟩, hnext⟩

/-- Reading that starts with a mark. -/
theorem bind_skip?_eq_some_iff {α : Type} {p : Char → Bool} {f : List Char → Option α} {a : α} :
    (skip? p s >>= f) = some a ↔ ∃ c rest, p c = true ∧ s = c :: rest ∧ f rest = some a := by
  cases s with
  | nil => simp [skip?]
  | cons c s => by_cases hc : p c = true <;> simp [skip?, hc]

/-- What is read as a fraction is one, to the millisecond. -/
theorem exists_of_fraction?_eq_some {millis : Nat} (h : fraction? s = some (millis, rest)) :
    ∃ f x, SpellsFraction f x ∧ ⌊x * 1000⌋ = millis ∧ s = f ++ rest := by
  unfold fraction? at h
  split at h
  · rename_i t
    rw [Option.ite_none_left_eq_some] at h
    obtain ⟨hne, h⟩ := h
    cases h
    rw [List.isEmpty_iff] at hne
    have hdigits : IsNumeral (t.takeWhile isDigit) := ⟨hne, List.all_eq_true.1 List.all_takeWhile⟩
    refine ⟨_, _, .digits hdigits, floor_fractionValue hne, ?_⟩
    rw [List.cons_append, List.takeWhile_append_dropWhile]
  · cases h
    exact ⟨[], 0, .absent, by simp, rfl⟩

/-- **What may follow a time of day**: no digit, and no point. -/
def EndsTime (rest : List Char) : Prop := Address.Stops (fun c => isDigit c || c == '.') rest

theorem EndsTime.stops (h : EndsTime rest) : Address.Stops isDigit rest := by
  intro c hc
  have hother := h c hc
  rw [Bool.or_eq_false_iff] at hother
  exact hother.1

theorem EndsTime.ne_point (h : EndsTime rest) (t : List Char) : rest ≠ '.' :: t := by
  rintro rfl
  have hpoint := h '.' rfl
  revert hpoint
  decide

/-- **A fraction is read to the millisecond** where no digit and no point follows. -/
theorem SpellsFraction.fraction?_append {f : List Char} {x : ℚ} (h : SpellsFraction f x)
    (hrest : EndsTime rest) :
    ∃ millis : Nat, ⌊x * 1000⌋ = millis ∧ fraction? (f ++ rest) = some (millis, rest) := by
  cases h with
  | absent =>
    refine ⟨0, by simp, ?_⟩
    rw [List.nil_append, fraction?]
    exact hrest.ne_point
  | digits h =>
    refine ⟨_, floor_fractionValue h.1, ?_⟩
    rw [List.cons_append, fraction?, Address.takeWhile_append_of_stops h.2 hrest.stops,
      Address.dropWhile_append_of_stops h.2 hrest.stops, List.isEmpty_eq_false_iff.2 h.1]
    rfl

/-- **A sign is followed by hours and minutes**, each with its limit. -/
theorem offset?_sign {c : Char} {offset : Int} (hc : c = '+' ∨ c = '-' ∨ c = '\u2212') :
    offset? (c :: s) = some (offset, rest) ↔ ∃ t u hours minutes, IsField 2 t hours ∧
      IsField 2 u minutes ∧ (hours ≤ 23 ∧ minutes ≤ 59) ∧ s = t ++ ':' :: (u ++ rest) ∧
        (if c = '+' then (hours * 60 + minutes : Int) else -(hours * 60 + minutes)) = offset := by
  have hsteps : offset? (c :: s) = (do
      let hours ← digits? 2 s
      let rest ← skip? (· = ':') hours.2
      let minutes ← digits? 2 rest
      if 23 < hours.1 || 59 < minutes.1 then none
      else some (if c = '+' then (hours.1 * 60 + minutes.1 : Int)
        else -(hours.1 * 60 + minutes.1), minutes.2)) := by
    rcases hc with rfl | rfl | rfl <;> rfl
  rw [hsteps]
  simp only [bind_digits?_eq_some_iff, bind_skip?_eq_some_iff, Option.ite_none_left_eq_some,
    Bool.or_eq_true, decide_eq_true_eq, not_or, not_lt, Option.some.injEq, Prod.mk.injEq]
  constructor
  · rintro ⟨t, hours, _, hhours, rfl, _, _, rfl, rfl, u, minutes, _, hminutes, rfl, hle, hoffset,
      rfl⟩
    exact ⟨t, u, hours, minutes, hhours, hminutes, hle, rfl, hoffset⟩
  · rintro ⟨t, u, hours, minutes, hhours, hminutes, hle, rfl, hoffset⟩
    exact ⟨t, hours, _, hhours, rfl, ':', _, rfl, rfl, u, minutes, rest, hminutes, rfl, hle,
      hoffset, rfl⟩

theorem offset?_eq_none {c : Char} (hutc : ¬ (c = 'Z' ∨ c = 'z'))
    (hsign : ¬ (c = '+' ∨ c = '-' ∨ c = '\u2212')) : offset? (c :: s) = none := by
  rw [offset?, if_neg (by simpa using hutc)]
  exact if_pos (by simp only [not_or] at hsign; simp [hsign])

/-- **An offset is what its reader takes off.** -/
theorem offset?_eq_some_iff {offset : Int} :
    offset? s = some (offset, rest) ↔ ∃ o, SpellsOffset o offset ∧ s = o ++ rest := by
  constructor
  · intro h
    cases s with
    | nil => cases h
    | cons c s =>
      by_cases hutc : c = 'Z' ∨ c = 'z'
      · rw [offset?, if_pos (by simpa using hutc)] at h
        cases h
        exact ⟨[c], .utc hutc, rfl⟩
      by_cases hsign : c = '+' ∨ c = '-' ∨ c = '\u2212'
      · obtain ⟨t, u, hours, minutes, hhours, hminutes, hle, rfl, rfl⟩ := (offset?_sign hsign).1 h
        refine ⟨c :: (t ++ ':' :: u), ?_, by simp⟩
        rcases hsign with rfl | hminus
        · exact .ahead hhours hminutes hle
        · rw [if_neg (by rcases hminus with rfl | rfl <;> decide)]
          exact .behind hminus hhours hminutes hle
      · rw [offset?_eq_none hutc hsign] at h
        cases h
  · rintro ⟨o, ho, rfl⟩
    cases ho with
    | utc hc =>
      rw [List.singleton_append, offset?, if_pos (by simpa using hc)]
      rfl
    | @ahead t u hours minutes hhours hminutes hle =>
      exact (offset?_sign (.inl rfl)).2
        ⟨t, u, hours, minutes, hhours, hminutes, hle, by simp, rfl⟩
    | @behind c t u hours minutes hc hhours hminutes hle =>
      refine (offset?_sign (.inr hc)).2
        ⟨t, u, hours, minutes, hhours, hminutes, hle, by simp, if_neg ?_⟩
      rcases hc with rfl | rfl <;> decide

/-! ## Reading the whole -/

/-- Only the fraction of a second is ever rounded. -/
theorem floor_dateTime (day : Int) (hour minute second : Nat) (x : ℚ) (offset : Int) :
    ⌊((day * 86400 + ((hour * 60 + minute) * 60 + second + x) - offset * 60) * 1000 : ℚ)⌋ =
      (((day * 24 + hour) * 60 + minute - offset) * 60 + second) * 1000 + ⌊x * 1000⌋ := by
  rw [← Int.floor_intCast_add]
  congr 1
  push_cast
  ring

/-- After a time of day there is no digit and no point. -/
theorem SpellsOffset.endsTime {o : List Char} {offset : Int} (h : SpellsOffset o offset) :
    EndsTime o := by
  intro c hc
  cases h with
  | utc hz =>
    obtain rfl := Option.some.inj hc
    rcases hz with rfl | rfl <;> decide
  | ahead =>
    obtain rfl := Option.some.inj hc
    decide
  | behind hminus =>
    obtain rfl := Option.some.inj hc
    rcases hminus with rfl | rfl <;> decide

/-- What is read is a date-time of the grammar. -/
theorem exists_of_parse?_eq_some {ms : Int} (h : parse? s = some ms) :
    ∃ x, SpellsDateTime s x ∧ ⌊x⌋ = ms := by
  rw [parse?] at h
  simp only [bind_digits?_eq_some_iff, bind_skip?_eq_some_iff, Bool.or_eq_true,
    decide_eq_true_eq, or_assoc] at h
  obtain ⟨y, year, _, hyear, rfl, _, _, rfl, rfl, m, month, _, hmonth, rfl, _, _, rfl, rfl,
    d, day, _, hday, rfl, separator, _, hseparator, rfl, h⟩ := h
  obtain ⟨t, hour, _, hhour, rfl, _, _, rfl, rfl, u, minute, _, hminute, rfl, _, _, rfl, rfl,
    c, second, _, hsecond, rfl, h⟩ := h
  obtain ⟨⟨millis, _⟩, hfraction, h⟩ := Option.bind_eq_some_iff.1 h
  obtain ⟨⟨offset, rest⟩, hoffset, h⟩ := Option.bind_eq_some_iff.1 h
  obtain ⟨hlimits, hms⟩ := Option.ite_none_right_eq_some.1 h
  simp only [Bool.and_eq_true, decide_eq_true_eq, List.isEmpty_iff] at hlimits
  obtain ⟨f, x, hx, hmillis, rfl⟩ := exists_of_fraction?_eq_some hfraction
  obtain ⟨o, ho, rfl⟩ := offset?_eq_some_iff.1 hoffset
  obtain ⟨⟨⟨⟨rfl, hvalid⟩, hhour'⟩, hminute'⟩, hsecond'⟩ := hlimits
  cases hms
  have hparts := SpellsDateTime.parts (.fields hyear hmonth hday hvalid) hseparator
    (.fields hhour hminute hsecond ⟨hhour', hminute', hsecond'⟩ hx) ho
  refine ⟨_, ?_, (floor_dateTime _ hour minute second x offset).trans (by rw [hmillis])⟩
  simpa using hparts

/-- A date-time of the grammar is read. -/
theorem SpellsDateTime.parse?_eq_some {x : ℚ} (h : SpellsDateTime s x) : parse? s = some ⌊x⌋ := by
  obtain @⟨_, _, o, separator, _, _, offset, hdate, hseparator, htime, hoffset⟩ := h
  obtain @⟨y, m, d, year, month, day, hyear, hmonth, hday, hvalid⟩ := hdate
  obtain @⟨t, u, c, f, hour, minute, second, x, hhour, hminute, hsecond, hle, hfraction⟩ := htime
  obtain ⟨millis, hmillis, hread⟩ := hfraction.fraction?_append hoffset.endsTime
  rw [floor_dateTime, hmillis, parse?]
  simp only [List.append_assoc, List.cons_append]
  -- one step for each field and for each mark between two of them
  refine bind_digits?_eq_some_iff.2 ⟨y, year, _, hyear, rfl, ?_⟩
  refine bind_skip?_eq_some_iff.2 ⟨'-', _, rfl, rfl, ?_⟩
  refine bind_digits?_eq_some_iff.2 ⟨m, month, _, hmonth, rfl, ?_⟩
  refine bind_skip?_eq_some_iff.2 ⟨'-', _, rfl, rfl, ?_⟩
  refine bind_digits?_eq_some_iff.2 ⟨d, day, _, hday, rfl, ?_⟩
  refine bind_skip?_eq_some_iff.2 ⟨separator, _, by simpa [or_assoc] using hseparator, rfl, ?_⟩
  refine bind_digits?_eq_some_iff.2 ⟨t, hour, _, hhour, rfl, ?_⟩
  refine bind_skip?_eq_some_iff.2 ⟨':', _, rfl, rfl, ?_⟩
  refine bind_digits?_eq_some_iff.2 ⟨u, minute, _, hminute, rfl, ?_⟩
  refine bind_skip?_eq_some_iff.2 ⟨':', _, rfl, rfl, ?_⟩
  refine bind_digits?_eq_some_iff.2 ⟨c, second, _, hsecond, rfl, ?_⟩
  refine Option.bind_eq_some_iff.2 ⟨_, hread, ?_⟩
  refine Option.bind_eq_some_iff.2 ⟨(offset, []), offset?_eq_some_iff.2 ⟨o, hoffset, by simp⟩, ?_⟩
  refine if_pos ?_
  simp [hvalid, hle]

/-- **Reading accepts the date-times of the grammar and nothing else**, and rounds their instants
down to the millisecond. -/
theorem parse?_eq_some_iff {ms : Int} :
    parse? s = some ms ↔ ∃ x, SpellsDateTime s x ∧ ⌊x⌋ = ms := by
  refine ⟨exists_of_parse?_eq_some, ?_⟩
  rintro ⟨x, h, rfl⟩
  exact h.parse?_eq_some

theorem parse?_eq_none_iff : parse? s = none ↔ ¬ ∃ x, SpellsDateTime s x := by
  constructor
  · rintro hnone ⟨x, h⟩
    rw [h.parse?_eq_some] at hnone
    cases hnone
  · intro h
    refine Option.eq_none_iff_forall_ne_some.2 fun ms hms => ?_
    obtain ⟨x, hx, -⟩ := exists_of_parse?_eq_some hms
    exact h ⟨x, hx⟩

/-! ## The range -/

/-- Months have thirty-one days at most. -/
theorem daysOf_le {lengths : List Nat} (h : ∀ n ∈ lengths, n ≤ 31) :
    daysOf lengths ≤ 31 * lengths.length := by
  induction lengths with
  | nil => exact Nat.zero_le _
  | cons n lengths ih =>
    obtain ⟨hn, h⟩ := List.forall_mem_cons.1 h
    have hle := ih h
    rw [daysOf_cons, List.length_cons]
    omega

theorem IsField.lt {f : List Char} (h : IsField width f n) : n < 10 ^ width := by
  obtain ⟨hlength, -, hvalue⟩ := h
  rw [← hlength, ← hvalue]
  exact digitsValue_lt f

/-- A date with four digits to its year is at most some ten thousand years from the epoch. -/
theorem SpellsDate.toDay_bounds {d : List Char} {date : Date} (h : SpellsDate d date) :
    -1000000 ≤ date.toDay ∧ date.toDay ≤ 4000000 := by
  obtain @⟨y, m, d, year, month, day, hyear, -, hday, -⟩ := h
  have hyears := hyear.lt
  have hdays := hday.lt
  have hmonths : daysOf ((monthLengths year).take (month - 1)) ≤ 31 * _ :=
    daysOf_le fun n hn => Date.le_of_mem_monthLengths n (List.mem_of_mem_take hn)
  have hlength : ((monthLengths year).take (month - 1)).length ≤ 12 :=
    List.length_take_le' _ _
  simp only [Date.toDay, yearStart]
  omega

theorem SpellsFraction.floor_bounds {f : List Char} {x : ℚ} (h : SpellsFraction f x) :
    0 ≤ ⌊x * 1000⌋ ∧ ⌊x * 1000⌋ < 1000 := by
  have hx : 0 ≤ x ∧ x < 1 := by
    cases h with
    | absent => norm_num
    | digits => exact ⟨fractionValue_nonneg _, fractionValue_lt_one _⟩
  rw [Int.floor_nonneg, Int.floor_lt]
  push_cast
  exact ⟨by linarith, by linarith⟩

theorem SpellsOffset.bounds {o : List Char} {offset : Int} (h : SpellsOffset o offset) :
    -1440 < offset ∧ offset < 1440 := by
  cases h <;> omega

/-- **Date-times fit in 64 bits by far**, since their years have four digits. -/
theorem SpellsDateTime.exists_ms_eq {x : ℚ} (h : SpellsDateTime s x) :
    ∃ t : Timestamp, t.ms = ⌊x⌋ := by
  obtain @⟨_, _, o, separator, _, _, offset, hdate, -, htime, hoffset⟩ := h
  obtain @⟨t, u, c, f, hour, minute, second, x, -, -, -, hle, hfraction⟩ := htime
  have hdays := hdate.toDay_bounds
  have hmillis := hfraction.floor_bounds
  have hminutes := hoffset.bounds
  rw [floor_dateTime]
  exact ⟨⟨_, by omega, by omega⟩, rfl⟩

/-! ## One instant for a text -/

variable {rest' : List Char}

/-- A field ends where its width says. -/
theorem IsField.append_inj {f f' : List Char} {n' : Nat} (h : IsField width f n)
    (h' : IsField width f' n') (heq : f ++ rest = f' ++ rest') : n = n' ∧ rest = rest' := by
  obtain ⟨rfl, hrest⟩ := List.append_inj heq (h.1.trans h'.1.symm)
  exact ⟨h.2.2.symm.trans h'.2.2, hrest⟩

/-- A date ends where its fields end. -/
theorem SpellsDate.append_inj {d d' : List Char} {date date' : Date} (h : SpellsDate d date)
    (h' : SpellsDate d' date') (heq : d ++ rest = d' ++ rest') : date = date' ∧ rest = rest' := by
  obtain ⟨hyear, hmonth, hday, -⟩ := h
  obtain ⟨hyear', hmonth', hday', -⟩ := h'
  simp only [List.append_assoc, List.cons_append] at heq
  obtain ⟨rfl, heq⟩ := hyear.append_inj hyear' heq
  obtain ⟨rfl, heq⟩ := hmonth.append_inj hmonth' (List.cons.inj heq).2
  obtain ⟨rfl, heq⟩ := hday.append_inj hday' (List.cons.inj heq).2
  exact ⟨rfl, heq⟩

/-- A fraction ends where its digits end. -/
theorem SpellsFraction.append_inj {f f' : List Char} {x x' : ℚ} (h : SpellsFraction f x)
    (h' : SpellsFraction f' x') (hrest : EndsTime rest) (hrest' : EndsTime rest')
    (heq : f ++ rest = f' ++ rest') : x = x' ∧ rest = rest' := by
  cases h with
  | absent =>
    cases h' with
    | absent => exact ⟨rfl, heq⟩
    | digits => exact absurd heq (hrest.ne_point _)
  | digits hs =>
    cases h' with
    | absent => exact absurd heq.symm (hrest'.ne_point _)
    | digits hs' =>
      rw [List.cons_append, List.cons_append] at heq
      have htail := (List.cons.inj heq).2
      have hdigits := congrArg (List.takeWhile isDigit) htail
      rw [Address.takeWhile_append_of_stops hs.2 hrest.stops,
        Address.takeWhile_append_of_stops hs'.2 hrest'.stops] at hdigits
      subst hdigits
      exact ⟨rfl, List.append_cancel_left htail⟩

/-- A time of day ends where its fraction ends. -/
theorem SpellsTime.append_inj {t t' : List Char} {x x' : ℚ} (h : SpellsTime t x)
    (h' : SpellsTime t' x') (hrest : EndsTime rest) (hrest' : EndsTime rest')
    (heq : t ++ rest = t' ++ rest') : x = x' ∧ rest = rest' := by
  obtain ⟨hhour, hminute, hsecond, -, hfraction⟩ := h
  obtain ⟨hhour', hminute', hsecond', -, hfraction'⟩ := h'
  simp only [List.append_assoc, List.cons_append] at heq
  obtain ⟨rfl, heq⟩ := hhour.append_inj hhour' heq
  obtain ⟨rfl, heq⟩ := hminute.append_inj hminute' (List.cons.inj heq).2
  obtain ⟨rfl, heq⟩ := hsecond.append_inj hsecond' (List.cons.inj heq).2
  obtain ⟨rfl, heq⟩ := hfraction.append_inj hfraction' hrest hrest' heq
  exact ⟨rfl, heq⟩

theorem SpellsOffset.unique {offset offset' : Int} (h : SpellsOffset s offset)
    (h' : SpellsOffset s offset') : offset = offset' := by
  have hread := offset?_eq_some_iff.2 ⟨s, h, (List.append_nil s).symm⟩
  rw [offset?_eq_some_iff.2 ⟨s, h', (List.append_nil s).symm⟩] at hread
  cases hread
  rfl

/-- **A date-time is one instant.** -/
theorem SpellsDateTime.unique {x x' : ℚ} (h : SpellsDateTime s x) (h' : SpellsDateTime s x') :
    x = x' := by
  -- the two derivations are taken apart as of two texts that are equal
  generalize heq : s = s' at h'
  obtain ⟨hdate, -, htime, hoffset⟩ := h
  obtain ⟨hdate', -, htime', hoffset'⟩ := h'
  obtain ⟨rfl, heq⟩ := hdate.append_inj hdate' heq
  obtain ⟨rfl, rfl⟩ :=
    htime.append_inj htime' hoffset.endsTime hoffset'.endsTime (List.cons.inj heq).2
  rw [hoffset.unique hoffset']

end DateTime

end FlowParity
