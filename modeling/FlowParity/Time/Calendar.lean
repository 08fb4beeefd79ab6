/-!
# The calendar

Days are counted from 1970-01-01 in the Gregorian calendar, extended to all
years; year 0 is the year before year 1. `yearStart` is the day number of the
first day of a year, and everything else is read off it: a day lies in the year
`y` with `yearStart y ≤ day < yearStart (y + 1)`.
-/

namespace FlowParity.Calendar

/-- A calendar date. -/
structure Date where
  /-- The year, zero and negative years included. -/
  year : Int
  /-- The month, from 1 to 12. -/
  month : Nat
  /-- The day of the month, from 1. -/
  day : Nat
  deriving DecidableEq, Repr

/-- Every fourth year is a leap year, of the centuries only every fourth. -/
def isLeap (year : Int) : Bool :=
  year % 4 = 0 && (year % 100 ≠ 0 || year % 400 = 0)

/-- The lengths of the months of a year. -/
def monthLengths (year : Int) : List Nat :=
  [31, if isLeap year then 29 else 28, 31, 30, 31, 30, 31, 31, 30, 31, 30, 31]

/-- The length of a month, zero if there is no such month. -/
def daysInMonth (year : Int) (month : Nat) : Nat :=
  if month = 0 then 0 else ((monthLengths year)[month - 1]?).getD 0

/-- The number of days of months with these lengths. -/
def daysOf (lengths : List Nat) : Nat :=
  lengths.foldr (· + ·) 0

/-- Whether the date exists. -/
def Date.isValid (d : Date) : Bool :=
  1 ≤ d.day && d.day ≤ daysInMonth d.year d.month

/-- The day number of the first of January. -/
def yearStart (year : Int) : Int :=
  365 * (year - 1970) + ((year - 1) / 4 - (year - 1) / 100 + (year - 1) / 400) - 477

/-- The day number of a date. -/
def Date.toDay (d : Date) : Int :=
  yearStart d.year + daysOf ((monthLengths d.year).take (d.month - 1)) + d.day - 1

/-- The year in which a day lies: a guess from the mean length of a year, which is at most one
year off. -/
def yearOf (day : Int) : Int :=
  let guess := (400 * day + 719162 * 400) / 146097 + 1
  if day < yearStart guess then guess - 1
  else if day < yearStart (guess + 1) then guess
  else guess + 1

/-- The month and the day of the month of the day with a number, from zero, in the months that
start with month `month`. -/
def monthAndDay (month day : Nat) : List Nat → Nat × Nat
  | [] => (month, day + 1)
  | length :: later =>
    if day < length then (month, day + 1) else monthAndDay (month + 1) (day - length) later

/-- The date of a day number. -/
def Date.ofDay (day : Int) : Date :=
  let year := yearOf day
  let (month, dayOfMonth) := monthAndDay 1 (day - yearStart year).toNat (monthLengths year)
  ⟨year, month, dayOfMonth⟩

/-- A year lasts as long as its months. -/
theorem yearStart_succ (year : Int) :
    yearStart (year + 1) = yearStart year + daysOf (monthLengths year) := by
  unfold yearStart daysOf monthLengths isLeap
  by_cases h4 : year % 4 = 0 <;> by_cases h100 : year % 100 = 0 <;>
    by_cases h400 : year % 400 = 0 <;> simp [h4, h100, h400] <;> omega

/-- A day lies in its year. -/
theorem yearOf_bounds (day : Int) :
    yearStart (yearOf day) ≤ day ∧ day < yearStart (yearOf day + 1) := by
  simp only [yearOf]
  generalize hg : (400 * day + 719162 * 400) / 146097 + 1 = guess
  by_cases h₁ : day < yearStart guess
  · simp only [h₁, if_true]
    unfold yearStart at *
    omega
  · by_cases h₂ : day < yearStart (guess + 1)
    · simp only [h₁, h₂, if_true, if_false]
      exact ⟨by omega, trivial⟩
    · simp only [h₁, h₂, if_false]
      unfold yearStart at *
      omega

end FlowParity.Calendar
