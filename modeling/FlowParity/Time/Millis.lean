/-!
# Milliseconds

Timestamps, durations and timeouts are whole milliseconds in 64 bits with a
sign. The range is part of the type, and so is the policy at its ends: a result
that would leave it stays at the end it passed (`ofInt`). No operation wraps.
-/

namespace FlowParity

/-- A signed number of milliseconds in 64 bits: an instant counted from the epoch, or a duration. -/
structure Millis where
  /-- The number of milliseconds. -/
  ms : Int
  /-- The number does not pass the lower end. -/
  lower : -9223372036854775808 ≤ ms
  /-- The number does not pass the upper end. -/
  upper : ms ≤ 9223372036854775807
  deriving DecidableEq

namespace Millis

/-- The largest number of milliseconds. -/
def maximum : Millis := ⟨9223372036854775807, by decide, by decide⟩

/-- The smallest number of milliseconds. -/
def minimum : Millis := ⟨-9223372036854775808, by decide, by decide⟩

/-- The milliseconds nearest to an integer. -/
def ofInt (n : Int) : Millis :=
  if hl : n < -9223372036854775808 then minimum
  else if hu : 9223372036854775807 < n then maximum
  else ⟨n, by omega, by omega⟩

/-- The milliseconds of an integer that is in range. -/
def ofInt? (n : Int) : Option Millis :=
  if h : -9223372036854775808 ≤ n ∧ n ≤ 9223372036854775807 then some ⟨n, h.1, h.2⟩ else none

/-- No milliseconds. -/
def zero : Millis := ⟨0, by decide, by decide⟩

instance : LE Millis := ⟨fun a b => a.ms ≤ b.ms⟩

instance : LT Millis := ⟨fun a b => a.ms < b.ms⟩

instance (a b : Millis) : Decidable (a ≤ b) := inferInstanceAs (Decidable (a.ms ≤ b.ms))

instance (a b : Millis) : Decidable (a < b) := inferInstanceAs (Decidable (a.ms < b.ms))

/-- The earlier of two instants. -/
def min (a b : Millis) : Millis := if a ≤ b then a else b

/-- The later of two instants. -/
def max (a b : Millis) : Millis := if a ≤ b then b else a

/-- The instant moved by an offset. -/
def shift (a offset : Millis) : Millis := ofInt (a.ms + offset.ms)

/-- The duration from `start` to `finish`, negative if `finish` is the earlier one. -/
def since (finish start : Millis) : Millis := ofInt (finish.ms - start.ms)

/-- The milliseconds of a number of seconds. The product stays in 64 bits without a sign first. -/
def ofSeconds (seconds : Nat) : Millis :=
  ofInt (Nat.min (seconds * 1000) 18446744073709551615 : Nat)

/-- The decimal text. -/
def toText (a : Millis) : String :=
  toString a.ms

@[ext] theorem ext {a b : Millis} (h : a.ms = b.ms) : a = b := by
  cases a; cases b; simp_all

theorem le_def {a b : Millis} : a ≤ b ↔ a.ms ≤ b.ms := Iff.rfl

theorem lt_def {a b : Millis} : a < b ↔ a.ms < b.ms := Iff.rfl

end Millis

/-- An instant: milliseconds since the epoch 1970-01-01T00:00:00Z, or since some start time. -/
abbrev Timestamp := Millis

end FlowParity
