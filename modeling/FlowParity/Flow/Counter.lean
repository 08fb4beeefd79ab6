/-!
# Counters

Packets and bytes are counted in 64 bits. A sum that does not fit stays at the
largest counter, so adding is clamped addition of natural numbers: it is
commutative and associative.
-/

namespace FlowParity

/-- A count of packets, bytes or flows in 64 bits. -/
structure Counter where
  /-- The count. -/
  toNat : Nat
  /-- The count fits 64 bits. -/
  le_max : toNat ≤ 18446744073709551615
  deriving DecidableEq

namespace Counter

/-- The largest count. -/
def maximum : Nat := 18446744073709551615

/-- The counter nearest to a number. -/
def clamp (n : Nat) : Counter := ⟨Nat.min n maximum, Nat.min_le_right _ _⟩

/-- The counter of a number that fits. -/
def ofNat? (n : Nat) : Option Counter :=
  if h : n ≤ 18446744073709551615 then some ⟨n, h⟩ else none

/-- The zero counter. -/
def zero : Counter := ⟨0, Nat.zero_le _⟩

/-- The clamped sum. -/
def add (a b : Counter) : Counter := clamp (a.toNat + b.toNat)

instance : Add Counter := ⟨add⟩

/-- The clamped sum of many counters. -/
def sum (cs : List Counter) : Counter := cs.foldl (· + ·) zero

@[ext] theorem ext {a b : Counter} (h : a.toNat = b.toNat) : a = b := by
  cases a; cases b; simp_all

@[simp] theorem add_toNat (a b : Counter) :
    (a + b).toNat = Nat.min (a.toNat + b.toNat) maximum := rfl

theorem add_comm (a b : Counter) : a + b = b + a := by
  ext; simp [Nat.add_comm]

theorem add_assoc (a b c : Counter) : a + b + c = a + (b + c) := by
  ext
  simp only [add_toNat]
  have := a.le_max
  have := c.le_max
  simp only [maximum, Nat.min_def]
  grind

end Counter

end FlowParity
