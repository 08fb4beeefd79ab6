/-!
# Addresses

An IP address is a number of 32 or 128 bits together with its family. The family
is part of the address: the two families never compare equal, and every IPv4
address comes before every IPv6 address.
-/

namespace FlowParity

/-- The two address families. -/
inductive Family
  /-- Addresses of 32 bits. -/
  | v4
  /-- Addresses of 128 bits. -/
  | v6
  deriving DecidableEq, Repr

/-- The number of bits of an address. -/
def Family.width : Family → Nat
  | .v4 => 32
  | .v6 => 128

/-- The number of addresses. -/
def Family.size (f : Family) : Nat :=
  Nat.pow 2 f.width

/-- The number of addresses that agree on their first `length` bits. -/
def Family.blockSize (f : Family) (length : Nat) : Nat :=
  Nat.pow 2 (f.width - length)

/-- An IP address. -/
structure Address where
  /-- The family. -/
  family : Family
  /-- The bits, the first octet being the most significant. -/
  value : Nat
  /-- The bits fit the family. -/
  value_lt : value < family.size
  deriving DecidableEq

namespace Address

/-- The address with the lower bits of a number. -/
def ofNat (family : Family) (n : Nat) : Address :=
  ⟨family, n % family.size, Nat.mod_lt _ (Nat.two_pow_pos _)⟩

/-- The order of addresses: by family, then by value. -/
def le (a b : Address) : Bool :=
  match a.family, b.family with
  | .v4, .v6 => true
  | .v6, .v4 => false
  | _, _ => a.value ≤ b.value

@[ext] theorem ext {a b : Address} (hf : a.family = b.family) (hv : a.value = b.value) :
    a = b := by
  cases a; cases b; simp_all

/-- The order has no ties between different addresses. -/
theorem eq_of_le_of_le {a b : Address} (hab : a.le b) (hba : b.le a) : a = b := by
  obtain ⟨fa, va, ha⟩ := a
  obtain ⟨fb, vb, hb⟩ := b
  cases fa <;> cases fb <;> simp_all [le] <;> omega

/-- Any two addresses are ordered. -/
theorem le_total (a b : Address) : a.le b ∨ b.le a := by
  obtain ⟨fa, va, ha⟩ := a
  obtain ⟨fb, vb, hb⟩ := b
  cases fa <;> cases fb <;> simp [le] <;> omega

end Address

end FlowParity
