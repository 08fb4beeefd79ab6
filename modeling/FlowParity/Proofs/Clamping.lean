import FlowParity.Compare.Measure
import Mathlib.Algebra.BigOperators.Group.List.Basic
import Mathlib.Algebra.GroupWithZero.Nat
/-!
# Clamped totals

Counters with clamped addition are a commutative monoid, and `Counter.clamp`
is a homomorphism onto it from the natural numbers. So a total may be clamped
at every step or once at the end, in any order and bracketing. The total of a
measure is such a sum (`Measure.total_eq_sum`), and its number is the exact
sum of what the records count, cut off at the largest counter
(`Measure.toNat_total`).
-/

namespace FlowParity

namespace Counter

instance : Zero Counter := ⟨zero⟩

theorem zero_def : (0 : Counter) = zero := rfl

@[simp] theorem clamp_toNat (c : Counter) : clamp c.toNat = c := by
  ext
  exact Nat.min_eq_left c.le_max

@[simp] theorem toNat_clamp (n : Nat) : (clamp n).toNat = Nat.min n maximum := rfl

@[simp] theorem clamp_zero : clamp 0 = 0 := rfl

/-- **Clamping is a homomorphism**: it makes no difference whether the
summands were clamped before they were added. -/
theorem clamp_add (a b : Nat) : clamp (a + b) = clamp a + clamp b := by
  ext
  simp only [toNat_clamp, add_toNat, maximum, Nat.min_def]
  grind

/-- Below the largest counter a sum is exact. -/
theorem toNat_add_of_lt {a b : Counter} (h : (a + b).toNat < maximum) :
    (a + b).toNat = a.toNat + b.toNat := by
  have hle : a.toNat + b.toNat ≤ maximum := by
    by_contra hgt
    have hmax : (a + b).toNat = maximum := Nat.min_eq_right (by omega)
    omega
  exact Nat.min_eq_left hle

instance : AddCommMonoid Counter where
  add_assoc := add_assoc
  add_comm := add_comm
  zero_add c := by
    rw [← clamp_toNat c, ← clamp_zero, ← clamp_add, Nat.zero_add]
  add_zero c := by
    rw [← clamp_toNat c, ← clamp_zero, ← clamp_add, Nat.add_zero]
  nsmul := nsmulRec

/-- A sum of clamped numbers is the clamped sum. -/
theorem sum_map_clamp {α : Type} (f : α → Nat) (l : List α) :
    (l.map fun a => clamp (f a)).sum = clamp (l.map f).sum := by
  induction l with
  | nil => rfl
  | cons a l ih => rw [List.map_cons, List.sum_cons, ih, List.map_cons, List.sum_cons, clamp_add]

/-- The left fold that adds counters up is their sum. -/
theorem sum_eq_sum (cs : List Counter) : sum cs = cs.sum := by
  rw [sum, ← zero_def, ← List.sum_eq_foldl]

end Counter

namespace Measure

/-- What a record adds to a measure, as a number without a limit. -/
def count (m : Measure) (r : Record) : Nat :=
  match m with
  | packets => r.forward.packets.toNat + (r.reverse.map fun back => back.packets.toNat).getD 0
  | bytes => r.forward.bytes.toNat + (r.reverse.map fun back => back.bytes.toNat).getD 0
  | flows => 1

/-- What a record adds to a measure. -/
def value (m : Measure) (r : Record) : Counter := .clamp (m.count r)

theorem value_packets (r : Record) : packets.value r = r.totalPackets := by
  cases h : r.reverse <;>
    simp [value, count, Record.totalPackets, h, Counter.clamp_add, Counter.zero_def ▸ add_zero]

theorem value_bytes (r : Record) : bytes.value r = r.totalBytes := by
  cases h : r.reverse <;>
    simp [value, count, Record.totalBytes, h, Counter.clamp_add, Counter.zero_def ▸ add_zero]

/-- What several records add together is what they count, clamped once. -/
theorem sum_value (m : Measure) (rs : List Record) :
    (rs.map m.value).sum = .clamp (rs.map m.count).sum :=
  Counter.sum_map_clamp m.count rs

/-- **A total is the sum of what the records add to it.** -/
theorem total_eq_sum (m : Measure) (rs : List Record) : m.total rs = (rs.map m.value).sum := by
  cases m with
  | packets => rw [total, Counter.sum_eq_sum, funext value_packets]
  | bytes => rw [total, Counter.sum_eq_sum, funext value_bytes]
  | flows =>
    have hone : flows.count = fun _ => 1 := rfl
    rw [total, sum_value, hone]
    simp

/-- **A total is exact up to the largest counter**: whatever was clamped on
the way, it is the exact sum cut off once. -/
theorem toNat_total (m : Measure) (rs : List Record) :
    (m.total rs).toNat = Nat.min (rs.map m.count).sum Counter.maximum := by
  rw [total_eq_sum, sum_value, Counter.toNat_clamp]

end Measure

end FlowParity
