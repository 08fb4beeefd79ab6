import FlowParity.Reconcile
import Mathlib.Algebra.Order.Group.Int
import Mathlib.Data.List.Sort
/-!
# Spans

All that reconciliation reads of a record beside its key is its span. This
file gives spans a type of their own, on which the order of the pieces
(`Span.le`) and the test for continuation (`Timeouts.joins`) are stated in
unbounded integers: clamping at the ends of 64 bits never turns a decision
about an ordered record (`Timeouts.joins_iff`). The order has no ties between
different spans, so a list of spans has one sorted arrangement
(`Span.eq_of_perm`).
-/

namespace FlowParity

namespace Millis

@[simp] theorem ms_min (a b : Millis) : (a.min b).ms = Min.min a.ms b.ms := by
  unfold Millis.min
  split <;> rename_i h <;> rw [le_def] at h <;> omega

@[simp] theorem ms_max (a b : Millis) : (a.max b).ms = Max.max a.ms b.ms := by
  unfold Millis.max
  split <;> rename_i h <;> rw [le_def] at h <;> omega

/-- The milliseconds nearest to an integer, in terms of the two ends. -/
theorem ms_ofInt (n : Int) :
    (ofInt n).ms = Max.max (-9223372036854775808) (Min.min n 9223372036854775807) := by
  unfold ofInt
  split
  · simp only [minimum]; omega
  · split
    · simp only [maximum]; omega
    · simp only; omega

theorem ms_since (finish start : Millis) :
    (finish.since start).ms =
      Max.max (-9223372036854775808) (Min.min (finish.ms - start.ms) 9223372036854775807) :=
  ms_ofInt _

end Millis

/-- The time from the first to the last packet of a record. -/
@[ext] structure Span where
  /-- The first instant. -/
  start : Timestamp
  /-- The last instant. -/
  finish : Timestamp
  deriving DecidableEq

/-- The span of a record across both directions. -/
def Record.span (r : Record) : Span := ⟨r.spanStart, r.spanEnd⟩

@[simp] theorem Record.start_span (r : Record) : r.span.start = r.spanStart := rfl

@[simp] theorem Record.finish_span (r : Record) : r.span.finish = r.spanEnd := rfl

namespace Span

/-- The span does not end before it starts. -/
def Forward (s : Span) : Prop := s.start.ms ≤ s.finish.ms

/-- The order of spans: by start, then by end. -/
def le (a b : Span) : Bool :=
  a.start < b.start || (a.start = b.start && a.finish ≤ b.finish)

theorem le_iff {a b : Span} : a.le b ↔
    a.start.ms < b.start.ms ∨ (a.start.ms = b.start.ms ∧ a.finish.ms ≤ b.finish.ms) := by
  simp only [le, Bool.or_eq_true, Bool.and_eq_true, decide_eq_true_eq, Millis.lt_def,
    Millis.le_def, Millis.ext_iff]

theorem le_refl (a : Span) : a.le a := le_iff.2 (by omega)

theorem le_trans {a b c : Span} (hab : a.le b) (hbc : b.le c) : a.le c := by
  rw [le_iff] at *
  omega

theorem le_total (a b : Span) : a.le b ∨ b.le a := by
  simp only [le_iff]
  omega

theorem le_antisymm {a b : Span} (hab : a.le b) (hba : b.le a) : a = b := by
  rw [le_iff] at hab hba
  ext <;> omega

/-- A list in the order of spans. -/
def Sorted (ss : List Span) : Prop := ss.Pairwise fun a b => a.le b

/-- **A list of spans has one sorted arrangement.** -/
theorem eq_of_perm {ss ts : List Span} (hs : Sorted ss) (ht : Sorted ts) (h : ss.Perm ts) :
    ss = ts :=
  h.eq_of_pairwise (fun _ _ _ _ => le_antisymm) hs ht

theorem Sorted.filter {ss : List Span} (hs : Sorted ss) (p : Span → Bool) :
    Sorted (ss.filter p) :=
  List.Pairwise.filter p hs

/-- A sorted list starts no later than any of its members. -/
theorem Sorted.head_start_le {ss : List Span} (hs : Sorted ss) {l : Span} (hl : l ∈ ss) :
    ∀ b ∈ ss.head?, b.start ≤ l.start := by
  intro b hb
  obtain ⟨ss, rfl⟩ := List.head?_eq_some_iff.1 hb
  rw [Millis.le_def]
  rcases List.mem_cons.1 hl with rfl | hl
  · omega
  · have hbl := le_iff.1 ((List.pairwise_cons.1 hs).1 l hl)
    omega

/-- A sorted list is what comes early in it followed by the rest. -/
theorem Sorted.filter_append {ss : List Span} (hs : Sorted ss) {p : Span → Bool}
    (hp : ∀ a b : Span, a.le b → p b → p a) :
    ss.filter p ++ (ss.filter fun a => !p a) = ss := by
  induction ss with
  | nil => rfl
  | cons a ss ih =>
    obtain ⟨ha, hs⟩ := List.pairwise_cons.1 hs
    cases hpa : p a with
    | true => simp [hpa, ih hs]
    | false =>
      -- nothing after the first that is late is early
      have hlate : ∀ b ∈ ss, p b = false := fun b hb =>
        Bool.eq_false_iff.2 fun hpb => by simp [hp a b (ha b hb) hpb] at hpa
      have hnone : ss.filter p = [] := List.filter_eq_nil_iff.2 fun b hb => by simp [hlate b hb]
      have hall : (ss.filter fun a => !p a) = ss :=
        List.filter_eq_self.2 fun b hb => by simp [hlate b hb]
      simp [hpa, hnone, hall]

/-- A list with one more span, put after those that are not later. -/
def place (x : Span) (ss : List Span) : List Span :=
  (ss.filter fun a => a.le x) ++ x :: ss.filter fun a => !a.le x

theorem sorted_place (x : Span) {ss : List Span} (hs : Sorted ss) : Sorted (place x ss) := by
  have hafter : ∀ b ∈ ss.filter fun a => !a.le x, x.le b := by
    intro b hb
    rcases le_total b x with h | h
    · simp [h] at hb
    · exact h
  refine List.pairwise_append.2 ⟨hs.filter _, List.pairwise_cons.2 ⟨hafter, hs.filter _⟩, ?_⟩
  intro a ha b hb
  have hax : a.le x := (List.mem_filter.1 ha).2
  rcases List.mem_cons.1 hb with rfl | hb
  · exact hax
  · exact le_trans hax (hafter b hb)

theorem place_perm (x : Span) (ss : List Span) : (place x ss).Perm (x :: ss) :=
  List.perm_middle.trans ((List.filter_append_perm (fun a => a.le x) ss).cons x)

theorem place_ne_nil (x : Span) (ss : List Span) : place x ss ≠ [] :=
  List.append_ne_nil_of_right_ne_nil _ (List.cons_ne_nil _ _)

/-- The order in which spans are placed makes no difference. -/
theorem place_comm {ss : List Span} (hs : Sorted ss) (x y : Span) :
    place x (place y ss) = place y (place x ss) := by
  have hperm : ∀ a b : Span, (place a (place b ss)).Perm (a :: b :: ss) := fun a b =>
    (place_perm a _).trans ((place_perm b ss).cons a)
  exact eq_of_perm (sorted_place x (sorted_place y hs)) (sorted_place y (sorted_place x hs))
    ((hperm x y).trans ((List.Perm.swap y x ss).trans (hperm y x).symm))

/-- The span of two spans together. -/
def hull (a b : Span) : Span := ⟨a.start.min b.start, a.finish.max b.finish⟩

theorem hull_comm (a b : Span) : a.hull b = b.hull a := by
  ext
  · simp only [hull, Millis.ms_min, min_comm]
  · simp only [hull, Millis.ms_max, max_comm]

theorem hull_left_comm (a b c : Span) : a.hull (b.hull c) = b.hull (a.hull c) := by
  ext
  · simp only [hull, Millis.ms_min, min_left_comm]
  · simp only [hull, Millis.ms_max, max_left_comm]

end Span

namespace Timeouts

/-- Whether a span is as long as one that the active timeout has cut off. -/
def Reaches (t : Timeouts) (s : Span) : Prop := t.active.ms ≤ s.finish.ms - s.start.ms

instance (t : Timeouts) (s : Span) : Decidable (t.Reaches s) :=
  inferInstanceAs (Decidable (_ ≤ _))

/-- Whether a record with the second span continues the flow of one with the first. -/
def joins (t : Timeouts) (p q : Span) : Bool :=
  t.active ≤ p.finish.since p.start && (q.start.since p.finish).max .zero ≤ t.inactive

/-- **The test for continuation in unbounded integers.** The gap is not looked
at where the inactive timeout is the largest number of milliseconds. -/
theorem joins_iff {t : Timeouts} {p q : Span} (hp : p.Forward) : t.joins p q ↔
    t.Reaches p ∧ 0 ≤ t.inactive.ms ∧
      (q.start.ms - p.finish.ms ≤ t.inactive.ms ∨ t.inactive.ms = 9223372036854775807) := by
  have ha := t.active.upper
  have hi := t.inactive.upper
  have hz : Millis.zero.ms = 0 := rfl
  simp only [Span.Forward] at hp
  simp only [joins, Bool.and_eq_true, decide_eq_true_eq, Millis.le_def, Millis.ms_max,
    Millis.ms_since, Reaches, hz]
  omega

/-- Only the start of the later span matters. -/
theorem joins_congr {t : Timeouts} {p q q' : Span} (h : q.start = q'.start) :
    t.joins p q = t.joins p q' := by
  rw [joins, joins, h]

/-- A span that is continued at all is continued by one that starts with it. -/
theorem joins_self {t : Timeouts} {p q : Span} (hp : p.Forward) (h : t.joins p q) :
    t.joins p p := by
  rw [joins_iff hp] at h ⊢
  rw [Span.Forward] at hp
  exact ⟨h.1, h.2.1, Or.inl (by omega)⟩

end Timeouts

namespace Record

/-- A record that is ordered has a span that is. -/
theorem forward_span {r : Record} (h : r.isOrdered) : r.span.Forward := by
  simp only [isOrdered, Bool.and_eq_true, Traffic.isOrdered, decide_eq_true_eq,
    Millis.le_def] at h
  obtain ⟨hf, hb⟩ := h
  simp only [Span.Forward, start_span, finish_span, spanStart, spanEnd]
  cases hr : r.reverse with
  | none => exact hf
  | some back =>
    rw [hr] at hb
    simp only [Option.all_some, Traffic.isOrdered, decide_eq_true_eq, Millis.le_def] at hb
    simp only [Millis.ms_min, Millis.ms_max]
    omega

end Record

namespace Reconciliation

theorem spanLe_eq (a b : Record) : spanLe a b = a.span.le b.span := rfl

theorem continues_eq (t : Timeouts) (p q : Record) : continues t p q = t.joins p.span q.span := rfl

end Reconciliation

end FlowParity
