import Mathlib.Data.List.Forall2
/-!
# Results and searches

How a computation that may fail comes to its result: a sequence of steps, a step for each
member of a list, a search for the first place that has something. Each fact says what has
to be so for a result, so a proof about a longer computation peels its steps off one by one.
-/

namespace FlowParity

variable {ε ε' α β : Type}

/-! ## Steps in sequence -/

/-- A sequence of two steps succeeds if both do. -/
theorem bind_eq_ok {x : Except ε α} {f : α → Except ε β} {b : β} :
    (x >>= f) = .ok b ↔ ∃ a, x = .ok a ∧ f a = .ok b := by
  cases x <;> simp [bind, Except.bind]

/-- A sequence of two steps fails if the first one does, or the second one after it. -/
theorem bind_eq_error {x : Except ε α} {f : α → Except ε β} {e : ε} :
    (x >>= f) = .error e ↔ x = .error e ∨ ∃ a, x = .ok a ∧ f a = .error e := by
  cases x <;> simp [bind, Except.bind]

/-- A check before another step has to pass first. -/
theorem check_bind_eq_ok {x : Except ε Unit} {f : Unit → Except ε β} {b : β} :
    (x >>= f) = .ok b ↔ x = .ok () ∧ f () = .ok b := by
  cases x <;> simp [bind, Except.bind]

theorem mapError_eq_ok {x : Except ε α} {f : ε → ε'} {a : α} :
    x.mapError f = .ok a ↔ x = .ok a := by
  cases x <;> simp [Except.mapError]

theorem mapError_bind {x : Except ε α} {f : α → Except ε β} {g : ε → ε'} :
    (x >>= f).mapError g = x.mapError g >>= fun a => (f a).mapError g := by
  cases x <;> rfl

theorem map_eq_ok {x : Except ε α} {f : α → β} {b : β} :
    x.map f = .ok b ↔ ∃ a, x = .ok a ∧ f a = b := by
  cases x <;> simp [Except.map]

theorem map_eq_error {x : Except ε α} {f : α → β} {e : ε} :
    x.map f = .error e ↔ x = .error e := by
  cases x <;> simp [Except.map]

theorem isOk_iff {x : Except ε α} : x.isOk ↔ ∃ a, x = .ok a := by
  cases x <;> simp [Except.isOk, Except.toBool]

/-! ## A step for each member -/

/-- A list is gone through successfully if each of its members is. -/
theorem mapM_eq_ok {f : α → Except ε β} {as : List α} {bs : List β} :
    as.mapM f = .ok bs ↔ List.Forall₂ (fun a b => f a = .ok b) as bs := by
  induction as generalizing bs with
  | nil => cases bs <;> simp [pure, Except.pure]
  | cons a as ih =>
    simp only [List.mapM_cons, bind_eq_ok, pure, Except.pure, Except.ok.injEq,
      List.forall₂_cons_left_iff]
    constructor
    · rintro ⟨b, hb, bs', hbs, rfl⟩
      exact ⟨b, bs', hb, ih.1 hbs, rfl⟩
    · rintro ⟨b, bs', hb, hbs, rfl⟩
      exact ⟨b, hb, bs', ih.2 hbs, rfl⟩

/-- Faults are told differently at each member, or once for the whole list. -/
theorem mapError_mapM {f : α → Except ε β} {g : ε → ε'} {as : List α} :
    (as.mapM f).mapError g = as.mapM fun a => (f a).mapError g := by
  induction as with
  | nil => rfl
  | cons a as ih =>
    simp only [List.mapM_cons, mapError_bind, ih]
    rfl

/-- **Going through a list fails at the first member that fails**, with its fault. -/
theorem mapM_eq_error {f : α → Except ε β} {as : List α} {e : ε} :
    as.mapM f = .error e ↔ ∃ before a after bs, as = before ++ a :: after ∧
      List.Forall₂ (fun a b => f a = .ok b) before bs ∧ f a = .error e := by
  induction as with
  | nil => simp [pure, Except.pure]
  | cons a as ih =>
    rw [List.mapM_cons, bind_eq_error]
    constructor
    · -- the first member fails, or it is one of those before the member that does
      rintro (ha | ⟨b, hb, h⟩)
      · exact ⟨[], a, as, [], rfl, .nil, ha⟩
      · rcases bind_eq_error.1 h with h | ⟨_, -, h⟩
        · obtain ⟨before, a', after, bs, rfl, hbefore, ha'⟩ := ih.1 h
          exact ⟨a :: before, a', after, b :: bs, rfl, .cons hb hbefore, ha'⟩
        · cases h
    · rintro ⟨before, a', after, bs, heq, hbefore, ha'⟩
      cases hbefore with
      | nil =>
        obtain ⟨rfl, rfl⟩ := List.cons.inj heq
        exact .inl ha'
      | @cons first b before bs hb hbefore =>
        obtain ⟨rfl, rfl⟩ := List.cons.inj heq
        exact .inr ⟨b, hb, bind_eq_error.2
          (.inl (ih.2 ⟨before, a', after, bs, rfl, hbefore, ha'⟩))⟩

/-! ## Searches -/

/-- **A search by position stops at the first place** where there is something to be found. -/
theorem findSome?_zipIdx_eq_some {f : α × Nat → Option β} {l : List α} {start : Nat}
    {b : β} :
    (l.zipIdx start).findSome? f = some b ↔
      ∃ i a, l[i]? = some a ∧ f (a, start + i) = some b ∧
        ∀ j < i, ∀ a', l[j]? = some a' → f (a', start + j) = none := by
  induction l generalizing start with
  | nil => simp
  | cons a l ih =>
    have hshift : ∀ i, start + 1 + i = start + (i + 1) := fun i => by omega
    rw [List.zipIdx_cons, List.findSome?_cons]
    cases ha : f (a, start) with
    | some b' =>
      -- something is found at once, so no later place can be the first
      constructor
      · intro h
        exact ⟨0, a, rfl, ha.trans h, fun j hj => absurd hj (Nat.not_lt_zero j)⟩
      · rintro ⟨i, a', hi, hfound, hbefore⟩
        cases i with
        | zero =>
          obtain rfl : a = a' := by simpa using hi
          exact ha.symm.trans hfound
        | succ i =>
          have hnone := hbefore 0 (Nat.succ_pos i) a rfl
          rw [Nat.add_zero, ha] at hnone
          cases hnone
    | none =>
      -- the places of the rest are one further on
      simp only [ih, hshift]
      constructor
      · rintro ⟨i, a', hi, hfound, hbefore⟩
        refine ⟨i + 1, a', by simpa using hi, hfound, ?_⟩
        intro j hj a'' hj'
        cases j with
        | zero =>
          obtain rfl : a = a'' := by simpa using hj'
          exact ha
        | succ j => exact hbefore j (by omega) a'' (by simpa using hj')
      · rintro ⟨i, a', hi, hfound, hbefore⟩
        cases i with
        | zero =>
          obtain rfl : a = a' := by simpa using hi
          rw [Nat.add_zero, ha] at hfound
          cases hfound
        | succ i =>
          refine ⟨i, a', by simpa using hi, hfound, ?_⟩
          intro j hj a'' hj'
          exact hbefore (j + 1) (by omega) a'' (by simpa using hj')

end FlowParity
