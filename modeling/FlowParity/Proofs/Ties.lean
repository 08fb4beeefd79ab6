import FlowParity.Proofs.Chaining
/-!
# Ties

Records of one key with equal spans stay in the order in which they came. Here it is
settled what that order decides. The entries of the flows of a key, spans and
what they bring to a measure, are the same in every order of the records
(`entries_flowsOf_perm`) as long as `TiesAgree`: where a record too short to be
continued is itself the continuation of another, all records that tie with it
bring the same.

Two sorted arrangements differ by swaps of neighbours that tie
(`of_tie_swaps`), so one swap has to be looked at. A tie between records that
are long enough lies inside a chain, where absorption does not mind the order
(`Alike.swap`). Otherwise either both records are flows of their own, and
only the order of the flows changes, or the first completes a chain and the
second does not. In that case alone the order tells, and there they agree.
-/

namespace FlowParity

section Swaps

variable {α : Type} {le : α → α → Prop} {P : List α → Prop}

/-- What swaps of ties keep is kept when an element that ties with all before it is
brought to the front. -/
theorem of_tie_front
    (hswap : ∀ l a b m, le a b → le b a → P (l ++ a :: b :: m) → P (l ++ b :: a :: m))
    {u m : List α} {y : α} (htie : ∀ x ∈ u, le x y ∧ le y x) (l : List α)
    (h : P (l ++ (u ++ y :: m))) : P (l ++ y :: (u ++ m)) := by
  induction u generalizing l with
  | nil => exact h
  | cons x u ih =>
    obtain ⟨hxy, hyx⟩ := htie x (by simp)
    have hmoved : P ((l ++ [x]) ++ y :: (u ++ m)) :=
      ih (fun z hz => htie z (by simp [hz])) (l ++ [x]) (by simpa using h)
    exact hswap l x y (u ++ m) hxy hyx (by simpa using hmoved)

/-- **Sorted arrangements are connected by swaps of neighbours that tie.** What
one arrangement has and every such swap keeps, the other has as well. -/
theorem of_tie_swaps
    (hswap : ∀ l a b m, le a b → le b a → P (l ++ a :: b :: m) → P (l ++ b :: a :: m))
    {xs ys : List α} (hperm : xs.Perm ys) (hxs : xs.Pairwise le) (hys : ys.Pairwise le)
    (h : P xs) : P ys := by
  induction ys generalizing xs P with
  | nil => rwa [← hperm.eq_nil]
  | cons y ys ih =>
    obtain ⟨u, m, rfl⟩ := List.append_of_mem (hperm.mem_iff.2 (List.mem_cons_self (a := y)))
    obtain ⟨-, -, hum⟩ := List.pairwise_append.1 hxs
    obtain ⟨hy, hys⟩ := List.pairwise_cons.1 hys
    have hrest : (u ++ m).Perm ys := (List.perm_middle.symm.trans hperm).cons_inv
    have htie : ∀ x ∈ u, le x y ∧ le y x := fun x hx =>
      ⟨hum x hx y List.mem_cons_self, hy x (hrest.mem_iff.1 (by simp [hx]))⟩
    have hfront : P ([] ++ y :: (u ++ m)) := of_tie_front hswap htie [] h
    refine ih (P := fun l => P (y :: l)) (fun l a b m' => hswap (y :: l) a b m') hrest ?_ hys
      hfront
    exact hxs.sublist ((List.sublist_cons_self y m).append_left u)

end Swaps

/-- The span of a record and what it adds to a measure. -/
def Measure.entry (m : Measure) (r : Record) : Span × Counter := (r.span, m.value r)

theorem Measure.entry_absorb {m : Measure} (hm : m ≠ .flows) (a b : Record) :
    m.entry (a.absorb b) = (a.span.hull b.span, m.value a + m.value b) := by
  rw [entry, Record.span_absorb, value_absorb hm]

namespace Reconciliation

variable {t : Timeouts} {m : Measure} {rs rs' : List Record} {a b : Record}

/-! ## Lists that are cut alike -/

/-- Two lists that no record before them can tell apart by the entries of their flows. -/
structure Alike (t : Timeouts) (m : Measure) (x y : List Record) : Prop where
  /-- Their first spans are the same. -/
  head : x.head?.map Record.span = y.head?.map Record.span
  /-- And so are the entries of their flows. -/
  entries : (flowsAlong t x).map m.entry = (flowsAlong t y).map m.entry

theorem Alike.refl (x : List Record) : Alike t m x x := ⟨rfl, rfl⟩

/-- Records with one entry may be put before them. -/
theorem Alike.cons (hm : m ≠ .flows) {x y : List Record} (h : Alike t m x y)
    (hab : m.entry a = m.entry b) : Alike t m (a :: x) (b :: y) := by
  have hspan : a.span = b.span := congrArg Prod.fst hab
  have hvalue : m.value a = m.value b := congrArg Prod.snd hab
  refine ⟨by simp [hspan], ?_⟩
  have hhead := h.head
  have hentries := h.entries
  cases x with
  | nil =>
    cases y with
    | nil => simp [hab]
    | cons d y => simp at hhead
  | cons c x =>
    cases y with
    | nil => simp at hhead
    | cons d y =>
      have hcd : c.span = d.span := by simpa using hhead
      have hcontinues : continues t a c = continues t b d := by
        rw [continues_eq, continues_eq, hspan, hcd]
      cases hac : continues t a c with
      | false =>
        rw [flowsAlong_cons_of_false hac, flowsAlong_cons_of_false (hcontinues ▸ hac),
          List.map_cons, List.map_cons, hab, hentries]
      | true =>
        obtain ⟨f, fs, hf⟩ := exists_flowsAlong_cons t c x
        obtain ⟨g, gs, hg⟩ := exists_flowsAlong_cons t d y
        rw [hf, hg, List.map_cons, List.map_cons, List.cons.injEq] at hentries
        have hspan' : f.span = g.span := congrArg Prod.fst hentries.1
        have hvalue' : m.value f = m.value g := congrArg Prod.snd hentries.1
        rw [flowsAlong_cons_of_true hac hf, flowsAlong_cons_of_true (hcontinues ▸ hac) hg,
          List.map_cons, List.map_cons, Measure.entry_absorb hm, Measure.entry_absorb hm,
          hentries.2, hspan, hvalue, hspan', hvalue']

theorem Alike.append (hm : m ≠ .flows) {x y : List Record} (h : Alike t m x y)
    (l : List Record) : Alike t m (l ++ x) (l ++ y) := by
  induction l with
  | nil => exact h
  | cons c l ih => exact ih.cons hm rfl

/-- **Inside a chain a tie is not noticed.** -/
theorem Alike.swap (hm : m ≠ .flows) (hab : a.span = b.span) (h : continues t a a)
    (l : List Record) : Alike t m (a :: b :: l) (b :: a :: l) := by
  have hcongr : ∀ x y : Record, x.span = a.span → y.span = a.span → continues t x y := by
    intro x y hx hy
    rwa [continues_eq, hx, hy, ← continues_eq]
  have h₁ : continues t a b := hcongr a b rfl hab.symm
  have h₂ : continues t b a := hcongr b a hab.symm rfl
  refine ⟨by simp [hab], ?_⟩
  cases l with
  | nil =>
    rw [flowsAlong_cons_of_true h₁ (flowsAlong_singleton b),
      flowsAlong_cons_of_true h₂ (flowsAlong_singleton a), List.map_cons, List.map_cons,
      Measure.entry_absorb hm, Measure.entry_absorb hm, Span.hull_comm, add_comm]
  | cons c l =>
    have hcontinues : continues t a c = continues t b c := by
      rw [continues_eq, continues_eq, hab]
    cases hac : continues t a c with
    | false =>
      rw [flowsAlong_cons_of_true h₁ (flowsAlong_cons_of_false (hcontinues ▸ hac) l),
        flowsAlong_cons_of_true h₂ (flowsAlong_cons_of_false hac l), List.map_cons,
        List.map_cons, Measure.entry_absorb hm, Measure.entry_absorb hm, Span.hull_comm, add_comm]
    | true =>
      obtain ⟨f, fs, hf⟩ := exists_flowsAlong_cons t c l
      rw [flowsAlong_cons_of_true h₁ (flowsAlong_cons_of_true (hcontinues ▸ hac) hf),
        flowsAlong_cons_of_true h₂ (flowsAlong_cons_of_true hac hf), List.map_cons,
        List.map_cons, Measure.entry_absorb hm, Measure.entry_absorb hm, Record.span_absorb,
        Record.span_absorb, Measure.value_absorb hm, Measure.value_absorb hm,
        Span.hull_left_comm, add_left_comm]

/-- **What a swap of two neighbours that tie does.** The entries of the flows
stay the same if the two are in one chain or bring the same, or if the first of
them starts a chain: then each is a flow of its own. -/
theorem entries_swap (hm : m ≠ .flows) {l r : List Record} (ha : a.isOrdered)
    (hab : a.span = b.span)
    (h : continues t a a ∨ m.value a = m.value b ∨ ∀ p ∈ l.getLast?, continues t p a = false) :
    ((flowsAlong t (l ++ a :: b :: r)).map m.entry).Perm
      ((flowsAlong t (l ++ b :: a :: r)).map m.entry) := by
  by_cases hself : continues t a a
  · exact List.Perm.of_eq ((Alike.swap hm hab hself r).append hm l).entries
  rcases h with h | hvalue | hfirst
  · exact absurd h hself
  · have hentry : m.entry a = m.entry b := by rw [Measure.entry, Measure.entry, hab, hvalue]
    have halike := ((Alike.refl (t := t) r).cons hm hentry.symm).cons hm hentry
    exact List.Perm.of_eq (halike.append hm l).entries
  · -- what its own span does not continue, no span does
    have halone : ∀ x : Record, x.span = a.span → ∀ q, continues t x q = false := by
      intro x hx q
      rw [Bool.eq_false_iff, continues_eq, hx]
      rw [continues_eq] at hself
      exact fun hq => hself (Timeouts.joins_self (Record.forward_span ha) hq)
    have hflows : ∀ x y : Record, x.span = a.span → y.span = a.span →
        flowsAlong t (l ++ x :: y :: r) = flowsAlong t l ++ x :: y :: flowsAlong t r := by
      intro x y hx hy
      have hcut : ∀ p ∈ l.getLast?, ∀ q ∈ (x :: y :: r).head?, continues t p q = false := by
        intro p hp q hq
        rw [← Option.mem_some.1 hq, continues_eq, hx, ← continues_eq]
        exact hfirst p hp
      rw [flowsAlong_append hcut, flowsAlong_cons_alone (halone x hx),
        flowsAlong_cons_alone (halone y hy)]
    rw [hflows a b rfl hab.symm, hflows b a hab.symm rfl]
    exact ((List.Perm.swap b a _).append_left _).map _

/-! ## When the order tells -/

/-- The first record comes before the second in the order of the spans of their
key, and no other span lies between theirs. -/
def Precedes (rs : List Record) (p a : Record) : Prop :=
  p.key = a.key ∧ spanLe p a ∧ ∀ q ∈ rs, q.key = a.key → spanLe q p ∨ spanLe a q

/-- **Ties agree on a measure** if the order of records with equal spans cannot
tell: where a record that is too short to be continued continues the one before
it, all records with its key and its span bring the same. -/
def TiesAgree (t : Timeouts) (m : Measure) (rs : List Record) : Prop :=
  ∀ p ∈ rs, ∀ a ∈ rs, ∀ b ∈ rs, Precedes rs p a → continues t p a → ¬ t.Reaches a.span →
    b.key = a.key → b.span = a.span → m.value b = m.value a

instance (rs : List Record) (p a : Record) : Decidable (Precedes rs p a) :=
  inferInstanceAs (Decidable (_ ∧ _ ∧ _))

instance (t : Timeouts) (m : Measure) (rs : List Record) : Decidable (TiesAgree t m rs) :=
  inferInstanceAs (Decidable (∀ p ∈ rs, ∀ a ∈ rs, ∀ b ∈ rs, _))

/-- To precede a record is to precede all that tie with it. -/
theorem Precedes.congr {p : Record} (h : Precedes rs p a) (hkey : b.key = a.key)
    (hspan : b.span = a.span) : Precedes rs p b := by
  simpa only [Precedes, spanLe_eq, hkey, hspan] using h

variable {k : Key} {l r : List Record}

/-- In a sorted arrangement of the records of a key each is preceded by its neighbour. -/
theorem precedes_of_sorted (hperm : (l ++ a :: r).Perm (pieces rs k))
    (hs : Span.Sorted ((l ++ a :: r).map Record.span)) {p : Record} (hp : p ∈ l.getLast?) :
    Precedes rs p a := by
  have hkey : ∀ q ∈ l ++ a :: r, q.key = k := fun q hq => (mem_pieces.1 (hperm.mem_iff.1 hq)).2
  obtain ⟨u, rfl⟩ := List.getLast?_eq_some_iff.1 hp
  obtain ⟨hup, har, hcross⟩ := List.pairwise_append.1 (List.pairwise_map.1 hs)
  have hbefore := (List.pairwise_append.1 hup).2.2
  have hafter := (List.pairwise_cons.1 har).1
  have hpk : p.key = k := hkey p (by simp)
  have hak : a.key = k := hkey a (by simp)
  refine ⟨hpk.trans hak.symm, hcross p (by simp) a (by simp), fun q hq hqk => ?_⟩
  have hmem : q ∈ u ++ [p] ++ a :: r :=
    hperm.mem_iff.2 (mem_pieces.2 ⟨hq, hqk.trans hak⟩)
  rcases List.mem_append.1 hmem with hq | hq
  · rcases List.mem_append.1 hq with hq | hq
    · exact Or.inl (hbefore q hq p (by simp))
    · rw [List.mem_singleton.1 hq]
      exact Or.inl (Span.le_refl p.span)
  · rcases List.mem_cons.1 hq with rfl | hq
    · exact Or.inr (Span.le_refl q.span)
    · exact Or.inr (hafter q hq)

/-- Where ties agree, two that tie are in one chain or bring the same, if the
record before them is continued. -/
theorem TiesAgree.continues_or_eq (hties : TiesAgree t m rs) (hordered : ∀ r ∈ rs, r.isOrdered)
    {p : Record} (hp : p ∈ rs) (ha : a ∈ rs) (hb : b ∈ rs) (hpre : Precedes rs p a)
    (hpa : continues t p a) (hkey : b.key = a.key) (hspan : b.span = a.span) :
    continues t a a ∨ m.value a = m.value b := by
  have hforward := Record.forward_span (hordered a ha)
  rw [continues_eq, Timeouts.joins_iff hforward]
  by_cases hreaches : t.Reaches a.span
  · have hinactive := hpa
    rw [continues_eq, Timeouts.joins_iff (Record.forward_span (hordered p hp))] at hinactive
    rw [Span.Forward] at hforward
    exact Or.inl ⟨hreaches, hinactive.2.1, Or.inl (by omega)⟩
  · exact Or.inr (hties p hp a ha b hb hpre hpa hreaches hkey hspan).symm

/-- **Where ties agree, the flows of a key bring the same in every order of the records.** -/
theorem entries_flowsOf_perm (hm : m ≠ .flows) (hordered : ∀ r ∈ rs, r.isOrdered)
    (hties : TiesAgree t m rs) (h : rs.Perm rs') (k : Key) :
    ((flowsOf t rs k).map m.entry).Perm ((flowsOf t rs' k).map m.entry) := by
  -- every sorted arrangement is reached from the first by swaps of ties, and each keeps `P`
  let P : List Record → Prop := fun l => l.Perm (pieces rs k) ∧
    Span.Sorted (l.map Record.span) ∧
    ((flowsOf t rs k).map m.entry).Perm ((flowsAlong t l).map m.entry)
  have hswap : ∀ l a b r, a.span.le b.span → b.span.le a.span →
      P (l ++ a :: b :: r) → P (l ++ b :: a :: r) := by
    rintro l a b r hle hge ⟨hperm, hs, hentries⟩
    have hab : a.span = b.span := Span.le_antisymm hle hge
    have hmap : (l ++ b :: a :: r).map Record.span = (l ++ a :: b :: r).map Record.span := by
      simp [hab]
    have hmem : ∀ q ∈ l ++ a :: b :: r, q ∈ rs ∧ q.key = k := fun q hq =>
      mem_pieces.1 (hperm.mem_iff.1 hq)
    obtain ⟨ha, hak⟩ := hmem a (by simp)
    obtain ⟨hb, hbk⟩ := hmem b (by simp)
    have htell : continues t a a ∨ m.value a = m.value b ∨
        ∀ p ∈ l.getLast?, continues t p a = false := by
      by_cases hfirst : ∀ p ∈ l.getLast?, continues t p a = false
      · exact Or.inr (Or.inr hfirst)
      · -- the first of them completes a chain
        simp only [not_forall, Bool.not_eq_false] at hfirst
        obtain ⟨p, hp, hpa⟩ := hfirst
        have hpmem := (hmem p (by simp [List.mem_of_mem_getLast? hp])).1
        rw [← or_assoc]
        exact Or.inl (hties.continues_or_eq hordered hpmem ha hb (precedes_of_sorted hperm hs hp)
          hpa (hbk.trans hak.symm) hab.symm)
    exact ⟨((List.Perm.swap a b r).append_left l).trans hperm, hmap ▸ hs,
      hentries.trans (entries_swap hm (hordered a ha) hab htell)⟩
  have hperm : (pieces rs k).Perm (pieces rs' k) :=
    (pieces_perm rs k).trans ((h.filter _).trans (pieces_perm rs' k).symm)
  have hstart : P (pieces rs k) :=
    ⟨List.Perm.refl _, sorted_pieces rs k, by rw [flowsOf_eq]⟩
  exact (of_tie_swaps hswap hperm (pieces_pairwise rs k) (pieces_pairwise rs' k) hstart).2.2

end Reconciliation

end FlowParity
