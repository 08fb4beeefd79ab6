import FlowParity.Proofs.Grouping
/-!
# Chaining

Where the pieces of a key are cut, and how often. The test for continuation
reads spans only, so the chains of a key have the spans that the sorted spans of
the key are cut into (`map_span_chains`), whatever order the records came in.
A key with records has one flow more than it has cuts (`length_flowsOf_eq`), and
the cuts of a list are those of its two parts and the one at the seam
(`cuts_append`). The flows along a list follow its recursion: a record that is
continued absorbs the first flow after it, any other one is a flow of its own
(`flowsAlong_cons_of_true`, `flowsAlong_cons_of_false`).
-/

namespace FlowParity

section Splitting

variable {α β : Type} {r : α → α → Bool}

/-- Splitting and mapping commute if on the elements of the list the relation reads only what the
map keeps. -/
theorem map_splitBy_of_mem {s : β → β → Bool} {f : α → β} {l : List α}
    (h : ∀ a ∈ l, ∀ b ∈ l, r a b = s (f a) (f b)) :
    (l.splitBy r).map (List.map f) = (l.map f).splitBy s := by
  have hmem : ∀ c ∈ l.splitBy r, ∀ a ∈ c, a ∈ l := fun c hc a ha =>
    List.flatten_splitBy r l ▸ List.mem_flatten.2 ⟨c, hc, ha⟩
  symm
  rw [List.splitBy_eq_iff]
  refine ⟨?_, ?_, ?_, ?_⟩
  · rw [← List.map_flatten, List.flatten_splitBy]
  · intro hnil
    obtain ⟨c, hc, hnil⟩ := List.mem_map.1 hnil
    exact List.ne_nil_of_mem_splitBy hc (List.map_eq_nil_iff.1 hnil)
  · intro m hm
    obtain ⟨c, hc, rfl⟩ := List.mem_map.1 hm
    rw [List.isChain_map]
    refine (List.isChain_of_mem_splitBy hc).imp_of_mem_imp fun a b ha hb hab => ?_
    rwa [← h a (hmem c hc a ha) b (hmem c hc b hb)]
  · rw [List.isChain_map]
    refine (List.isChain_getLast_head_splitBy r l).imp_of_mem_imp fun c d hcs hds hcd => ?_
    obtain ⟨hc, hd, hcut⟩ := hcd
    refine ⟨by simpa using hc, by simpa using hd, ?_⟩
    rw [List.getLast_map, List.head_map, ← h _ (hmem c hcs _ (List.getLast_mem hc)) _
      (hmem d hds _ (List.head_mem hd))]
    exact hcut

/-- Splitting and mapping commute if the relation reads only what the map keeps. -/
theorem map_splitBy {s : β → β → Bool} {f : α → β} (h : ∀ a b, r a b = s (f a) (f b))
    (l : List α) : (l.splitBy r).map (List.map f) = (l.map f).splitBy s :=
  map_splitBy_of_mem fun a _ b _ => h a b

theorem splitBy_cons_of_false {a b : α} (h : r a b = false) (l : List α) :
    (a :: b :: l).splitBy r = [a] :: (b :: l).splitBy r := by
  have hsplit : ([a] ++ b :: l).splitBy r = [a].splitBy r ++ (b :: l).splitBy r :=
    List.splitBy_append_cons l (by simpa using h)
  exact hsplit

/-- A non-empty list has a first chain, which its first element starts. -/
theorem exists_splitBy_cons (r : α → α → Bool) (b : α) (l : List α) :
    ∃ c cs, (b :: l).splitBy r = (b :: c) :: cs := by
  have hne : (b :: l).splitBy r ≠ [] := by simp
  obtain ⟨c, cs, hs⟩ := List.exists_cons_of_ne_nil hne
  have hflat := List.flatten_splitBy r (b :: l)
  have hc : c ≠ [] := List.ne_nil_of_mem_splitBy (hs ▸ List.mem_cons_self)
  obtain ⟨x, c, rfl⟩ := List.exists_cons_of_ne_nil hc
  rw [hs, List.flatten_cons, List.cons_append, List.cons.injEq] at hflat
  exact ⟨c, cs, by rw [hs, hflat.1]⟩

theorem splitBy_cons_of_true {a b : α} (h : r a b = true) {l c : List α} {cs : List (List α)}
    (hs : (b :: l).splitBy r = (b :: c) :: cs) :
    (a :: b :: l).splitBy r = (a :: b :: c) :: cs := by
  rw [List.splitBy_eq_iff] at hs ⊢
  obtain ⟨hflat, hnil, hchain, hcut⟩ := hs
  refine ⟨?_, ?_, ?_, ?_⟩
  · rw [hflat]
    rfl
  · simpa using hnil
  · intro m hm
    rcases List.mem_cons.1 hm with rfl | hm
    · exact List.IsChain.cons_cons h (hchain _ (by simp))
    · exact hchain m (by simp [hm])
  · cases cs with
    | nil => simp
    | cons d cs =>
      obtain ⟨hd, hrest⟩ := List.isChain_cons_cons.1 hcut
      obtain ⟨hl, hr, hlast⟩ := hd
      refine List.IsChain.cons_cons ⟨by simp, hr, ?_⟩ hrest
      rw [List.getLast_cons hl]
      exact hlast

/-! ## Counting cuts -/

/-- One if there is a cut between two neighbours, none where one is missing. -/
def seam (r : α → α → Bool) : Option α → Option α → Nat
  | some a, some b => if r a b then 0 else 1
  | _, _ => 0

/-- The number of cuts between neighbours of a list. -/
def cuts (r : α → α → Bool) : List α → Nat
  | [] => 0
  | a :: l => seam r (some a) l.head? + cuts r l

@[simp] theorem seam_none_left (b : Option α) : seam r none b = 0 := by
  cases b <;> rfl

@[simp] theorem seam_none_right (a : Option α) : seam r a none = 0 := by
  cases a <;> rfl

theorem seam_eq_zero {a b : α} (h : r a b) : seam r (some a) (some b) = 0 := by
  simp [seam, h]

theorem seam_map {s : β → β → Bool} {f : α → β} (h : ∀ a b, r a b = s (f a) (f b))
    (a b : Option α) : seam s (a.map f) (b.map f) = seam r a b := by
  cases a <;> cases b <;> simp [seam, h]

/-- **The cuts of a list are those of its parts and the one at the seam.** -/
theorem cuts_append (l m : List α) :
    cuts r (l ++ m) = cuts r l + seam r l.getLast? m.head? + cuts r m := by
  induction l with
  | nil => simp [cuts]
  | cons a l ih =>
    rw [List.cons_append, cuts, ih, cuts]
    cases l with
    | nil => simp [cuts]
    | cons b l =>
      rw [List.cons_append, List.head?_cons, List.head?_cons, List.getLast?_cons_cons]
      omega

/-- A list in which every neighbour is continued has no cuts. -/
theorem cuts_eq_zero {l : List α} (h : l.IsChain fun a b => r a b) : cuts r l = 0 := by
  induction l with
  | nil => rfl
  | cons a l ih =>
    rw [cuts, ih h.tail, Nat.add_zero]
    cases l with
    | nil => rfl
    | cons b l => exact seam_eq_zero (List.isChain_cons_cons.1 h).1

/-- **A non-empty list has one chain more than it has cuts.** -/
theorem length_splitBy (r : α → α → Bool) (a : α) (l : List α) :
    ((a :: l).splitBy r).length = cuts r (a :: l) + 1 := by
  induction l generalizing a with
  | nil => rfl
  | cons b l ih =>
    rw [cuts, List.head?_cons]
    cases h : r a b with
    | false =>
      have hone : seam r (some a) (some b) = 1 := by simp [seam, h]
      rw [splitBy_cons_of_false h, List.length_cons, ih b, hone]
      omega
    | true =>
      obtain ⟨c, cs, hs⟩ := exists_splitBy_cons r b l
      rw [splitBy_cons_of_true h hs, seam_eq_zero h, Nat.zero_add, ← ih b, hs, List.length_cons,
        List.length_cons]

end Splitting

namespace Reconciliation

variable {t : Timeouts} {rs rs' : List Record} {k : Key}

/-- **The chains of a key have the spans that its sorted spans are cut into.** -/
theorem map_span_chains (t : Timeouts) (rs : List Record) (k : Key) :
    (chains t rs k).map (List.map Record.span) =
      ((pieces rs k).map Record.span).splitBy t.joins :=
  map_splitBy (continues_eq t) _

/-- So reordering the records leaves the spans of the chains as they were. -/
theorem map_span_chains_perm (h : rs.Perm rs') :
    (chains t rs k).map (List.map Record.span) = (chains t rs' k).map (List.map Record.span) := by
  rw [map_span_chains, map_span_chains, map_span_pieces_perm h]

/-- The spans of the flows of a key are the hulls of its chains. -/
theorem map_span_flowsOf (t : Timeouts) (rs : List Record) (k : Key) :
    (flowsOf t rs k).map Record.span =
      ((chains t rs k).map (List.map Record.span)).filterMap hull? := by
  rw [flowsOf, List.map_filterMap, List.filterMap_map]
  exact List.filterMap_congr fun c _ => map_span_flow? c

/-- **A key with records has one flow more than it has cuts.** -/
theorem length_flowsOf_eq {ss : List Span} (hs : (pieces rs k).map Record.span = ss)
    (hne : ss ≠ []) : (flowsOf t rs k).length = cuts t.joins ss + 1 := by
  obtain ⟨s, ss, rfl⟩ := List.exists_cons_of_ne_nil hne
  rw [length_flowsOf, ← length_splitBy, ← hs, ← map_span_chains, List.length_map]

/-! ## Flows along a list -/

/-- The flows that a list of records is cut into as it stands. -/
def flowsAlong (t : Timeouts) (l : List Record) : List Record :=
  (l.splitBy (continues t)).filterMap flow?

theorem flowsOf_eq (t : Timeouts) (rs : List Record) (k : Key) :
    flowsOf t rs k = flowsAlong t (pieces rs k) := rfl

/-- A quantity that absorption adds up has over the flows its sum over the list. -/
theorem sum_flowsAlong {M : Type} [AddCommMonoid M] {v : Record → M}
    (hv : ∀ a b : Record, a.key = b.key → v (a.absorb b) = v a + v b) {l : List Record}
    (hk : ∀ r ∈ l, r.key = k) : ((flowsAlong t l).map v).sum = (l.map v).sum := by
  have hkeys : ∀ c ∈ l.splitBy (continues t), ∃ k, ∀ r ∈ c, r.key = k := fun c hc =>
    ⟨k, fun r hr => hk r (List.flatten_splitBy (continues t) l ▸ List.mem_flatten.2 ⟨c, hc, hr⟩)⟩
  rw [flowsAlong, sum_filterMap_flow? hv hkeys, List.flatten_splitBy]

@[simp] theorem flowsAlong_nil : flowsAlong t [] = [] := rfl

@[simp] theorem flowsAlong_singleton (a : Record) : flowsAlong t [a] = [a] := rfl

/-- A cut divides the flows. -/
theorem flowsAlong_append {l m : List Record}
    (h : ∀ p ∈ l.getLast?, ∀ q ∈ m.head?, continues t p q = false) :
    flowsAlong t (l ++ m) = flowsAlong t l ++ flowsAlong t m := by
  rw [flowsAlong, List.splitBy_append h, List.filterMap_append]
  rfl

theorem flowsAlong_cons_of_false {a b : Record} (h : continues t a b = false) (l : List Record) :
    flowsAlong t (a :: b :: l) = a :: flowsAlong t (b :: l) := by
  rw [flowsAlong, splitBy_cons_of_false h]
  rfl

/-- A record that nothing continues is a flow of its own. -/
theorem flowsAlong_cons_alone {a : Record} (h : ∀ b, continues t a b = false) (l : List Record) :
    flowsAlong t (a :: l) = a :: flowsAlong t l := by
  have hcut : flowsAlong t ([a] ++ l) = flowsAlong t [a] ++ flowsAlong t l :=
    flowsAlong_append fun p hp q _ => by
      rw [← Option.mem_some.1 hp]
      exact h q
  exact hcut

theorem exists_flowsAlong_cons (t : Timeouts) (b : Record) (l : List Record) :
    ∃ f fs, flowsAlong t (b :: l) = f :: fs := by
  obtain ⟨c, cs, hs⟩ := exists_splitBy_cons (continues t) b l
  exact ⟨c.foldl Record.absorb b, cs.filterMap flow?, by rw [flowsAlong, hs]; rfl⟩

/-- **A record that is continued absorbs the first flow after it.** -/
theorem flowsAlong_cons_of_true {a b f : Record} {l fs : List Record} (h : continues t a b)
    (hf : flowsAlong t (b :: l) = f :: fs) : flowsAlong t (a :: b :: l) = a.absorb f :: fs := by
  obtain ⟨c, cs, hs⟩ := exists_splitBy_cons (continues t) b l
  have hflow : flow? (b :: c) = some (c.foldl Record.absorb b) := rfl
  have hmore : flow? (a :: b :: c) = some (a.absorb (c.foldl Record.absorb b)) :=
    congrArg some List.foldl_assoc
  rw [flowsAlong, hs, List.filterMap_cons_some hflow, List.cons.injEq] at hf
  rw [flowsAlong, splitBy_cons_of_true h hs, List.filterMap_cons_some hmore, hf.1, hf.2]

/-- Flows start no earlier than the records they are made of. -/
theorem le_spanStart_flowsAlong {s : Timestamp} {l : List Record} (hl : ∀ r ∈ l, s.ms ≤ r.spanStart.ms) :
    ∀ f ∈ flowsAlong t l, s.ms ≤ f.spanStart.ms := by
  induction l with
  | nil => simp
  | cons a l ih =>
    obtain ⟨ha, hl⟩ := List.forall_mem_cons.1 hl
    cases l with
    | nil => simpa using ha
    | cons b l =>
      have ih := ih hl
      cases hab : continues t a b with
      | false =>
        rw [flowsAlong_cons_of_false hab]
        exact List.forall_mem_cons.2 ⟨ha, ih⟩
      | true =>
        obtain ⟨f, fs, hf⟩ := exists_flowsAlong_cons t b l
        rw [hf] at ih
        obtain ⟨hfirst, hrest⟩ := List.forall_mem_cons.1 ih
        rw [flowsAlong_cons_of_true hab hf]
        refine List.forall_mem_cons.2 ⟨?_, hrest⟩
        rw [Record.spanStart_absorb, Millis.ms_min]
        exact le_min ha hfirst

/-- Records of one key that are sorted already are the pieces of that key. -/
theorem pieces_of_sorted (hk : ∀ r ∈ rs, r.key = k) (hs : rs.Pairwise fun a b => spanLe a b) :
    pieces rs k = rs := by
  rw [pieces, List.filter_eq_self.2 fun r hr => by simp [hk r hr], List.mergeSort_of_pairwise hs]

/-- **The flows of such records** are read off the list as it stands. -/
theorem flows_of_sorted (hne : rs ≠ []) (hk : ∀ r ∈ rs, r.key = k)
    (hs : rs.Pairwise fun a b => spanLe a b) :
    (ofOrdered t rs).flows = flowsAlong t rs := by
  have hmem : ∀ x, x ∈ keysOf rs ↔ x ∈ [k] := by
    intro x
    rw [mem_keysOf, List.mem_singleton]
    constructor
    · rintro ⟨r, hr, rfl⟩
      exact hk r hr
    · rintro rfl
      obtain ⟨r, rs, rfl⟩ := List.exists_cons_of_ne_nil hne
      exact ⟨r, by simp, hk r (by simp)⟩
  have hkeys : keysOf rs = [k] := List.perm_singleton.1
    ((List.perm_ext_iff_of_nodup (nodup_keysOf rs) (List.nodup_singleton k)).2 hmem)
  rw [flows_ofOrdered, hkeys, List.flatMap_singleton, flowsOf_eq, pieces_of_sorted hk hs]

end Reconciliation

end FlowParity
