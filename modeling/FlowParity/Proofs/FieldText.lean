import FlowParity.Flow.Layout
import Mathlib.Data.List.TakeWhile
/-!
# Text in fields

What splitting, trimming and quoting leave of a text. Pieces that were joined are split again,
blanks around a line are blanks around its outer fields, and a field gives back the content that
was put into it, with blanks around it and perhaps in double quotes.
-/

namespace FlowParity.Text

variable {p : Char → Bool} {sep : Char} {s l r : List Char}

/-! ## Pieces -/

theorem split_of_not_mem (hs : sep ∉ s) : split sep s = [s] := by
  induction s with
  | nil => rfl
  | cons c s ih =>
    rw [List.mem_cons, not_or] at hs
    rw [split, if_neg (Ne.symm hs.1), ih hs.2]

theorem split_append_cons (hs : sep ∉ s) (t : List Char) :
    split sep (s ++ sep :: t) = s :: split sep t := by
  induction s with
  | nil => rw [List.nil_append, split, if_pos rfl]
  | cons c s ih =>
    rw [List.mem_cons, not_or] at hs
    rw [List.cons_append, split, if_neg (Ne.symm hs.1), ih hs.2]

/-- **Joined pieces are split again**, if none of them has the separator in it. -/
theorem split_join {pieces : List (List Char)} (hne : pieces ≠ [])
    (hpieces : ∀ piece ∈ pieces, sep ∉ piece) : split sep (join sep pieces) = pieces := by
  induction pieces with
  | nil => exact absurd rfl hne
  | cons piece pieces ih =>
    rw [List.forall_mem_cons] at hpieces
    cases pieces with
    | nil => exact split_of_not_mem hpieces.1
    | cons next pieces =>
      rw [join, split_append_cons hpieces.1, ih (List.cons_ne_nil _ _) hpieces.2]

theorem not_mem_of_mem_split : ∀ piece ∈ split sep s, sep ∉ piece := by
  induction s with
  | nil => simp [split]
  | cons c s ih =>
    rw [split]
    split
    · exact List.forall_mem_cons.2 ⟨List.not_mem_nil, ih⟩
    · rename_i hc
      split
      · simpa using Ne.symm hc
      · rename_i piece pieces hsplit
        rw [hsplit, List.forall_mem_cons] at ih
        exact List.forall_mem_cons.2 ⟨by simpa using ⟨Ne.symm hc, ih.1⟩, ih.2⟩

/-- Nothing but the separator comes between the pieces. -/
theorem eq_or_exists_of_mem_join {pieces : List (List Char)} {c : Char}
    (hc : c ∈ join sep pieces) : c = sep ∨ ∃ piece ∈ pieces, c ∈ piece := by
  induction pieces with
  | nil => cases hc
  | cons piece pieces ih =>
    cases pieces with
    | nil => exact .inr ⟨piece, List.mem_cons_self, hc⟩
    | cons next pieces =>
      rw [join, List.mem_append, List.mem_cons] at hc
      rcases hc with hc | hc | hc
      · exact .inr ⟨piece, List.mem_cons_self, hc⟩
      · exact .inl hc
      · refine (ih hc).imp_right fun hpieces => ?_
        obtain ⟨piece', hpiece, hmem⟩ := hpieces
        exact ⟨piece', List.mem_cons_of_mem _ hpiece, hmem⟩

/-- Pieces with the separator after each of them. -/
theorem join_append_nil (pieces : List (List Char)) :
    join sep (pieces ++ [[]]) = pieces.flatMap (· ++ [sep]) := by
  induction pieces with
  | nil => rfl
  | cons piece pieces ih =>
    have hcons : ∀ rest, rest ≠ [] → join sep (piece :: rest) = piece ++ sep :: join sep rest := by
      intro rest hrest
      obtain ⟨next, rest, rfl⟩ := List.exists_cons_of_ne_nil hrest
      rfl
    rw [List.cons_append, hcons _ (List.append_ne_nil_of_right_ne_nil _ (List.cons_ne_nil _ _)), ih,
      List.flatMap_cons, List.append_assoc, List.singleton_append]

/-- What stands before the first separator, or after the last one, is part of the outer piece. -/
theorem exists_split_append_left (hl : sep ∉ l) :
    ∃ first rest, split sep s = first :: rest ∧ split sep (l ++ s) = (l ++ first) :: rest := by
  induction l with
  | nil =>
    cases h : split sep s with
    | nil => exact absurd h (split_ne_nil sep s)
    | cons first rest => exact ⟨first, rest, rfl, h⟩
  | cons c l ih =>
    rw [List.mem_cons, not_or] at hl
    obtain ⟨first, rest, hs, h⟩ := ih hl.2
    refine ⟨first, rest, hs, ?_⟩
    rw [List.cons_append, split, if_neg (Ne.symm hl.1), h]
    rfl

theorem exists_split_append_right (hr : sep ∉ r) :
    ∃ init last, split sep s = init ++ [last] ∧ split sep (s ++ r) = init ++ [last ++ r] := by
  induction s with
  | nil => exact ⟨[], [], rfl, split_of_not_mem hr⟩
  | cons c s ih =>
    obtain ⟨init, last, hs, h⟩ := ih
    by_cases hc : c = sep
    · refine ⟨[] :: init, last, ?_, ?_⟩
      · rw [split, if_pos hc, hs]
        rfl
      · rw [List.cons_append, split, if_pos hc, h]
        rfl
    · -- the character goes to the first piece, which may be the last one too
      rw [List.cons_append, split, if_neg hc, hs, split, if_neg hc, h]
      cases init with
      | nil => exact ⟨[], c :: last, rfl, rfl⟩
      | cons piece init => exact ⟨(c :: piece) :: init, last, rfl, rfl⟩

/-! ## Ends -/

/-- What is stripped off may as well be there or not. -/
theorem strip_append (hl : ∀ c ∈ l, p c = true) (hr : ∀ c ∈ r, p c = true) :
    strip p (l ++ s ++ r) = strip p s := by
  have hnone : r.dropWhile p = [] := List.dropWhile_eq_nil_iff.2 hr
  rw [strip, strip, List.append_assoc, List.dropWhile_append_of_pos hl, List.dropWhile_append]
  split
  · rename_i hs
    rw [hnone, List.isEmpty_iff.1 hs]
  · rw [List.reverse_append, List.dropWhile_append_of_pos (by simpa using hr)]

/-- Nothing is stripped off where nothing may be. -/
theorem strip_of_forall (hs : ∀ c ∈ s, p c = false) : strip p s = s := by
  have hdrop : ∀ t : List Char, (∀ c ∈ t, p c = false) → t.dropWhile p = t := by
    intro t ht
    cases t with
    | nil => rfl
    | cons c t => exact List.dropWhile_cons_of_neg (by simp [ht c List.mem_cons_self])
  rw [strip, hdrop s hs, hdrop _ (by simpa using hs), List.reverse_reverse]

variable (p s) in
/-- A text is what is left of it between what is stripped off. -/
theorem exists_strip : ∃ l r, (∀ c ∈ l, p c = true) ∧ (∀ c ∈ r, p c = true) ∧
    s = l ++ strip p s ++ r := by
  refine ⟨s.takeWhile p, ((s.dropWhile p).reverse.takeWhile p).reverse, ?_, ?_, ?_⟩
  · exact fun c hc => List.mem_takeWhile_imp hc
  · exact fun c hc => List.mem_takeWhile_imp (List.mem_reverse.1 hc)
  · rw [strip, List.append_assoc, ← List.reverse_append, List.takeWhile_append_dropWhile,
      List.reverse_reverse, List.takeWhile_append_dropWhile]

theorem mem_of_mem_trim {c : Char} (h : c ∈ trim s) : c ∈ s := by
  obtain ⟨l, r, -, -, hs⟩ := exists_strip isBlank s
  rw [hs]
  exact List.mem_append_left _ (List.mem_append_right _ h)

theorem trim_append (hl : ∀ c ∈ l, isBlank c = true) (hr : ∀ c ∈ r, isBlank c = true) :
    trim (l ++ s ++ r) = trim s :=
  strip_append hl hr

/-- What is left of a text does not start with what is stripped off. -/
theorem strip_eq_cons {c : Char} {rest : List Char} (h : strip p s = c :: rest) : p c = false := by
  have hrest : s.dropWhile p = c :: (rest ++ ((s.dropWhile p).reverse.takeWhile p).reverse) := by
    rw [← List.cons_append, ← h, strip, ← List.reverse_append, List.takeWhile_append_dropWhile,
      List.reverse_reverse]
  have hhead := List.head?_dropWhile_not p s
  rwa [hrest] at hhead

/-- A trimmed text stays as it is in front of one without blanks. -/
theorem trim_trim_append {t : List Char} (hs : trim s ≠ []) (hne : t ≠ [])
    (ht : ∀ c ∈ t, isBlank c = false) : trim (trim s ++ t) = trim s ++ t := by
  obtain ⟨c, rest, hcons⟩ := List.exists_cons_of_ne_nil hs
  obtain ⟨d, init, hreverse⟩ := List.exists_cons_of_ne_nil (mt List.reverse_eq_nil_iff.1 hne)
  have hc : isBlank c = false := strip_eq_cons hcons
  have hd : isBlank d = false := ht d (List.mem_reverse.1 (hreverse ▸ List.mem_cons_self))
  rw [hcons, trim, strip, List.cons_append, List.dropWhile_cons_of_neg (by simp [hc]),
    ← List.cons_append, List.reverse_append, hreverse, List.cons_append,
    List.dropWhile_cons_of_neg (by simp [hd]), ← List.cons_append, ← hreverse,
    ← List.reverse_append, List.reverse_reverse]

/-- **Blanks around a line are blanks around its fields**, so they need not be taken off it. -/
theorem map_trim_split_trim (hsep : isBlank sep = false) (s : List Char) :
    (split sep (trim s)).map trim = (split sep s).map trim := by
  obtain ⟨l, r, hl, hr, hs⟩ := exists_strip isBlank s
  have hnot : ∀ t : List Char, (∀ c ∈ t, isBlank c = true) → sep ∉ t := by
    intro t ht hmem
    rw [ht sep hmem] at hsep
    cases hsep
  obtain ⟨first, rest, hleft, hleft'⟩ := exists_split_append_left (s := strip isBlank s) (hnot l hl)
  obtain ⟨init, last, hright, hright'⟩ :=
    exists_split_append_right (s := l ++ strip isBlank s) (hnot r hr)
  have htrim : trim (last ++ r) = trim last := trim_append (l := []) (by simp) hr
  have htrim' : trim (l ++ first) = trim first := by
    simpa using trim_append (s := first) (r := []) hl (by simp)
  -- first the blanks in front are put back, then those behind
  calc (split sep (trim s)).map trim
      = (first :: rest).map trim := by rw [trim, hleft]
    _ = (split sep (l ++ strip isBlank s)).map trim := by
        rw [hleft', List.map_cons, List.map_cons, htrim']
    _ = (split sep (l ++ strip isBlank s ++ r)).map trim := by
        rw [hright, hright', List.map_append, List.map_append, List.map_singleton,
          List.map_singleton, htrim]
    _ = (split sep s).map trim := by rw [← hs]

/-! ## Fields -/

/-- A character that stands for itself wherever it is put in a table. -/
def IsPlain (c : Char) : Prop := isBlank c = false ∧ c ≠ '"' ∧ c ≠ ',' ∧ c ≠ '#'

instance (c : Char) : Decidable (IsPlain c) := inferInstanceAs (Decidable (_ ∧ _ ∧ _ ∧ _))

/-- Blanks that stay on their line. -/
def IsSpace (s : List Char) : Prop := ∀ c ∈ s, isBlank c = true ∧ c ≠ '\n'

/-- A text that ends neither a field nor a line. -/
def IsFree (s : List Char) : Prop := ',' ∉ s ∧ '\n' ∉ s

instance : Decidable (IsSpace s) :=
  List.decidableBAll (fun c => isBlank c = true ∧ c ≠ '\n') s

instance : Decidable (IsFree s) := inferInstanceAs (Decidable (_ ∧ _))

/-- **A field with a content**: blanks around it, and double quotes directly around it if one
likes. -/
inductive Shows (content : List Char) : List Char → Prop
  /-- Between blanks. -/
  | bare {l r : List Char} (hl : IsSpace l) (hr : IsSpace r) : Shows content (l ++ content ++ r)
  /-- Between double quotes between blanks. -/
  | quoted {l r : List Char} (hl : IsSpace l) (hr : IsSpace r) :
    Shows content (l ++ ('"' :: (content ++ ['"'])) ++ r)

/-- The simplest field is the content itself. -/
theorem Shows.self (content : List Char) : Shows content content := by
  have h : Shows content ([] ++ content ++ []) := .bare (by simp [IsSpace]) (by simp [IsSpace])
  simpa using h

theorem IsSpace.isBlank (hs : IsSpace s) : ∀ c ∈ s, isBlank c = true := fun c hc => (hs c hc).1

theorem IsSpace.isFree (hs : IsSpace s) : IsFree s :=
  ⟨fun h => absurd (hs _ h).1 (by decide), fun h => (hs _ h).2 rfl⟩

theorem isFree_of_isPlain (hs : ∀ c ∈ s, IsPlain c) : IsFree s :=
  ⟨fun h => absurd (hs _ h) (by decide), fun h => absurd (hs _ h) (by decide)⟩

theorem isFree_append {t : List Char} : IsFree (s ++ t) ↔ IsFree s ∧ IsFree t := by
  simp only [IsFree, List.mem_append, not_or]
  exact ⟨fun ⟨⟨h₁, h₂⟩, h₃, h₄⟩ => ⟨⟨h₁, h₃⟩, h₂, h₄⟩, fun ⟨⟨h₁, h₃⟩, h₂, h₄⟩ => ⟨⟨h₁, h₂⟩, h₃, h₄⟩⟩

theorem Shows.isFree {content field : List Char} (h : Shows content field)
    (hcontent : ∀ c ∈ content, IsPlain c) : IsFree field := by
  have hfree := isFree_of_isPlain hcontent
  have hquote : IsFree ['"'] := by decide
  cases h with
  | bare hl hr => exact isFree_append.2 ⟨isFree_append.2 ⟨hl.isFree, hfree⟩, hr.isFree⟩
  | quoted hl hr =>
    exact isFree_append.2 ⟨isFree_append.2 ⟨hl.isFree, isFree_append.2
      ⟨hquote, isFree_append.2 ⟨hfree, hquote⟩⟩⟩, hr.isFree⟩

/-- **A field gives its content back.** -/
theorem Shows.fieldContent_eq {content field : List Char} (h : Shows content field)
    (hcontent : ∀ c ∈ content, IsPlain c) : fieldContent field = content := by
  have hquotes : strip (· = '"') content = content :=
    strip_of_forall fun c hc => by simp [(hcontent c hc).2.1]
  cases h with
  | bare hl hr =>
    rw [fieldContent, trim_append hl.isBlank hr.isBlank, trim,
      strip_of_forall fun c hc => (hcontent c hc).1, hquotes]
  | quoted hl hr =>
    have hblank : ∀ c ∈ '"' :: (content ++ ['"']), Text.isBlank c = false := by
      intro c hc
      rcases List.mem_cons.1 hc with rfl | hc
      · decide
      · rcases List.mem_append.1 hc with hc | hc
        · exact (hcontent c hc).1
        · obtain rfl := List.mem_singleton.1 hc
          decide
    have hstrip := strip_append (p := (· = '"')) (s := content) (l := ['"']) (r := ['"'])
      (by simp) (by simp)
    rw [fieldContent, trim_append hl.isBlank hr.isBlank, trim, strip_of_forall hblank]
    rw [List.append_assoc, hquotes] at hstrip
    exact hstrip

/-- **A line of fields is read field by field**, trimmed or not. -/
theorem map_fieldContent_split {fields : List (List Char)} (hne : fields ≠ [])
    (hfree : ∀ field ∈ fields, IsFree field) :
    (split ',' (trim (join ',' fields))).map fieldContent = fields.map fieldContent := by
  have hcomma : isBlank ',' = false := by decide
  have h := map_trim_split_trim hcomma (join ',' fields)
  rw [split_join hne fun field hfield => (hfree field hfield).1] at h
  have hstrip := congrArg (List.map (strip (· = '"'))) h
  rwa [List.map_map, List.map_map] at hstrip

/-- The case of letters makes no plain text of another one. -/
theorem isPlain_of_isPlain_toLower {c : Char} (h : IsPlain c.toLower) : IsPlain c := by
  delta Char.toLower at h
  split at h
  · rename_i hupper
    have hlow : 65 ≤ c.toNat := hupper.1
    have hhigh : c.toNat ≤ 90 := hupper.2
    refine ⟨?_, ?_, ?_, ?_⟩
    · simp [isBlank, blankRanges]
      omega
    all_goals
      rintro rfl
      exact absurd hlow (by decide)
  · exact h

/-- Nor does another case of its letters. -/
theorem isPlain_of_sameLetters {t : List Char} (hs : ∀ c ∈ lower s, IsPlain c)
    (h : sameLetters s t = true) : ∀ c ∈ t, IsPlain c := by
  have hlower : lower s = lower t := of_decide_eq_true h
  intro c hc
  exact isPlain_of_isPlain_toLower (hs _ (hlower ▸ List.mem_map_of_mem hc))

end FlowParity.Text
