import FlowParity.Document.Basic
import Mathlib.Data.String.Basic
/-!
# Sorted tables

Members are sorted by putting them one by one into their place, and one that is put in takes the
place of an earlier one of its name. So a name stands once in a sorted table, with the value it was
given last (`lookup_sortMembers`), and if no name is given twice the members are rearranged and
nothing else (`sortMembers_perm`).
-/

namespace FlowParity.Document

variable {name : String} {m : String × Document} {ms : List (String × Document)}

/-! ## Values -/

theorem lookup_cons_eq_ite :
    (m :: ms).lookup name = if name = m.1 then some m.2 else ms.lookup name := by
  obtain ⟨key, v⟩ := m
  by_cases h : name = key
  · simp [h]
  · simp [List.lookup_cons, beq_false_of_ne h, h]

theorem lookup_insertMember :
    (insertMember m ms).lookup name = if name = m.1 then some m.2 else ms.lookup name := by
  induction ms with
  | nil => rw [insertMember, lookup_cons_eq_ite]
  | cons other rest ih =>
    rw [insertMember]
    split
    · rename_i hsame
      rw [lookup_cons_eq_ite, lookup_cons_eq_ite, ← hsame]
      split <;> rfl
    · rename_i hother
      split
      · rw [lookup_cons_eq_ite]
      · rw [lookup_cons_eq_ite, lookup_cons_eq_ite, ih]
        by_cases h : name = m.1
        · rw [if_pos h, if_pos h, if_neg (h ▸ hother)]
        · rw [if_neg h, if_neg h]

/-- **The value of a name in a sorted table is the last one it was given.** -/
theorem lookup_sortMembers : (sortMembers ms).lookup name = ms.reverse.lookup name := by
  have hfold : ∀ sorted : List (String × Document),
      (ms.foldl (fun sorted m => insertMember m sorted) sorted).lookup name =
        (ms.reverse.lookup name).or (sorted.lookup name) := by
    induction ms with
    | nil => exact fun _ => rfl
    | cons m ms ih =>
      intro sorted
      rw [List.foldl_cons, ih, lookup_insertMember, List.reverse_cons, List.lookup_append,
        Option.or_assoc, lookup_cons_eq_ite]
      by_cases h : name = m.1 <;> simp [h]
  rw [sortMembers, hfold, List.lookup_nil, Option.or_none]

theorem sortedMembers_eq_map :
    sortedMembers ms = ms.map fun m => (m.1, m.2.sorted) := by
  induction ms with
  | nil => rfl
  | cons m ms ih => rw [sortedMembers, ih, List.map_cons]

theorem sortedItems_eq_map {items : List Document} : sortedItems items = items.map sorted := by
  induction items with
  | nil => rfl
  | cons item items ih => rw [sortedItems, ih, List.map_cons]

theorem lookup_map_snd {f : Document → Document} :
    (ms.map fun m => (m.1, f m.2)).lookup name = (ms.lookup name).map f := by
  induction ms with
  | nil => rfl
  | cons m ms ih =>
    rw [List.map_cons, lookup_cons_eq_ite, lookup_cons_eq_ite, ih]
    split <;> rfl

theorem lookup_sorted :
    (sortMembers (sortedMembers ms)).lookup name = (ms.reverse.lookup name).map sorted := by
  rw [lookup_sortMembers, sortedMembers_eq_map, ← List.map_reverse, lookup_map_snd]

/-- What a member says that may be left out. -/
theorem lookup_optional {α : Type} {other : String} {encode : α → Document} {a : Option α}
    (hencode : ∀ a, (encode a).sorted = encode a) :
    ((optional other encode a).reverse.lookup name).map sorted =
      if name = other then a.map encode else none := by
  cases a with
  | none => exact (ite_self none).symm
  | some a =>
    rw [optional, List.reverse_singleton, lookup_cons_eq_ite]
    split
    · exact congrArg some (hencode a)
    · rfl

/-- Members whose names are asked for have the values that all of them have. -/
theorem lookup_filter {p : String → Bool} :
    (ms.filter fun m => p m.1).lookup name = if p name then ms.lookup name else none := by
  induction ms with
  | nil => simp
  | cons m ms ih =>
    rw [List.filter_cons, lookup_cons_eq_ite]
    by_cases h : name = m.1
    · subst h
      cases hp : p m.1 <;> simp [hp, ih, lookup_cons_eq_ite]
    · cases hp : p m.1 <;> simp [h, ih, lookup_cons_eq_ite]

/-! ## Names -/

/-- Members with names in strict order. -/
def NamesInOrder (ms : List (String × Document)) : Prop :=
  (ms.map Prod.fst).Pairwise (· < ·)

theorem mem_names_insertMember (h : name ∈ (insertMember m ms).map Prod.fst) :
    name = m.1 ∨ name ∈ ms.map Prod.fst := by
  induction ms with
  | nil => exact .inl (List.mem_singleton.1 h)
  | cons other rest ih =>
    rw [insertMember] at h
    split at h
    · rename_i hsame
      rw [List.map_cons, hsame] at h
      exact .inr h
    · split at h
      · exact List.mem_cons.1 h
      · rw [List.map_cons, List.mem_cons] at h ⊢
        rcases h with rfl | h
        · exact .inr (.inl rfl)
        · exact (ih h).imp_right .inr

theorem namesInOrder_insertMember (h : NamesInOrder ms) : NamesInOrder (insertMember m ms) := by
  induction ms with
  | nil => exact List.pairwise_singleton _ _
  | cons other rest ih =>
    rw [NamesInOrder, List.map_cons, List.pairwise_cons] at h
    rw [insertMember]
    split
    · rename_i hsame
      rw [NamesInOrder, List.map_cons, hsame]
      exact List.pairwise_cons.2 h
    · rename_i hother
      split
      · rename_i hlt
        refine List.pairwise_cons.2 ⟨?_, List.pairwise_cons.2 h⟩
        rw [List.map_cons, List.forall_mem_cons]
        exact ⟨hlt, fun n hn => lt_trans hlt (h.1 n hn)⟩
      · rename_i hge
        refine List.pairwise_cons.2 ⟨fun n hn => ?_, ih h.2⟩
        rcases mem_names_insertMember hn with rfl | hn
        · exact lt_of_le_of_ne (not_lt.1 hge) (Ne.symm hother)
        · exact h.1 n hn

/-- **Sorted members have names in strict order**, so no name stands twice. -/
theorem namesInOrder_sortMembers : NamesInOrder (sortMembers ms) :=
  List.foldlRecOn ms _ List.Pairwise.nil fun _ h _ _ => namesInOrder_insertMember h

/-! ## Rearranging -/

theorem insertMember_perm (h : m.1 ∉ ms.map Prod.fst) : (insertMember m ms).Perm (m :: ms) := by
  induction ms with
  | nil => exact .refl _
  | cons other rest ih =>
    rw [List.map_cons, List.mem_cons, not_or] at h
    rw [insertMember, if_neg h.1]
    split
    · exact .refl _
    · exact ((ih h.2).cons other).trans (.swap m other rest)

/-- **Sorting rearranges members** whose names are all different. -/
theorem sortMembers_perm (h : (ms.map Prod.fst).Nodup) : (sortMembers ms).Perm ms := by
  have hfold : ∀ sorted : List (String × Document), ((sorted ++ ms).map Prod.fst).Nodup →
      (ms.foldl (fun sorted m => insertMember m sorted) sorted).Perm (sorted ++ ms) := by
    clear h
    induction ms with
    | nil => intro sorted _; rw [List.append_nil]; rfl
    | cons m ms ih =>
      intro sorted hnodup
      have hinsert : ((insertMember m sorted) ++ ms).Perm (sorted ++ m :: ms) := by
        refine ((insertMember_perm ?_).append_right ms).trans List.perm_middle.symm
        rw [List.map_append, List.map_cons] at hnodup
        exact fun hm => (List.nodup_append.1 hnodup).2.2 _ hm _ List.mem_cons_self rfl
      exact (ih _ ((hinsert.map _).nodup_iff.2 hnodup)).trans hinsert
  exact hfold [] h

end FlowParity.Document
