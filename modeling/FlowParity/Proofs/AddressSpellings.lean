import FlowParity.Net.Network
import FlowParity.Proofs.AddressReading
/-!
# Addresses in front of a prefix length

An address in front of a prefix length is read by rules of its own. They are wider than those for
an address that stands alone: a text that is read there is read as the same address here
(`read?_withLength`). And the readers of addresses do not look past a slash, so they find the same
with a length behind it as without (`v4?_append_slash`, `v6?_append_slash`).
-/

namespace FlowParity.Address

open Text

variable {spelling : Spelling} {value n : Nat} {s t rest : List Char} {a : Address}

/-- The address that fills a text, by the rules of a spelling. -/
def read? (spelling : Spelling) (s : List Char) : Option Address :=
  match v4? spelling s with
  | some (value, rest) => if rest.isEmpty then some (ofNat .v4 value) else none
  | none =>
    match v6? spelling s with
    | some (value, rest) => if rest.isEmpty then some (ofNat .v6 value) else none
    | none => none

theorem parseChars?_eq_read? (s : List Char) : parseChars? s = read? .plain s := rfl

/-- An address fills a text as four octets, or as eight groups where no octets are found. -/
theorem read?_eq_some : read? spelling s = some a ↔
    (∃ value, v4? spelling s = some (value, []) ∧ ofNat .v4 value = a) ∨
      v4? spelling s = none ∧ ∃ value, v6? spelling s = some (value, []) ∧ ofNat .v6 value = a := by
  rw [read?]
  cases v4? spelling s with
  | some found => obtain ⟨value, rest⟩ := found; cases rest <;> simp
  | none =>
    cases v6? spelling s with
    | some found => obtain ⟨value, rest⟩ := found; cases rest <;> simp
    | none => simp

/-! ## A slash ends an address -/

/-- What is found does not depend on what comes after a slash. -/
def slashed (t : List Char) (found : Nat × List Char) : Nat × List Char :=
  (found.1, found.2 ++ '/' :: t)

theorem takeWhile_append_slash {p : Char → Bool} (hp : p '/' = false) (s t : List Char) :
    (s ++ '/' :: t).takeWhile p = s.takeWhile p ∧
      (s ++ '/' :: t).dropWhile p = s.dropWhile p ++ '/' :: t := by
  induction s with
  | nil => simp [hp]
  | cons c s ih => cases hc : p c <;> simp [hc, ih.1, ih.2]

theorem octet?_append_slash (s t : List Char) :
    octet? spelling (s ++ '/' :: t) = (octet? spelling s).map (slashed t) := by
  obtain ⟨htake, hdrop⟩ := takeWhile_append_slash (p := isDigit) (by decide) s t
  rw [octet?, octet?, htake, hdrop]
  split
  · rfl
  · split <;> rfl

theorem after?_append_slash {c : Char} (hc : c ≠ '/') (s t : List Char) :
    after? c (s ++ '/' :: t) = (after? c s).map (· ++ '/' :: t) := by
  cases s with
  | nil => exact if_neg hc.symm
  | cons d s =>
    rw [List.cons_append, after?, after?]
    split <;> rfl

/-- Steps that go the same way from where they start have the same result. -/
theorem bind_map_eq {α β : Type} {x : Option α} {move : α → α} {f : α → Option β}
    {result : β → β} (h : ∀ a, f (move a) = (f a).map result) :
    (x.map move >>= f) = (x >>= f).map result := by
  cases x with
  | none => rfl
  | some a => exact h a

theorem v4?_append_slash (s t : List Char) :
    v4? spelling (s ++ '/' :: t) = (v4? spelling s).map (slashed t) := by
  have hpoint : '.' ≠ '/' := by decide
  rw [v4?, octet?_append_slash]
  refine bind_map_eq fun found => ?_
  refine (congrArg (· >>= _) (after?_append_slash hpoint _ t)).trans (bind_map_eq fun s => ?_)
  refine (congrArg (· >>= _) (octet?_append_slash s t)).trans (bind_map_eq fun found => ?_)
  refine (congrArg (· >>= _) (after?_append_slash hpoint _ t)).trans (bind_map_eq fun s => ?_)
  refine (congrArg (· >>= _) (octet?_append_slash s t)).trans (bind_map_eq fun found => ?_)
  refine (congrArg (· >>= _) (after?_append_slash hpoint _ t)).trans (bind_map_eq fun s => ?_)
  refine (congrArg (· >>= _) (octet?_append_slash s t)).trans (bind_map_eq fun found => ?_)
  rfl

theorem group?_append_slash (s t : List Char) :
    group? (s ++ '/' :: t) = (group? s).map (slashed t) := by
  obtain ⟨htake, hdrop⟩ :=
    takeWhile_append_slash (p := fun c => (hexDigit? c).isSome) (by decide) s t
  rw [group?, group?, htake, hdrop]
  split <;> rfl

theorem groups_append_slash (limit : Nat) (first : Bool) (s t : List Char) :
    groups spelling limit first (s ++ '/' :: t) =
      ((groups spelling limit first s).1, (groups spelling limit first s).2 ++ '/' :: t) := by
  induction limit generalizing first s with
  | zero => rfl
  | succ limit ih =>
    have hentry : (if first then some (s ++ '/' :: t) else after? ':' (s ++ '/' :: t)) =
        (if first then some s else after? ':' s).map (· ++ '/' :: t) := by
      cases first with
      | true => rfl
      | false => exact after?_append_slash (by decide) s t
    rw [groups, groups, hentry]
    cases if first then some s else after? ':' s with
    | none => rfl
    | some entry =>
      have hoctets : (if limit = 0 then none else v4? spelling (entry ++ '/' :: t)) =
          (if limit = 0 then none else v4? spelling entry).map (slashed t) := by
        rw [v4?_append_slash]
        split <;> rfl
      simp only [Option.map_some, hoctets, group?_append_slash]
      cases if limit = 0 then none else v4? spelling entry with
      | some found => rfl
      | none =>
        cases group? entry with
        | none => rfl
        | some found => simp only [Option.map_none, Option.map_some, slashed, ih]

theorem v6?_append_slash (s t : List Char) :
    v6? spelling (s ++ '/' :: t) = (v6? spelling s).map (slashed t) := by
  simp only [v6?, groups_append_slash]
  split
  · rfl
  · split
    · rfl
    · simp [after?_append_slash, groups_append_slash, Option.map_bind, Option.bind_map, slashed,
        Function.comp_def]

/-! ## What stands alone also stands in front of a length -/

theorem octet?_withLength {found : Nat × List Char} (h : octet? .plain s = some found) :
    octet? .withLength s = some found := by
  rw [octet?] at h ⊢
  split at h
  · cases h
  · split at h
    · cases h
    · rename_i hvalue _
      rw [if_neg hvalue]
      exact h

theorem v4?_withLength {found : Nat × List Char} (h : v4? .plain s = some found) :
    v4? .withLength s = some found := by
  simp only [v4?, Option.bind_eq_bind, Option.bind_eq_some_iff] at h ⊢
  obtain ⟨a, ha, s₁, h₁, b, hb, s₂, h₂, c, hc, s₃, h₃, d, hd, hvalue⟩ := h
  exact ⟨a, octet?_withLength ha, s₁, h₁, b, octet?_withLength hb, s₂, h₂, c,
    octet?_withLength hc, s₃, h₃, d, octet?_withLength hd, hvalue⟩

/-- Where octets are found, a group ends at the first point. -/
theorem head?_group?_rest {found : Nat × List Char} (hoctets : v4? spelling s = some found)
    (hgroup : group? s = some (n, rest)) : rest.head? = some '.' := by
  have hpoint : (s.dropWhile isDigit).head? = some '.' := not_not.1 fun hne => by
    rw [v4?_eq_none hne] at hoctets
    cases hoctets
  have hrest : rest = s.dropWhile fun c => (hexDigit? c).isSome := by
    rw [group?] at hgroup
    split at hgroup
    · cases hgroup
    · exact (congrArg Prod.snd (Option.some.inj hgroup)).symm
  have hhex : ∀ c ∈ s.takeWhile isDigit, (hexDigit? c).isSome = true := by
    intro c hc
    have hdigit := List.all_eq_true.1 List.all_takeWhile c hc
    simp only [isDigit, Bool.and_eq_true, decide_eq_true_eq] at hdigit
    rw [hexDigit?, if_pos hdigit]
    rfl
  have hstops : Stops (fun c => (hexDigit? c).isSome) (s.dropWhile isDigit) := by
    rintro c hc
    rw [hpoint] at hc
    cases hc
    decide
  rw [hrest, ← List.takeWhile_append_dropWhile (p := isDigit) (l := s),
    dropWhile_append_of_stops hhex hstops, hpoint]

/-- No run of groups goes on from a point, or ends there. -/
theorem not_endsGroups_of_point {limit : Nat} {g : Groups} (hpoint : s.head? = some '.')
    (h : groups spelling limit false s = (g, rest)) : ¬ EndsGroups rest := by
  have hafter : after? ':' s = none := by
    cases s with
    | nil => rfl
    | cons c s =>
      obtain rfl := Option.some.inj hpoint
      rfl
  have hrest : rest = s := by
    cases limit with
    | zero => exact (congrArg Prod.snd h).symm
    | succ limit =>
      simp only [groups, Bool.false_eq_true, if_false, hafter] at h
      exact (congrArg Prod.snd h).symm
  rintro (hnil | ⟨t, ht⟩)
  · rw [← hrest, hnil] at hpoint
    cases hpoint
  · rw [← hrest, ht] at hpoint
    exact absurd (Option.some.inj hpoint) (by decide)

/-- Where a run of groups ends, no octets are left over that another spelling would find. -/
theorem v4?_eq_none_of_groups {limit : Nat} {first : Bool} {g : Groups} {entry : List Char}
    (hentry : (if first then some s else after? ':' s) = some entry)
    (hplain : (if limit = 0 then none else v4? .plain entry) = none)
    (h : groups .plain (limit + 1) first s = (g, rest)) (hrest : EndsGroups rest) :
    v4? spelling entry = none := by
  cases hoctets : v4? spelling entry with
  | none => rfl
  | some found =>
    simp only [groups, hentry, hplain] at h
    split at h
    · cases h
      rw [(eq_none_of_ends (entry_of_endsGroups hrest hentry)).1] at hoctets
      cases hoctets
    · rename_i value later hgroup
      cases hlater : groups .plain limit false later with
      | mk g' rest' =>
        simp only [hlater] at h
        cases h
        -- the octets would leave a point behind the group that was read
        exact absurd hrest (not_endsGroups_of_point (head?_group?_rest hoctets hgroup) hlater)

/-- **A run of groups is read alike** where it ends, whatever else there is room for. -/
theorem groups_withLength {limit limit' : Nat} {first : Bool} {g : Groups}
    (h : groups .plain limit first s = (g, rest)) (hrest : EndsGroups rest)
    (hlimit : limit ≤ limit') : groups .withLength limit' first s = (g, rest) := by
  induction limit generalizing limit' first s g with
  | zero =>
    cases h
    exact groups_stop hrest
  | succ limit ih =>
    obtain ⟨limit', rfl⟩ : ∃ k, limit' = k + 1 := ⟨limit' - 1, by omega⟩
    have hlimits := Nat.le_of_succ_le_succ hlimit
    cases hentry : if first then some s else after? ':' s with
    | none =>
      simp only [groups, hentry] at h
      cases h
      exact groups_stop hrest
    | some entry =>
      cases hplain : if limit = 0 then none else v4? .plain entry with
      | some found =>
        split at hplain
        · cases hplain
        · rename_i hroom
          have hroom' : ¬ limit' = 0 := by omega
          simp only [groups, hentry, if_neg hroom, hplain] at h
          simp only [groups, hentry, if_neg hroom', v4?_withLength hplain]
          exact h
      | none =>
        have hoctets : v4? .withLength entry = none :=
          v4?_eq_none_of_groups hentry hplain h hrest
        simp only [groups, hentry, hplain] at h
        split at h
        · cases h
          exact groups_stop hrest
        · rename_i value later hgroup
          cases hlater : groups .plain limit false later with
          | mk g' rest' =>
            simp only [hlater] at h
            cases h
            simp only [groups, hentry, hoctets, ite_self, hgroup, ih hlater hlimits]

theorem after?_eq_some {c : Char} : after? c s = some rest ↔ s = c :: rest := by
  cases s with
  | nil => simp [after?]
  | cons d s =>
    rw [after?, List.cons.injEq]
    split <;> simp_all

/-- Eight groups fill a text all together, or in two runs around a gap. -/
theorem v6?_eq_some : v6? spelling s = some (value, []) ↔
    (∃ all, groups spelling 8 true s = (all, []) ∧ all.values.length = 8 ∧
      ofGroups all.values = value) ∨
    ∃ head tail after, groups spelling 8 true s = (head, ':' :: ':' :: after) ∧
      head.values.length ≠ 8 ∧ head.endsInV4 = false ∧
      groups spelling (8 - head.values.length - spelling.gap) true after = (tail, []) ∧
      ofGroups (head.values ++ List.replicate (8 - head.values.length - tail.values.length) 0 ++
        tail.values) = value := by
  constructor
  · intro h
    cases hhead : groups spelling 8 true s with
    | mk head rest =>
      simp only [v6?, hhead] at h
      split at h
      · rename_i hfull
        obtain ⟨hvalue, rfl⟩ := Prod.mk.inj (Option.some.inj h)
        exact .inl ⟨head, rfl, hfull, hvalue⟩
      · rename_i hroom
        split at h
        · cases h
        · rename_i hends
          simp only [Option.bind_eq_bind, Option.bind_eq_some_iff, after?_eq_some] at h
          obtain ⟨s₁, rfl, after, rfl, h⟩ := h
          obtain ⟨hvalue, htail⟩ := Prod.mk.inj (Option.some.inj h)
          exact .inr ⟨head, _, after, rfl, hroom, Bool.not_eq_true _ ▸ hends,
            Prod.ext rfl htail, hvalue⟩
  · rintro (⟨all, hall, hfull, hvalue⟩ | ⟨head, tail, after, hhead, hroom, hends, htail, hvalue⟩)
    · simp [v6?, hall, hfull, hvalue]
    · simp [v6?, hhead, hroom, hends, after?, htail, ← hvalue]

theorem v6?_withLength (h : v6? .plain s = some (value, [])) :
    v6? .withLength s = some (value, []) := by
  rw [v6?_eq_some] at h ⊢
  rcases h with ⟨all, hall, hfull, hvalue⟩ | ⟨head, tail, after, hhead, hroom, hends, htail, hvalue⟩
  · exact .inl ⟨all, groups_withLength hall (.inl rfl) (Nat.le_refl 8), hfull, hvalue⟩
  · have hgap : 8 - head.values.length - Spelling.plain.gap ≤
        8 - head.values.length - Spelling.withLength.gap := Nat.sub_le_sub_left (by decide) _
    exact .inr ⟨head, tail, after, groups_withLength hhead (.inr ⟨after, rfl⟩) (Nat.le_refl 8),
      hroom, hends, groups_withLength htail (.inl rfl) hgap, hvalue⟩

/-- What is read as groups does not start with octets, however these are spelled. -/
theorem v4?_eq_none_of_v6? (hplain : v4? .plain s = none)
    (h : v6? .plain s = some (value, [])) : v4? spelling s = none := by
  have hends : ∃ g rest, groups .plain 8 true s = (g, rest) ∧ EndsGroups rest := by
    rcases v6?_eq_some.1 h with ⟨all, hall, -⟩ | ⟨head, tail, after, hhead, -⟩
    · exact ⟨all, [], hall, .inl rfl⟩
    · exact ⟨head, _, hhead, .inr ⟨after, rfl⟩⟩
  obtain ⟨g, rest, hgroups, hrest⟩ := hends
  have hnone : (if 7 = 0 then none else v4? .plain s) = none := hplain
  have hentry : (if true then some s else after? ':' s) = some s := rfl
  exact v4?_eq_none_of_groups hentry hnone hgroups hrest

/-- **An address that stands alone also stands in front of a length.** -/
theorem read?_withLength (h : read? .plain s = some a) : read? .withLength s = some a := by
  rw [read?_eq_some] at h ⊢
  rcases h with ⟨value, hvalue, ha⟩ | ⟨hplain, value, hvalue, ha⟩
  · exact .inl ⟨value, v4?_withLength hvalue, ha⟩
  · exact .inr ⟨v4?_eq_none_of_v6? hplain hvalue, value, v6?_withLength hvalue, ha⟩

end FlowParity.Address
