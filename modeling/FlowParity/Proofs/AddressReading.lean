import FlowParity.Net.AddressText
import FlowParity.Proofs.Numerals
/-!
# Reading addresses

The text of an address is read back as the address, of either family, with or without a gap in it
(`parseChars?_toText`). The readers take what they can from the front of a text and hand on the
rest, so each of them is stated with an arbitrary rest that it cannot go on into (`Stops`).
-/

namespace FlowParity.Address

open Text

variable {spelling : Spelling} {value n : Nat} {s rest : List Char}

/-- No character that satisfies `p` comes next. -/
def Stops (p : Char → Bool) (rest : List Char) : Prop :=
  ∀ c ∈ rest.head?, p c = false

theorem takeWhile_append_of_stops {p : Char → Bool} (hs : ∀ c ∈ s, p c = true)
    (hrest : Stops p rest) : (s ++ rest).takeWhile p = s := by
  rw [List.takeWhile_append_of_pos hs]
  cases rest with
  | nil => simp
  | cons c rest => simp [hrest c rfl]

theorem dropWhile_append_of_stops {p : Char → Bool} (hs : ∀ c ∈ s, p c = true)
    (hrest : Stops p rest) : (s ++ rest).dropWhile p = rest := by
  rw [List.dropWhile_append_of_pos hs]
  cases rest with
  | nil => rfl
  | cons c rest => simp [hrest c rfl]

/-! ## Four octets -/

theorem isDigit_of_mem_toDigits {c : Char} (hc : c ∈ Nat.toDigits 10 n) : isDigit c = true := by
  have hdigit : ∀ d < 10, isDigit (Nat.digitChar d) = true := by decide
  obtain ⟨d, hd, rfl⟩ := exists_of_mem_toDigits (by decide) hc
  exact hdigit d hd

/-- An octet is read back: it has at most three digits, and no zero in front of others. -/
theorem octet?_toDigits (hn : n < 256) (hrest : Stops isDigit rest) :
    octet? .plain (Nat.toDigits 10 n ++ rest) = some (n, rest) := by
  have hlength : (Nat.toDigits 10 n).length ≤ 3 :=
    (Nat.length_toDigits_le_iff (by decide) (by decide)).2 (by omega)
  rw [octet?, takeWhile_append_of_stops (fun _ => isDigit_of_mem_toDigits) hrest,
    dropWhile_append_of_stops (fun _ => isDigit_of_mem_toDigits) hrest, digitsValue_toDigits]
  rw [if_neg, if_neg]
  · simpa [Spelling.plain] using length_toDigits_le_one
  · simp
    omega

theorem toList_v4Text :
    (v4Text value).toList = Nat.toDigits 10 (value / 16777216) ++ '.' ::
      (Nat.toDigits 10 (value / 65536 % 256) ++ '.' :: (Nat.toDigits 10 (value / 256 % 256) ++
        '.' :: Nat.toDigits 10 (value % 256))) := by
  simp [v4Text]

/-- **Four octets between points are read back.** -/
theorem v4?_v4Text (hvalue : value < 4294967296) (hrest : Stops isDigit rest) :
    v4? .plain ((v4Text value).toList ++ rest) = some (value, rest) := by
  have hpoint : ∀ t, Stops isDigit ('.' :: t) := by
    rintro t c ⟨⟩
    decide
  rw [toList_v4Text]
  simp only [v4?, List.append_assoc, List.cons_append]
  rw [octet?_toDigits (by omega) (hpoint _)]
  simp only [Option.bind_eq_bind, Option.bind_some, after?, if_true]
  rw [octet?_toDigits (Nat.mod_lt _ (by decide)) (hpoint _)]
  simp only [Option.bind_some, if_true]
  rw [octet?_toDigits (Nat.mod_lt _ (by decide)) (hpoint _)]
  simp only [Option.bind_some, if_true]
  rw [octet?_toDigits (Nat.mod_lt _ (by decide)) hrest]
  simp only [Option.bind_some, Option.pure_def, Option.some.injEq, Prod.mk.injEq, and_true]
  omega

theorem v4?_v4Text_self (hvalue : value < 4294967296) :
    v4? .plain (v4Text value).toList = some (value, []) := by
  have hend : Stops isDigit [] := by rintro c ⟨⟩
  simpa using v4?_v4Text hvalue hend

/-- No octets are found where something other than a point follows the digits. -/
theorem v4?_eq_none (h : (s.dropWhile isDigit).head? ≠ some '.') : v4? spelling s = none := by
  cases hoctet : octet? spelling s with
  | none => simp [v4?, hoctet]
  | some found =>
    obtain ⟨n, rest⟩ := found
    have hrest : rest = s.dropWhile isDigit := by
      rw [octet?] at hoctet
      grind
    have hafter : after? '.' rest = none := by
      rw [hrest]
      cases hs : s.dropWhile isDigit with
      | nil => rfl
      | cons c t =>
        rw [hs] at h
        exact if_neg fun hc => h (by rw [hc]; rfl)
    simp [v4?, hoctet, hafter]

/-! ## Groups -/

/-- The text of further groups, each after a colon. -/
def laterGroups (values : List Nat) : List Char :=
  values.flatMap fun g => ':' :: Nat.toDigits 16 g

/-- Where a run of groups can end: at the end of the text, or before a gap. -/
def EndsGroups (rest : List Char) : Prop :=
  rest = [] ∨ ∃ t, rest = ':' :: ':' :: t

theorem isHex_of_mem_toDigits {c : Char} (hc : c ∈ Nat.toDigits 16 n) :
    (hexDigit? c).isSome = true := by
  obtain ⟨d, hd, rfl⟩ := exists_of_mem_toDigits (by decide) hc
  rw [hexDigit?_digitChar d hd]
  rfl

/-- A group is read back: it has at most four digits. -/
theorem group?_toDigits (hn : n < 65536) (hrest : Stops (fun c => (hexDigit? c).isSome) rest) :
    group? (Nat.toDigits 16 n ++ rest) = some (n, rest) := by
  have hlength : (Nat.toDigits 16 n).length ≤ 4 :=
    (Nat.length_toDigits_le_iff (by decide) (by decide)).2 (by omega)
  have hvalue : (Nat.toDigits 16 n).foldl (fun acc c => 16 * acc + (hexDigit? c).getD 0) 0 = n :=
    foldl_toDigits (by decide) (fun d hd => by rw [hexDigit?_digitChar d hd]; rfl) n
  rw [group?, takeWhile_append_of_stops (fun _ => isHex_of_mem_toDigits) hrest,
    dropWhile_append_of_stops (fun _ => isHex_of_mem_toDigits) hrest, if_neg]
  · exact congrArg some (congrArg (·, rest) hvalue)
  · simp
    omega

/-- A colon ends a group. -/
theorem stops_of_colon {p : Char → Bool} (hp : p ':' = false)
    (hrest : rest = [] ∨ ∃ t, rest = ':' :: t) : Stops p rest := by
  rintro c hc
  rcases hrest with rfl | ⟨t, rfl⟩
  · cases hc
  · cases hc
    exact hp

theorem laterGroups_append (values : List Nat) (hrest : EndsGroups rest) :
    laterGroups values ++ rest = [] ∨ ∃ t, laterGroups values ++ rest = ':' :: t := by
  cases values with
  | nil =>
    rcases hrest with rfl | ⟨t, rfl⟩
    · exact .inl rfl
    · exact .inr ⟨_, rfl⟩
  | cons g values => exact .inr ⟨_, rfl⟩

/-- Hexadecimal digits before a colon are no octet before a point. -/
theorem v4?_toDigits_eq_none (hrest : rest = [] ∨ ∃ t, rest = ':' :: t) :
    v4? .plain (Nat.toDigits 16 n ++ rest) = none := by
  apply v4?_eq_none
  -- after the decimal digits comes a hexadecimal one, the colon or nothing
  rw [List.dropWhile_append]
  split
  · rcases hrest with rfl | ⟨t, rfl⟩ <;> simp [isDigit]
  · rename_i hdigits
    obtain ⟨c, t, hc⟩ := List.exists_cons_of_ne_nil (mt List.isEmpty_iff.2 hdigits)
    have hmem : c ∈ Nat.toDigits 16 n :=
      List.dropWhile_subset _ (hc ▸ List.mem_cons_self)
    rw [hc, List.cons_append, List.head?_cons, ne_eq, Option.some.injEq]
    rintro rfl
    exact absurd (isHex_of_mem_toDigits hmem) (by decide)

/-- Nothing is read where no digit stands. -/
theorem eq_none_of_ends (hs : s = [] ∨ ∃ t, s = ':' :: t) :
    v4? spelling s = none ∧ group? s = none := by
  rcases hs with rfl | ⟨t, rfl⟩
  · exact ⟨rfl, rfl⟩
  · exact ⟨v4?_eq_none (by simp [isDigit]), by simp [group?, hexDigit?]⟩

/-- What could be the next group where a run ends starts with no digit. -/
theorem entry_of_endsGroups {first : Bool} {entry : List Char} (hs : EndsGroups s)
    (hentry : (if first then some s else after? ':' s) = some entry) :
    entry = [] ∨ ∃ t, entry = ':' :: t := by
  rcases hs with rfl | ⟨t, rfl⟩ <;> cases first <;> simp [after?] at hentry <;> simp [← hentry]

theorem groups_stop {limit : Nat} {first : Bool} (hrest : EndsGroups rest) :
    groups spelling limit first rest = (⟨[], false⟩, rest) := by
  cases limit with
  | zero => rfl
  | succ limit =>
    rw [groups]
    split
    · rfl
    · rename_i entry hentry
      have hnone : v4? spelling entry = none ∧ group? entry = none :=
        eq_none_of_ends (entry_of_endsGroups hrest hentry)
      rw [hnone.1, hnone.2, ite_self]

/-- One more group, at the start of a run or after a colon. -/
theorem groups_group {limit g : Nat} {first : Bool} (hg : g < 65536)
    (hs : (if first then some s else after? ':' s) = some (Nat.toDigits 16 g ++ rest))
    (hrest : rest = [] ∨ ∃ t, rest = ':' :: t) :
    groups .plain (limit + 1) first s =
      (⟨g :: (groups .plain limit false rest).1.values,
        (groups .plain limit false rest).1.endsInV4⟩, (groups .plain limit false rest).2) := by
  rw [groups, hs]
  simp only
  rw [v4?_toDigits_eq_none hrest, ite_self]
  simp only
  rw [group?_toDigits hg (stops_of_colon (by decide) hrest)]

/-- **A run of groups is read back** up to where it ends. -/
theorem groups_laterGroups {values : List Nat} {limit : Nat} (hvalues : ∀ g ∈ values, g < 65536)
    (hlimit : values.length ≤ limit) (hrest : EndsGroups rest) :
    groups .plain limit false (laterGroups values ++ rest) = (⟨values, false⟩, rest) := by
  induction values generalizing limit with
  | nil => exact groups_stop hrest
  | cons g values ih =>
    obtain ⟨limit, rfl⟩ : ∃ k, limit = k + 1 := ⟨limit - 1, by simp at hlimit; omega⟩
    rw [List.forall_mem_cons] at hvalues
    have hnext : (if false then some (laterGroups (g :: values) ++ rest)
          else after? ':' (laterGroups (g :: values) ++ rest)) =
        some (Nat.toDigits 16 g ++ (laterGroups values ++ rest)) := by
      simp [laterGroups, after?]
    rw [groups_group hvalues.1 hnext (laterGroups_append values hrest),
      ih hvalues.2 (by simpa using hlimit)]

theorem toList_groupsText_cons {g : Nat} {values : List Nat} :
    (groupsText (g :: values)).toList = Nat.toDigits 16 g ++ laterGroups values := by
  induction values generalizing g with
  | nil => simp [groupsText, groupText, laterGroups]
  | cons g' values ih =>
    have h := ih (g := g')
    simp only [groupsText, List.map_cons, String.toList_intercalate] at h ⊢
    rw [List.intercalate_cons_cons, h]
    simp [groupText, laterGroups]

theorem groups_groupsText {values : List Nat} {limit : Nat} (hvalues : ∀ g ∈ values, g < 65536)
    (hlimit : values.length ≤ limit) (hrest : EndsGroups rest) :
    groups .plain limit true ((groupsText values).toList ++ rest) = (⟨values, false⟩, rest) := by
  cases values with
  | nil => exact groups_stop hrest
  | cons g values =>
    obtain ⟨limit, rfl⟩ : ∃ k, limit = k + 1 := ⟨limit - 1, by simp at hlimit; omega⟩
    rw [List.forall_mem_cons] at hvalues
    have hfirst : (if true then some ((groupsText (g :: values)).toList ++ rest)
          else after? ':' ((groupsText (g :: values)).toList ++ rest)) =
        some (Nat.toDigits 16 g ++ (laterGroups values ++ rest)) := by
      simp [toList_groupsText_cons]
    rw [groups_group hvalues.1 hfirst (laterGroups_append values hrest),
      groups_laterGroups hvalues.2 (by simpa using hlimit) hrest]

/-! ## Gaps -/

theorem length_toGroups : (toGroups value).length = 8 := by
  simp [toGroups]

theorem lt_of_mem_toGroups {g : Nat} (hg : g ∈ toGroups value) : g < 65536 := by
  obtain ⟨i, -, rfl⟩ := List.mem_map.1 hg
  exact Nat.mod_lt _ (by decide)

/-- The eight groups make up the value. -/
theorem ofGroups_toGroups (hvalue : value < 2 ^ 128) : ofGroups (toGroups value) = value := by
  simp only [toGroups, ofGroups, List.range, List.range.loop, List.map_cons, List.map_nil,
    List.foldl_cons, List.foldl_nil, Nat.pow_eq]
  omega

theorem replicate_append_drop (values : List Nat) :
    List.replicate (leadingZeroGroups values) 0 ++ values.drop (leadingZeroGroups values) =
      values := by
  induction values with
  | nil => rfl
  | cons g values ih =>
    by_cases hg : g = 0
    · subst hg
      have hcount : leadingZeroGroups (0 :: values) = leadingZeroGroups values + 1 := by
        simp [leadingZeroGroups]
      rw [hcount, List.replicate_succ, List.cons_append, List.drop_succ_cons, ih]
    · simp [leadingZeroGroups, hg]

/-- A run of zero groups that is as long as it is said to be, or no run. -/
def IsRun (values : List Nat) (run : Nat × Nat) : Prop :=
  run.2 = 0 ∨ leadingZeroGroups (values.drop run.1) = run.2

theorem isRun_longestZeroRun (values : List Nat) : IsRun values (longestZeroRun values) := by
  rw [longestZeroRun]
  refine List.foldlRecOn (motive := IsRun values) _ _ (.inl rfl) fun best h i _ => ?_
  dsimp only
  split
  · exact .inr rfl
  · exact h

/-- **Nothing but zeros is left out of the text.** -/
theorem take_append_replicate_append_drop {values : List Nat} {start length : Nat}
    (h : longestZeroRun values = (start, length)) (hlength : 0 < length) :
    values.take start ++ (List.replicate length 0 ++ values.drop (start + length)) = values := by
  have hrun := isRun_longestZeroRun values
  rw [h] at hrun
  have hcount : leadingZeroGroups (values.drop start) = length :=
    hrun.resolve_left (Nat.ne_of_gt hlength)
  have hzeros := replicate_append_drop (values.drop start)
  rw [hcount, List.drop_drop] at hzeros
  rw [hzeros, List.take_append_drop]

/-! ## The three forms of an IPv6 address -/

/-- How an IPv6 address is written: with the octets of a mapped IPv4 address, with a gap for some
zero groups, or in full. -/
inductive Spells6 (value : Nat) : List Char → Prop
  /-- The low 32 bits as octets. -/
  | mapped {low : Nat} (hlow : low < 4294967296) (hvalue : value = 65535 * 4294967296 + low) :
    Spells6 value (':' :: ':' :: (Nat.toDigits 16 65535 ++ ':' :: (v4Text low).toList))
  /-- The groups around a gap. -/
  | gap {head tail : List Nat} {length : Nat} (hlength : 0 < length)
    (hgroups : head ++ (List.replicate length 0 ++ tail) = toGroups value) :
    Spells6 value ((groupsText head).toList ++ ':' :: ':' :: (groupsText tail).toList)
  /-- All groups. -/
  | full : Spells6 value ((groupsText (toGroups value)).toList)

theorem spells6_v6Text : Spells6 value (v6Text value).toList := by
  rw [v6Text]
  split
  · rename_i hmapped
    have hdigits : "::ffff:".toList = ':' :: ':' :: (Nat.toDigits 16 65535 ++ [':']) := by
      decide
    rw [String.toList_append, hdigits, List.cons_append, List.cons_append, List.append_assoc]
    exact .mapped (Nat.mod_lt _ (by decide)) (by omega)
  · dsimp only
    split
    · rename_i hlength
      rw [String.toList_append, String.toList_append, List.append_assoc]
      exact .gap (Nat.zero_lt_of_lt hlength)
        (take_append_replicate_append_drop rfl (Nat.zero_lt_of_lt hlength))
    · exact .full

theorem v4?_groupsText {values : List Nat} (hrest : EndsGroups rest) :
    v4? .plain ((groupsText values).toList ++ rest) = none := by
  cases values with
  | nil =>
    refine (eq_none_of_ends ?_).1
    rcases hrest with rfl | ⟨t, rfl⟩
    · exact .inl rfl
    · exact .inr ⟨_, rfl⟩
  | cons g values =>
    rw [toList_groupsText_cons, List.append_assoc]
    exact v4?_toDigits_eq_none (laterGroups_append values hrest)

theorem Spells6.v4?_eq_none (h : Spells6 value s) : v4? .plain s = none := by
  cases h with
  | mapped => exact (eq_none_of_ends (.inr ⟨_, rfl⟩)).1
  | gap => exact v4?_groupsText (.inr ⟨_, rfl⟩)
  | full =>
    rw [← List.append_nil (groupsText (toGroups value)).toList]
    exact v4?_groupsText (.inl rfl)

/-- The octets of a mapped address stand for two groups. -/
theorem groups_v4Text {limit low : Nat} (hlow : low < 4294967296) (hlimit : limit ≠ 0) :
    groups .plain (limit + 1) false (':' :: (v4Text low).toList) =
      (⟨[low / 65536, low % 65536], true⟩, []) := by
  simp only [groups, after?, if_true, Bool.false_eq_true, if_false, if_neg hlimit,
    v4?_v4Text_self hlow]

/-- The groups around a gap are filled up with zeros. -/
theorem v6?_of_gap {head : List Nat} {tail : Groups} {t : List Char} (hhead : head.length < 8)
    (hbefore : groups .plain 8 true s = (⟨head, false⟩, ':' :: ':' :: t))
    (hafter : groups .plain (8 - head.length - 1) true t = (tail, rest)) :
    v6? .plain s = some (ofGroups (head ++
      List.replicate (8 - head.length - tail.values.length) 0 ++ tail.values), rest) := by
  have hne : ¬ head.length = 8 := by omega
  have hgap : Spelling.plain.gap = 1 := rfl
  simp [v6?, hbefore, hne, after?, hgap, hafter]

theorem Spells6.v6?_eq_some (h : Spells6 value s) (hvalue : value < 2 ^ 128) :
    v6? .plain s = some (value, []) := by
  have hgroups : ofGroups (toGroups value) = value := ofGroups_toGroups hvalue
  cases h with
  | @mapped low hlow hmapped =>
    -- five groups are skipped, and the octets are the last two of the three that are read
    have htail : groups .plain 7 true (Nat.toDigits 16 65535 ++ ':' :: (v4Text low).toList) =
        (⟨[65535, low / 65536, low % 65536], true⟩, []) := by
      rw [groups_group (by decide) rfl (.inr ⟨_, rfl⟩), groups_v4Text hlow (by decide)]
    rw [v6?_of_gap (by decide) (groups_stop (.inr ⟨_, rfl⟩)) htail]
    simp [ofGroups, List.replicate]
    omega
  | @gap head tail length hlength hsplit =>
    -- the groups on both sides leave room for just those that were left out
    have hcount : head.length + (length + tail.length) = 8 := by
      have h := congrArg List.length hsplit
      simpa [length_toGroups] using h
    have hhead : ∀ g ∈ head, g < 65536 := fun g hg =>
      lt_of_mem_toGroups (hsplit ▸ List.mem_append_left _ hg)
    have htail : ∀ g ∈ tail, g < 65536 := fun g hg =>
      lt_of_mem_toGroups (hsplit ▸ List.mem_append_right _ (List.mem_append_right _ hg))
    have hroom : tail.length ≤ 8 - head.length - 1 := by omega
    have hafter := groups_groupsText htail hroom (.inl rfl)
    rw [List.append_nil] at hafter
    rw [v6?_of_gap (by omega) (groups_groupsText hhead (by omega) (.inr ⟨_, rfl⟩)) hafter]
    have hskipped : 8 - head.length - tail.length = length := by omega
    rw [hskipped, List.append_assoc, hsplit, hgroups]
  | full =>
    have hgroup : ∀ g ∈ toGroups value, g < 65536 := fun _ => lt_of_mem_toGroups
    have hall := groups_groupsText hgroup (Nat.le_of_eq length_toGroups) (.inl rfl)
    rw [List.append_nil] at hall
    simp [v6?, hall, length_toGroups, hgroups]

/-! ## Both families -/

/-- A point, a colon or a digit up to sixteen. -/
def IsAddressChar (c : Char) : Prop :=
  c = '.' ∨ c = ':' ∨ ∃ d < 16, c = Nat.digitChar d

theorem isAddressChar_of_mem_toDigits {b : Nat} (hb : 1 < b) (hb' : b ≤ 16) {c : Char}
    (hc : c ∈ Nat.toDigits b n) : IsAddressChar c := by
  obtain ⟨d, hd, rfl⟩ := exists_of_mem_toDigits hb hc
  exact .inr (.inr ⟨d, by omega, rfl⟩)

theorem isAddressChar_of_mem_v4Text {c : Char} (hc : c ∈ (v4Text value).toList) :
    IsAddressChar c := by
  have hdigits : ∀ n, c ∈ Nat.toDigits 10 n → IsAddressChar c := fun n =>
    isAddressChar_of_mem_toDigits (by decide) (by decide)
  simp only [toList_v4Text, List.mem_append, List.mem_cons] at hc
  rcases hc with hc | hc | hc | hc | hc | hc | hc
  all_goals first | exact .inl hc | exact hdigits _ hc

theorem isAddressChar_of_mem_groupsText {values : List Nat} {c : Char}
    (hc : c ∈ (groupsText values).toList) : IsAddressChar c := by
  have hdigits : ∀ n, c ∈ Nat.toDigits 16 n → IsAddressChar c := fun n =>
    isAddressChar_of_mem_toDigits (by decide) (by decide)
  cases values with
  | nil => cases hc
  | cons g values =>
    rw [toList_groupsText_cons, List.mem_append, laterGroups, List.mem_flatMap] at hc
    rcases hc with hc | ⟨g', -, hc⟩
    · exact hdigits _ hc
    · rcases List.mem_cons.1 hc with hc | hc
      · exact .inr (.inl hc)
      · exact hdigits _ hc

theorem Spells6.isAddressChar (h : Spells6 value s) : ∀ c ∈ s, IsAddressChar c := by
  intro c hc
  have hcolon : c = ':' → IsAddressChar c := fun h => .inr (.inl h)
  cases h with
  | mapped =>
    simp only [List.mem_append, List.mem_cons] at hc
    rcases hc with hc | hc | hc | hc | hc
    · exact hcolon hc
    · exact hcolon hc
    · exact isAddressChar_of_mem_toDigits (by decide) (by decide) hc
    · exact hcolon hc
    · exact isAddressChar_of_mem_v4Text hc
  | gap =>
    simp only [List.mem_append, List.mem_cons] at hc
    rcases hc with hc | hc | hc | hc
    · exact isAddressChar_of_mem_groupsText hc
    · exact hcolon hc
    · exact hcolon hc
    · exact isAddressChar_of_mem_groupsText hc
  | full => exact isAddressChar_of_mem_groupsText hc

theorem isAddressChar_of_mem_toText {a : Address} : ∀ c ∈ a.toText.toList, IsAddressChar c := by
  intro c hc
  rw [toText] at hc
  split at hc
  · exact isAddressChar_of_mem_v4Text hc
  · exact spells6_v6Text.isAddressChar c hc

/-- **An address is read back from its text.** -/
theorem parseChars?_toText (a : Address) : parseChars? a.toText.toList = some a := by
  obtain ⟨family, value, hvalue⟩ := a
  cases family with
  | v4 =>
    simp only [parseChars?, toText, v4?_v4Text_self hvalue, List.isEmpty_nil, if_true, ofNat,
      Nat.mod_eq_of_lt hvalue]
  | v6 =>
    simp only [parseChars?, toText, spells6_v6Text.v4?_eq_none,
      spells6_v6Text.v6?_eq_some hvalue, List.isEmpty_nil, if_true, ofNat,
      Nat.mod_eq_of_lt hvalue]

end FlowParity.Address
