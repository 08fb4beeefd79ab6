import FlowParity.Document.JsonText
import FlowParity.Proofs.JsonNumerals
import Mathlib.Tactic.SplitIfs
/-!
# JSON texts

A document that JSON has a form for is read back from its text in one line (`ofJson?_compact`),
and the text is one line indeed (`newline_not_mem_compact`). Every reader takes what belongs to it
from the front of a text and hands on the rest, so what it reads is stated with an arbitrary rest,
if only it does not go on with a number.

A reader of JSON may miss the nearest double by a bit. So it has to be asked of a double whether
its own text is read as this double (`Binary64.ReadsBack`); of all else it follows.
-/

namespace FlowParity

open Text Address

namespace Document.Json

variable {s t rest : List Char} {n : Numeral}

/-! ## Strings -/

/-- What a part of a string can be for a character: the character, or its unit, if that is small. -/
def Piece.Means (p : Piece) (c : Char) : Prop :=
  p = .char c ∨ p = .unit c.toNat ∧ c.toNat < 32

theorem unit?_hex4 {m : Nat} (hm : m < 65536) :
    ∃ a b c d, hex4 m = [a, b, c, d] ∧ unit? a b c d = some m := by
  refine ⟨_, _, _, _, rfl, ?_⟩
  have hdigit : ∀ k, hexDigit? (Nat.digitChar (k % 16)) = some (k % 16) := fun k =>
    hexDigit?_digitChar _ (Nat.mod_lt _ (by decide))
  simp only [unit?, hdigit, Option.bind_eq_bind, Option.bind_some, Option.pure_def,
    Option.some.injEq]
  omega

/-- A short escape is read as its character. -/
theorem pieces_short {e c : Char} (he : shortEscape? e = some c) (t : List Char) :
    pieces ('\\' :: e :: t) = (pieces t).map fun (later, rest) => (.char c :: later, rest) := by
  have hu : e ≠ 'u' := by
    rintro rfl
    cases he
  rw [pieces]
  · rw [he]
    cases pieces t <;> rfl
  · exact fun _ _ _ _ _ h _ => hu h

theorem pieces_hex4 {m : Nat} (hm : m < 65536) (t : List Char) :
    pieces ('\\' :: 'u' :: hex4 m ++ t) =
      (pieces t).map fun (later, rest) => (.unit m :: later, rest) := by
  obtain ⟨a, b, c, d, hhex, hunit⟩ := unit?_hex4 hm
  rw [hhex]
  simp only [List.cons_append, List.nil_append]
  rw [pieces, hunit]
  cases pieces t <;> rfl

theorem pieces_plain {c : Char} (hquote : c ≠ '"') (hback : c ≠ '\\') (hc : ¬ c.toNat < 32)
    (t : List Char) :
    pieces (c :: t) = (pieces t).map fun (later, rest) => (.char c :: later, rest) := by
  rw [pieces]
  · simp only [hc, hback, decide_false, Bool.or_self, Bool.false_eq_true, if_false]
    cases pieces t <;> rfl
  all_goals simp [hquote, hback]

theorem pieces_escapeChar (c : Char) (t : List Char) :
    ∃ p : Piece, p.Means c ∧
      pieces (escapeChar c ++ t) = (pieces t).map fun (later, rest) => (p :: later, rest) := by
  have hshort : ∀ e, shortEscape? e = some c → ∃ p : Piece, p.Means c ∧
      pieces (['\\', e] ++ t) = (pieces t).map fun (later, rest) => (p :: later, rest) :=
    fun e he => ⟨.char c, .inl rfl, pieces_short he t⟩
  have hcode : ∀ m (h : c.toNat = m) (d : Char), d.toNat = m → c = d := fun m h d hd =>
    Char.toNat_inj.1 (h.trans hd.symm)
  rw [escapeChar]
  split
  · exact hshort _ (by simp_all [shortEscape?])
  split
  · exact hshort _ (by simp_all [shortEscape?])
  split
  · exact hshort _ (by simp_all [shortEscape?])
  split
  · exact hshort _ (by simp_all [shortEscape?])
  split
  · exact hshort _ (by simp_all [shortEscape?])
  split
  · rename_i h
    exact hshort _ (by rw [hcode 8 h '\x08' rfl]; rfl)
  split
  · rename_i h
    exact hshort _ (by rw [hcode 12 h '\x0c' rfl]; rfl)
  split
  · rename_i hlt
    exact ⟨.unit c.toNat, .inr ⟨rfl, hlt⟩, pieces_hex4 (by omega) t⟩
  · rename_i hquote hback _ _ _ _ _ hge
    exact ⟨.char c, .inl rfl, pieces_plain hquote hback hge t⟩

theorem combine_cons {p : Piece} {c : Char} (h : p.Means c) (later : List Piece) :
    combine (p :: later) = (combine later).map (c :: ·) := by
  rcases h with rfl | ⟨rfl, hc⟩
  · rfl
  · have hsmall : ¬ 0xD800 ≤ c.toNat := by omega
    have hsmall' : ¬ 0xDC00 ≤ c.toNat := by omega
    cases later with
    | nil => simp [combine, hsmall, Char.ofNat_toNat]
    | cons q later =>
      cases q with
      | char d => simp [combine, hsmall, Char.ofNat_toNat]
      | unit m => simp [combine, hsmall, hsmall', Char.ofNat_toNat]

/-- **A string is read back** up to its closing quote. -/
theorem stringBody_flatMap (cs rest : List Char) :
    stringBody (cs.flatMap escapeChar ++ '"' :: rest) = some (some (String.ofList cs), rest) := by
  have hpieces : ∃ ps, pieces (cs.flatMap escapeChar ++ '"' :: rest) = some (ps, rest) ∧
      combine ps = some cs := by
    induction cs with
    | nil => exact ⟨[], by simp [pieces], rfl⟩
    | cons c cs ih =>
      obtain ⟨ps, hps, hcombine⟩ := ih
      obtain ⟨p, hp, hpieces⟩ := pieces_escapeChar c (cs.flatMap escapeChar ++ '"' :: rest)
      refine ⟨p :: ps, ?_, ?_⟩
      · rw [List.flatMap_cons, List.append_assoc, hpieces, hps]
        rfl
      · rw [combine_cons hp, hcombine]
        rfl
  obtain ⟨ps, hps, hcombine⟩ := hpieces
  simp only [stringBody, hps, Option.map_some, hcombine]

/-! ## Values -/

/-- **A document is read back** in front of every rest that does not go on with a number, with no
more steps than its text has characters. -/
structure IsRead (d : Document) : Prop where
  /-- Its text starts with something that is neither a blank nor the end of a list. -/
  begins : ∃ c t, (compact d).toList = c :: t ∧ isSpace c = false ∧ c ≠ ']'
  /-- Its text is taken from the front, and the document is what it says. -/
  value : ∀ fuel rest, (compact d).toList.length ≤ fuel → Stops goesOn rest →
    value? fuel ((compact d).toList ++ rest) = some (d, rest)

theorem skipSpace_cons {c : Char} (h : isSpace c = false) : skipSpace (c :: t) = c :: t := by
  rw [skipSpace, List.dropWhile_cons, h]
  rfl

theorem stops_cons {c : Char} (h : goesOn c = false) : Stops goesOn (c :: rest) := by
  rintro _ ⟨⟩
  exact h

/-- What a word stands for is read from it. -/
theorem isRead_of_word {d : Document} (c : Char) (word : List Char)
    (htext : (compact d).toList = c :: word) (hc : isSpace c = false ∧ c ≠ ']')
    (hread : ∀ fuel rest, value? (fuel + 1) (c :: (word ++ rest)) = some (d, rest)) : IsRead d where
  begins := ⟨c, word, htext, hc⟩
  value fuel rest hfuel _ := by
    rw [htext] at hfuel ⊢
    obtain ⟨fuel, rfl⟩ := Nat.exists_eq_add_of_lt hfuel
    exact hread _ rest

theorem isRead_null : IsRead null :=
  isRead_of_word 'n' "ull".toList rfl (by decide) fun _ _ => rfl

theorem isRead_bool (b : Bool) : IsRead (bool b) := by
  cases b with
  | true => exact isRead_of_word 't' "rue".toList rfl (by decide) fun _ _ => rfl
  | false => exact isRead_of_word 'f' "alse".toList rfl (by decide) fun _ _ => rfl

/-- What a number starts with. -/
theorem exists_cons_of_numeral? (h : numeral? s = some (n, t)) :
    ∃ c s', s = c :: s' ∧ (c = '-' ∨ isDigit c = true) := by
  cases s with
  | nil => cases h
  | cons c s =>
    refine ⟨c, s, rfl, ?_⟩
    by_cases hc : c = '-'
    · exact .inl hc
    · rw [numeral?_eq] at h
      obtain ⟨_, hdigits, -⟩ := Option.bind_eq_some_iff.1 h
      have hsign : sign (c :: s) = (false, c :: s) := by simp [sign, hc]
      cases hdigit : isDigit c with
      | true => exact .inr rfl
      | false => simp [hsign, someDigits?, hdigit] at hdigits

theorem value?_number {c : Char} (hc : c = '-' ∨ isDigit c = true)
    (h : numeral? (c :: s) = some (n, t)) : isSpace c = false ∧ c ≠ ']' ∧
      ∀ fuel, value? (fuel + 1) (c :: s) = some (n.toDocument, t) := by
  have hne : ∀ b, b ≠ '-' ∧ isDigit b = false → c ≠ b := by
    rintro b ⟨hminus, hdigit⟩ rfl
    rcases hc with rfl | hc
    · exact hminus rfl
    · rw [hdigit] at hc
      cases hc
  have hspace : isSpace c = false := by
    have hblanks : ∀ b ∈ [' ', '\n', '\t', '\r'], c ≠ b := fun b hb => hne b (by
      simp only [List.mem_cons, List.not_mem_nil, or_false] at hb
      rcases hb with rfl | rfl | rfl | rfl <;> decide)
    simpa [isSpace, and_assoc] using hblanks
  refine ⟨hspace, hne _ (by decide), fun fuel => ?_⟩
  -- every other value starts with a character of its own
  have hother : ∀ b t', b ≠ '-' ∧ isDigit b = false → c :: s ≠ b :: t' := fun b t' hb heq =>
    hne b hb (List.cons.inj heq).1
  rw [value?, skipSpace_cons hspace]
  split
  case h_1 => contradiction
  case h_8 => rw [h, Option.map_some]
  all_goals exact absurd ‹c :: s = _› (hother _ _ (by decide))

theorem isRead_of_numeral {d : Document} (h : numeral? (compact d).toList = some (n, []))
    (hn : n.toDocument = d) : IsRead d := by
  obtain ⟨c, s, htext, hc⟩ := exists_cons_of_numeral? h
  rw [htext] at h
  obtain ⟨hspace, hbracket, -⟩ := value?_number hc h
  refine ⟨⟨c, s, htext, hspace, hbracket⟩, fun fuel rest hfuel hrest => ?_⟩
  rw [htext] at hfuel ⊢
  obtain ⟨fuel, rfl⟩ := Nat.exists_eq_add_of_lt hfuel
  have happend := numeral?_append hrest h
  rw [List.nil_append] at happend
  rw [← hn]
  exact (value?_number hc happend).2.2 _

theorem isRead_integer {i : Int} (hlower : -9223372036854775808 ≤ i)
    (hupper : i ≤ 18446744073709551615) : IsRead (integer i) := by
  refine isRead_of_numeral ?_ (toDocument_integer hlower hupper)
  have h : numeral? ((toString i).toList ++ []) = _ := numeral?_integer i (by rintro c ⟨⟩)
  rwa [List.append_nil] at h

theorem toList_quoted (s : String) :
    (quoted s).toList = '"' :: (s.toList.flatMap escapeChar ++ ['"']) := by
  simp [quoted]

theorem stringBody_quoted (s : String) (rest : List Char) :
    ∃ t, (quoted s).toList ++ rest = '"' :: t ∧ stringBody t = some (some s, rest) := by
  refine ⟨s.toList.flatMap escapeChar ++ '"' :: rest, by simp [toList_quoted], ?_⟩
  rw [stringBody_flatMap, String.ofList_toList]

theorem isRead_string (s : String) : IsRead (string s) := by
  refine ⟨⟨'"', _, toList_quoted s, by decide⟩, fun fuel rest hfuel _ => ?_⟩
  obtain ⟨t, ht, hbody⟩ := stringBody_quoted s rest
  rw [compact, toList_quoted] at hfuel
  obtain ⟨fuel, rfl⟩ := Nat.exists_eq_add_of_lt hfuel
  rw [compact, ht, value?, skipSpace_cons (by decide)]
  simp only [hbody, Option.map_some, Option.getD_some]

/-! ## Lists and tables -/

/-- The text between the brackets of a list. -/
def itemsText (items : List Document) : List Char :=
  (",".intercalate (compactItems items)).toList

/-- The text between the braces of a table. -/
def membersText (members : List (String × Document)) : List Char :=
  (",".intercalate (compactMembers members)).toList

theorem toList_compact_list (items : List Document) :
    (compact (list items)).toList = '[' :: (itemsText items ++ [']']) := by
  simp [compact, itemsText]

theorem toList_compact_table (members : List (String × Document)) :
    (compact (table members)).toList = '\x7b' :: (membersText members ++ ['\x7d']) := by
  simp [compact, membersText]

theorem itemsText_singleton (d : Document) : itemsText [d] = (compact d).toList := by
  simp [itemsText, compactItems]

theorem itemsText_cons_cons (d e : Document) (items : List Document) :
    itemsText (d :: e :: items) = (compact d).toList ++ ',' :: itemsText (e :: items) := by
  simp [itemsText, compactItems, String.intercalate_cons_cons]

theorem membersText_singleton (m : String × Document) :
    membersText [m] = (quoted m.1).toList ++ ':' :: (compact m.2).toList := by
  simp [membersText, compactMembers]

theorem membersText_cons_cons (m k : String × Document) (members : List (String × Document)) :
    membersText (m :: k :: members) = (quoted m.1).toList ++
      ':' :: ((compact m.2).toList ++ ',' :: membersText (k :: members)) := by
  simp [membersText, compactMembers, String.intercalate_cons_cons]

/-- Items that are read one by one are read together. -/
theorem items?_itemsText {items : List Document} (hne : items ≠ [])
    (h : ∀ d ∈ items, IsRead d) :
    ∀ fuel rest, (itemsText items).length < fuel →
      items? fuel (itemsText items ++ ']' :: rest) = some (items, rest) := by
  induction items with
  | nil => exact absurd rfl hne
  | cons d items ih =>
    obtain ⟨hd, hitems⟩ := List.forall_mem_cons.1 h
    intro fuel rest hfuel
    obtain ⟨fuel, rfl⟩ := Nat.exists_eq_succ_of_ne_zero (Nat.ne_zero_of_lt hfuel)
    cases items with
    | nil =>
      rw [itemsText_singleton] at hfuel ⊢
      rw [items?, hd.value _ _ (by omega) (stops_cons (by decide))]
      rfl
    | cons e items =>
      rw [itemsText_cons_cons, List.length_append, List.length_cons] at hfuel
      rw [itemsText_cons_cons, List.append_assoc, List.cons_append, items?,
        hd.value _ _ (by omega) (stops_cons (by decide))]
      simp only [Option.bind_eq_bind, Option.bind_some,
        skipSpace_cons (show isSpace ',' = false by decide)]
      rw [ih (List.cons_ne_nil _ _) hitems _ _ (by omega), Option.map_some]

theorem isRead_list {items : List Document} (h : ∀ d ∈ items, IsRead d) :
    IsRead (list items) := by
  refine ⟨⟨'[', _, toList_compact_list items, by decide⟩, fun fuel rest hfuel _ => ?_⟩
  rw [toList_compact_list, List.length_cons, List.length_append, List.length_singleton] at hfuel
  obtain ⟨fuel, rfl⟩ := Nat.exists_eq_succ_of_ne_zero (Nat.ne_zero_of_lt hfuel)
  rw [toList_compact_list, List.cons_append, List.append_assoc, value?,
    skipSpace_cons (by decide)]
  cases items with
  | nil => rfl
  | cons d items =>
    -- the first item is no end of the list
    obtain ⟨c, t, htext, hspace, hend⟩ : ∃ c t, itemsText (d :: items) = c :: t ∧
        isSpace c = false ∧ c ≠ ']' := by
      obtain ⟨c, t, htext, hc⟩ := (List.forall_mem_cons.1 h).1.begins
      cases items with
      | nil => exact ⟨c, t, by rw [itemsText_singleton, htext], hc⟩
      | cons e items => exact ⟨c, _, by rw [itemsText_cons_cons, htext, List.cons_append], hc⟩
    have hitems := items?_itemsText (List.cons_ne_nil d items) h fuel rest (by omega)
    rw [htext, List.cons_append] at hitems
    rw [htext, List.cons_append, List.singleton_append]
    simp only [skipSpace_cons hspace]
    split
    · exact absurd (List.cons.inj ‹c :: _ = _›).1 hend
    · rw [hitems, Option.map_some]

/-- Members whose values are read one by one are read together, with their names. -/
theorem members?_membersText {members : List (String × Document)} (hne : members ≠ [])
    (h : ∀ m ∈ members, IsRead m.2) :
    ∀ fuel rest, (membersText members).length < fuel →
      members? fuel (membersText members ++ '\x7d' :: rest) =
        some (members.map fun m => (some m.1, m.2), rest) := by
  induction members with
  | nil => exact absurd rfl hne
  | cons m members ih =>
    obtain ⟨hm, hmembers⟩ := List.forall_mem_cons.1 h
    intro fuel rest hfuel
    obtain ⟨fuel, rfl⟩ := Nat.exists_eq_succ_of_ne_zero (Nat.ne_zero_of_lt hfuel)
    cases members with
    | nil =>
      rw [membersText_singleton, List.length_append, List.length_cons] at hfuel
      rw [membersText_singleton, List.append_assoc, List.cons_append]
      obtain ⟨t, ht, hname⟩ := stringBody_quoted m.1
        (':' :: ((compact m.2).toList ++ '\x7d' :: rest))
      rw [ht, members?, skipSpace_cons (by decide)]
      simp only [hname, Option.bind_eq_bind, Option.bind_some,
        skipSpace_cons (show isSpace ':' = false by decide)]
      rw [hm.value _ _ (by omega) (stops_cons (by decide))]
      rfl
    | cons k members =>
      rw [membersText_cons_cons, List.length_append, List.length_cons, List.length_append,
        List.length_cons] at hfuel
      rw [membersText_cons_cons, List.append_assoc, List.cons_append, List.append_assoc,
        List.cons_append]
      obtain ⟨t, ht, hname⟩ := stringBody_quoted m.1
        (':' :: ((compact m.2).toList ++ ',' :: (membersText (k :: members) ++ '\x7d' :: rest)))
      rw [ht, members?, skipSpace_cons (by decide)]
      simp only [hname, Option.bind_eq_bind, Option.bind_some,
        skipSpace_cons (show isSpace ':' = false by decide)]
      rw [hm.value _ _ (by omega) (stops_cons (by decide))]
      simp only [Option.bind_some, skipSpace_cons (show isSpace ',' = false by decide)]
      rw [ih (List.cons_ne_nil _ _) hmembers _ _ (by omega)]
      rfl

theorem tableOf_map (members : List (String × Document)) :
    tableOf (members.map fun m => (some m.1, m.2)) = table members := by
  have hall : ∀ f : Option String × Document → Option (String × Document),
      (∀ m, f (some m.1, m.2) = some m) →
        (members.map fun m => (some m.1, m.2)).mapM f = some members := by
    intro f hf
    induction members with
    | nil => rfl
    | cons m members ih =>
      rw [List.map_cons, List.mapM_cons, ih, hf]
      rfl
  rw [tableOf, hall _ fun _ => rfl]

theorem isRead_table {members : List (String × Document)} (h : ∀ m ∈ members, IsRead m.2) :
    IsRead (table members) := by
  refine ⟨⟨'\x7b', _, toList_compact_table members, by decide⟩, fun fuel rest hfuel _ => ?_⟩
  rw [toList_compact_table, List.length_cons, List.length_append, List.length_singleton] at hfuel
  obtain ⟨fuel, rfl⟩ := Nat.exists_eq_succ_of_ne_zero (Nat.ne_zero_of_lt hfuel)
  rw [toList_compact_table, List.cons_append, List.append_assoc, value?,
    skipSpace_cons (by decide)]
  cases members with
  | nil => rfl
  | cons m members =>
    -- a name in quotes is no end of the table
    obtain ⟨t, htext⟩ : ∃ t, membersText (m :: members) = '"' :: t := by
      cases members with
      | nil => exact ⟨_, by rw [membersText_singleton, toList_quoted, List.cons_append]⟩
      | cons k members => exact ⟨_, by rw [membersText_cons_cons, toList_quoted, List.cons_append]⟩
    have hmembers := members?_membersText (List.cons_ne_nil m members) h fuel rest (by omega)
    rw [htext, List.cons_append] at hmembers
    rw [htext, List.cons_append, List.singleton_append]
    simp only [skipSpace_cons (show isSpace '"' = false by decide)]
    split
    · rename_i hquote
      exact absurd (List.cons.inj hquote).1 (by decide)
    · rw [hmembers, Option.map_some, tableOf_map]

/-- The double that a text is, if it is one number in JSON that stands for a double. -/
def double? (s : List Char) : Option Binary64 :=
  match numeral? s with
  | some (n, []) =>
    match n.toDocument with
    | .float x => some x
    | _ => none
  | _ => none

theorem isRead_float {x : Binary64} {text : String} (htext : x.toData? = some text)
    (h : double? text.toList = some x) : IsRead (float x) := by
  have hcompact : compact (float x) = text := by rw [compact, htext, Option.getD_some]
  rw [double?] at h
  split at h
  · rename_i n hnumeral
    split at h
    · rename_i y hn
      cases h
      exact isRead_of_numeral (by rw [hcompact, hnumeral]) hn
    · cases h
  · cases h

end Document.Json

/-- **The text of a double is read as this double.** A double that is not finite has none. -/
def Binary64.ReadsBack (x : Binary64) : Prop :=
  x.toData?.bind (fun text => Document.Json.double? text.toList) = some x

instance (x : Binary64) : Decidable x.ReadsBack := inferInstanceAs (Decidable (_ = _))

namespace Document

/-- A document that JSON has a form for: without dates, with integers of 64 bits, and with doubles
whose texts are read as these doubles. -/
inductive IsJson : Document → Prop
  /-- No value. -/
  | null : IsJson null
  /-- A truth value. -/
  | bool (value : Bool) : IsJson (bool value)
  /-- A whole number of 64 bits, with or without a sign. -/
  | integer {value : Int} : -9223372036854775808 ≤ value → value ≤ 18446744073709551615 →
      IsJson (integer value)
  /-- A double. -/
  | float {value : Binary64} : value.ReadsBack → IsJson (float value)
  /-- A text. -/
  | string (value : String) : IsJson (string value)
  /-- A list. -/
  | list {items : List Document} : (∀ d ∈ items, IsJson d) → IsJson (list items)
  /-- A table. -/
  | table {members : List (String × Document)} : (∀ m ∈ members, IsJson m.2) →
      IsJson (table members)

variable {d : Document}

open Json

theorem IsJson.isRead (h : IsJson d) : IsRead d := by
  induction h with
  | null => exact isRead_null
  | bool b => exact isRead_bool b
  | integer hlower hupper => exact isRead_integer hlower hupper
  | float h =>
    obtain ⟨text, htext, hdouble⟩ := Option.bind_eq_some_iff.1 h
    exact isRead_float htext hdouble
  | string s => exact isRead_string s
  | list _ ih => exact isRead_list ih
  | table _ ih => exact isRead_table ih

/-- **What is written as JSON is read back.** -/
theorem ofJson?_compact (h : IsJson d) : ofJson? d.compact = some d := by
  have hread := h.isRead.value (2 * d.compact.toList.length + 2) [] (by omega) (by rintro c ⟨⟩)
  rw [List.append_nil] at hread
  simp only [ofJson?, hread]
  rfl

/-! ## One line -/

theorem digitChar_ne_newline (k : Nat) : Nat.digitChar k ≠ '\n' := by
  have hsmall : ∀ k < 16, Nat.digitChar k ≠ '\n' := by decide
  by_cases hk : k < 16
  · exact hsmall k hk
  · have hstar : Nat.digitChar k = '*' := by
      rw [Nat.digitChar]
      iterate 16 rw [if_neg (by omega)]
    rw [hstar]
    decide

theorem newline_not_mem_quoted (s : String) : '\n' ∉ (quoted s).toList := by
  have hescape : ∀ c, '\n' ∉ escapeChar c := by
    intro c
    have hhex : '\n' ∉ hex4 c.toNat := by
      simp [hex4, (digitChar_ne_newline _).symm]
    by_cases hc : c = '\n'
    · rw [hc]
      decide
    · unfold escapeChar
      split_ifs <;> simp [hhex, Ne.symm hc]
  simp [toList_quoted, hescape]

theorem newline_not_mem_toString (n : Nat) : '\n' ∉ (toString n).toList := by
  rw [toList_toString]
  intro h
  exact absurd (isDigit_of_mem_toDigits h) (by decide)

theorem newline_not_mem_toData? {x : Binary64} {text : String} (h : x.toData? = some text) :
    '\n' ∉ text.toList := by
  have hsign : ∀ negative, '\n' ∉ (Binary64.signText negative).toList := by decide
  have hdigits : ∀ digits, '\n' ∉ (Binary64.digitText digits).toList := fun digits => by
    simp [Binary64.digitText, digitChar_ne_newline]
  have hzeros : ∀ count, '\n' ∉ (Binary64.zeros count).toList := fun count => by
    simp [Binary64.zeros]
  have hpositional : ∀ d, '\n' ∉ (Binary64.positionalText d).toList := fun d => by
    unfold Binary64.positionalText
    split_ifs <;> simp [hdigits, hzeros]
  have hscientific : ∀ d, '\n' ∉ (Binary64.scientificText d).toList := fun d => by
    simp only [Binary64.scientificText, String.toList_append, List.mem_append, not_or]
    refine ⟨⟨⟨⟨hdigits _, ?_⟩, by decide⟩, ?_⟩, newline_not_mem_toString _⟩
    · split_ifs <;> simp [hdigits]
    · split_ifs <;> decide
  cases x with
  | nan => cases h
  | infinite negative => cases h
  | finite negative magnitude =>
    rw [Binary64.toData?, Option.some.injEq] at h
    subst h
    split_ifs <;> simp [hsign, hpositional, hscientific]

theorem newline_not_mem_intercalate {texts : List String} (h : ∀ t ∈ texts, '\n' ∉ t.toList) :
    '\n' ∉ (",".intercalate texts).toList := by
  induction texts with
  | nil => simp
  | cons t texts ih =>
    obtain ⟨ht, htexts⟩ := List.forall_mem_cons.1 h
    cases texts with
    | nil => simpa using ht
    | cons u texts => simpa [String.intercalate_cons_cons, ht] using ih htexts

mutual

/-- **A document is written in one line.** -/
theorem newline_not_mem_compact : ∀ d : Document, '\n' ∉ (compact d).toList
  | .null | .date | .unreadable | .bool true | .bool false => by decide
  | .integer i => by
    rw [compact, toList_toString_int]
    have hdigits : '\n' ∉ Nat.toDigits 10 i.natAbs := fun h =>
      absurd (isDigit_of_mem_toDigits h) (by decide)
    split <;> simp [hdigits]
  | .float x => by
    rw [compact]
    cases h : x.toData? with
    | none => decide
    | some text => exact newline_not_mem_toData? h
  | .string s => newline_not_mem_quoted s
  | .list items => by
    have hitems := newline_not_mem_intercalate (newline_not_mem_compactItems items)
    simpa [toList_compact_list, itemsText] using hitems
  | .table members => by
    have hmembers := newline_not_mem_intercalate (newline_not_mem_compactMembers members)
    simpa [toList_compact_table, membersText] using hmembers

theorem newline_not_mem_compactItems : ∀ items : List Document,
    ∀ text ∈ compactItems items, '\n' ∉ text.toList
  | [] => by simp [compactItems]
  | d :: items => by
    rw [compactItems, List.forall_mem_cons]
    exact ⟨newline_not_mem_compact d, newline_not_mem_compactItems items⟩

theorem newline_not_mem_compactMembers : ∀ members : List (String × Document),
    ∀ text ∈ compactMembers members, '\n' ∉ text.toList
  | [] => by simp [compactMembers]
  | (name, d) :: members => by
    rw [compactMembers, List.forall_mem_cons]
    refine ⟨?_, newline_not_mem_compactMembers members⟩
    simp [newline_not_mem_quoted, newline_not_mem_compact d]

end

end Document

end FlowParity
