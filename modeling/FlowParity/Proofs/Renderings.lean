import FlowParity.Compare.Report
import FlowParity.Proofs.Labels
import Mathlib.Data.List.Forall2
/-!
# Renderings

A report tells its verdict in several ways, and each of them works it out from the outcomes by
itself: whether it passes, which outcomes fail, lines of text with a mark or with colours, the rows
of a table, a summary in one line, and data. They all say the same (`Report.sameVerdict`).

What an outcome says, its verdict aside, is a line of fields with tabs between them
(`Report.split_statement`). Its first field is the label of a segment, which has a blank in it, or
the name of a measure, so no statement can be taken for one that is marked; and nothing but escape
sequences has an escape character in it. So the mark and the colours can be taken off again, and
the same text is left.
-/

namespace FlowParity

open Text

/-! ## What is printed -/

/-- A blank or a visible character. -/
def IsPrinted (c : Char) : Prop :=
  c = ' ' ∨ IsVisible c

instance : DecidablePred IsPrinted := fun _ => inferInstanceAs (Decidable (_ ∨ _))

theorem Segment.isPrinted_of_mem_toText (s : Segment) : ∀ c ∈ s.toText.toList, IsPrinted c := by
  intro c hc
  rw [toList_toText] at hc
  refine (eq_or_exists_of_mem_join hc).imp_right fun hwords => ?_
  obtain ⟨word, hword, hmem⟩ := hwords
  exact s.isVisible_of_mem_words word hword c hmem

theorem Outcome.isPrinted_of_mem_label? {o : Outcome} {label : String}
    (h : label ∈ o.label?) : ∀ c ∈ label.toList, IsPrinted c := by
  obtain ⟨s, -, rfl⟩ := Option.map_eq_some_iff.1 h
  exact s.isPrinted_of_mem_toText

/-- A label has a blank in it. -/
theorem Segment.blank_mem_toText (s : Segment) : ' ' ∈ s.toText.toList := by
  rw [toList_toText]
  cases s <;> simp [words, join]

theorem isPrinted_of_mem_toString (n : Nat) : ∀ c ∈ (toString n).toList, IsPrinted c := by
  rw [toList_toString]
  exact fun c hc =>
    .inr (isVisible_of_mem_instantLetters c (mem_instantLetters_of_mem_toDigits c hc))

theorem isPrinted_of_mem_padded {w n : Nat} : ∀ c ∈ (padded w n).toList, IsPrinted c :=
  fun c hc => .inr (isVisible_of_mem_instantLetters c (mem_instantLetters_of_mem_padded c hc))

theorem Binary64.isPrinted_of_mem_toFixed (places : Nat) (x : Binary64) :
    ∀ c ∈ (x.toFixed places).toList, IsPrinted c := by
  have hsign : ∀ negative, ∀ c ∈ (signText negative).toList, IsPrinted c := fun negative => by
    cases negative <;> exact forall_mem_of_all (by decide)
  cases x with
  | nan =>
    rw [toFixed]
    exact forall_mem_of_all (by decide)
  | infinite negative =>
    simp only [toFixed, String.toList_append, List.forall_mem_append]
    exact ⟨hsign _, forall_mem_of_all (by decide)⟩
  | finite negative magnitude =>
    simp only [toFixed, String.toList_append, List.forall_mem_append]
    refine ⟨⟨hsign _, isPrinted_of_mem_toString _⟩, ?_⟩
    split
    · exact List.forall_mem_nil _
    · simp only [String.toList_append, List.forall_mem_append]
      exact ⟨forall_mem_of_all (by decide), isPrinted_of_mem_padded⟩

theorem Measure.isPrinted_of_mem_toText (m : Measure) : ∀ c ∈ m.toText.toList, IsPrinted c := by
  cases m <;> exact forall_mem_of_all (by decide)

/-! ## Erasing -/

namespace Text

/-- The text without the codes that stand in it, found from left to right. The first `skipped`
characters belong to a code that was found. -/
def erase (codes : List (List Char)) : Nat → List Char → List Char
  | _, [] => []
  | skipped + 1, _ :: s => erase codes skipped s
  | 0, c :: s =>
    match codes.find? (·.isPrefixOf (c :: s)) with
    | some code => erase codes (code.length - 1) s
    | none => c :: erase codes 0 s

variable {codes : List (List Char)} {code s : List Char} {c : Char}

theorem erase_skipped (codes : List (List Char)) (s t : List Char) :
    erase codes s.length (s ++ t) = erase codes 0 t := by
  induction s with
  | nil => rfl
  | cons c s ih => exact ih

/-- A code that is found is erased. -/
theorem erase_append_of_find? {t : List Char}
    (h : codes.find? (·.isPrefixOf (c :: code ++ t)) = some (c :: code)) :
    erase codes 0 (c :: code ++ t) = erase codes 0 t := by
  rw [List.cons_append] at h ⊢
  rw [erase, h]
  exact erase_skipped codes code t

/-- What has no first character of a code in it is left. -/
theorem erase_append (hcodes : ∀ code ∈ codes, code.head? = some c) (hs : c ∉ s) (t : List Char) :
    erase codes 0 (s ++ t) = s ++ erase codes 0 t := by
  induction s with
  | nil => rfl
  | cons d s ih =>
    rw [List.mem_cons, not_or] at hs
    have hnone : codes.find? (·.isPrefixOf (d :: (s ++ t))) = none := by
      refine List.find?_eq_none.2 fun code hcode hbegins => hs.1 ?_
      obtain ⟨rest, hrest⟩ := List.isPrefixOf_iff_prefix.1 hbegins
      have hhead := hcodes code hcode
      obtain ⟨rest', rfl⟩ := List.head?_eq_some_iff.1 hhead
      exact (List.cons.inj hrest).1
    rw [List.cons_append, erase, hnone, ih hs.2]
    rfl

/-- Erasing goes through a text part by part, if it goes through each part. -/
theorem erase_flatMap {α : Type} {f g : α → List Char} {xs : List α}
    (h : ∀ x ∈ xs, ∀ t, erase codes 0 (f x ++ t) = g x ++ erase codes 0 t) :
    erase codes 0 (xs.flatMap f) = xs.flatMap g := by
  induction xs with
  | nil => rfl
  | cons x xs ih =>
    rw [List.forall_mem_cons] at h
    rw [List.flatMap_cons, h.1, ih h.2, List.flatMap_cons]

end Text

/-! ## Lines -/

/-- **A text is made of these lines**: each of them ends, and nothing is left after the last one. -/
def HasLines (text : String) (lines : List (List Char)) : Prop :=
  split '\n' text.toList = lines ++ [[]]

namespace HasLines

variable {text text' : String} {lines lines' : List (List Char)}

theorem of_flatMap (htext : text.toList = lines.flatMap (· ++ ['\n']))
    (hlines : ∀ line ∈ lines, '\n' ∉ line) : HasLines text lines := by
  rw [HasLines, htext, ← join_append_nil]
  refine split_join (List.append_ne_nil_of_right_ne_nil _ (List.cons_ne_nil _ _)) ?_
  rw [List.forall_mem_append]
  exact ⟨hlines, by simp⟩

theorem toList_eq (h : HasLines text lines) : text.toList = lines.flatMap (· ++ ['\n']) := by
  rw [← join_split '\n' text.toList, h, join_append_nil]

theorem not_mem (h : HasLines text lines) : ∀ line ∈ lines, '\n' ∉ line := fun line hline =>
  not_mem_of_mem_split line (h ▸ List.mem_append_left _ hline)

/-- Lines go on with lines. -/
theorem append (h : HasLines text lines) (h' : HasLines text' lines') :
    HasLines (text ++ text') (lines ++ lines') := by
  refine of_flatMap ?_ (List.forall_mem_append.2 ⟨h.not_mem, h'.not_mem⟩)
  rw [String.toList_append, h.toList_eq, h'.toList_eq, List.flatMap_append]

end HasLines

namespace Report

variable {o : Outcome} {os : List Outcome} {r : Report}

/-! ## Statements -/

theorem toString_string (s : String) : toString s = s := rfl

/-- The mark of an outcome that fails, where there are no colours. -/
def mark : String := "FAIL\t"

/-- The fields of a statement. -/
def fields (o : Outcome) : List (List Char) :=
  (o.label?.map String.toList).toList ++ [o.metric.measure.toText.toList,
    (o.difference.toFixed 4).toList ++ '/' :: (o.metric.tolerance.toFixed 4).toList,
    '(' :: ((toString o.value.toNat).toList ++ '/' :: ((toString o.reference.toNat).toList ++ [')']))]

theorem isPrinted_of_mem_fields (o : Outcome) : ∀ field ∈ fields o, ∀ c ∈ field, IsPrinted c := by
  have hratio := Binary64.isPrinted_of_mem_toFixed 4
  simp only [fields, List.forall_mem_append, List.forall_mem_cons]
  refine ⟨?_, Measure.isPrinted_of_mem_toText _, ⟨hratio _, by decide, hratio _⟩,
    ⟨by decide, isPrinted_of_mem_toString _, by decide, isPrinted_of_mem_toString _, by decide,
      List.forall_mem_nil _⟩, List.forall_mem_nil _⟩
  cases h : o.label? with
  | none => exact List.forall_mem_nil _
  | some label => exact List.forall_mem_singleton.2 (Outcome.isPrinted_of_mem_label? h)

theorem toList_statement (o : Outcome) : (statement o).toList = join '\t' (fields o) := by
  cases h : o.label? <;> simp [statement, ratios, fields, h, join, toString_string]

/-- **A statement is fields with tabs between them.** -/
theorem split_statement (o : Outcome) : split '\t' (statement o).toList = fields o := by
  rw [toList_statement]
  refine split_join (by simp [fields]) fun field hfield htab => ?_
  exact absurd (isPrinted_of_mem_fields o field hfield _ htab) (by decide)

theorem isPrinted_of_mem_statement {c : Char} (hc : c ∈ (statement o).toList) :
    c = '\t' ∨ IsPrinted c := by
  rw [toList_statement] at hc
  refine (eq_or_exists_of_mem_join hc).imp_right fun hfields => ?_
  obtain ⟨field, hfield, hmem⟩ := hfields
  exact isPrinted_of_mem_fields o field hfield c hmem

theorem newline_not_mem_statement (o : Outcome) : '\n' ∉ (statement o).toList := fun h =>
  absurd (isPrinted_of_mem_statement h) (by decide)

theorem escape_not_mem_statement (o : Outcome) : '\x1b' ∉ (statement o).toList := fun h =>
  absurd (isPrinted_of_mem_statement h) (by decide)

/-- **No statement looks as if it were marked.** -/
theorem not_mark_prefix_statement (o : Outcome) : ¬ mark.toList <+: (statement o).toList := by
  rintro ⟨rest, h⟩
  have hfields : fields o = "FAIL".toList :: split '\t' rest := by
    have hmark : mark.toList = "FAIL".toList ++ ['\t'] := rfl
    rw [← split_statement, ← h, hmark, List.append_assoc, List.singleton_append,
      split_append_cons (by decide)]
  cases hlabel : o.segment with
  | none =>
    simp only [fields, Outcome.label?, hlabel, Option.map_none, Option.toList_none,
      List.nil_append, List.cons.injEq] at hfields
    have hmeasure : ∀ m : Measure, m.toText.toList ≠ "FAIL".toList := by
      intro m
      cases m <;> decide
    exact hmeasure _ hfields.1
  | some s =>
    simp only [fields, Outcome.label?, hlabel, Option.map_some, Option.toList_some,
      List.cons_append, List.cons.injEq] at hfields
    exact absurd (hfields.1 ▸ s.blank_mem_toText) (by decide)

/-! ## Text -/

/-- What stands in the line of an outcome. -/
def lineBody (colored : Bool) (o : Outcome) : List Char :=
  if o.isPassing then (statement o).toList
  else if colored then red.toList ++ (statement o).toList ++ plain.toList
  else mark.toList ++ (statement o).toList

theorem toList_line (colored : Bool) (o : Outcome) :
    (line colored o).toList = lineBody colored o ++ ['\n'] := by
  rw [line, lineBody]
  split
  · simp
  · cases colored <;> simp [mark]

theorem toList_toText (colored : Bool) (r : Report) :
    (r.toText colored).toList = (r.outcomes.map (lineBody colored)).flatMap (· ++ ['\n']) := by
  simp only [toText, String.toList_join, List.flatMap_map, toList_line]

theorem newline_not_mem_lineBody (colored : Bool) (o : Outcome) : '\n' ∉ lineBody colored o := by
  have hred : '\n' ∉ red.toList := by decide
  have hplain : '\n' ∉ plain.toList := by decide
  have hmark : '\n' ∉ mark.toList := by decide
  rw [lineBody]
  split
  · exact newline_not_mem_statement o
  · cases colored <;> simp [newline_not_mem_statement, hred, hplain, hmark]

/-- **The text has a line for each outcome**, in order. -/
theorem hasLines_toText (colored : Bool) (r : Report) :
    HasLines (r.toText colored) (r.outcomes.map (lineBody colored)) := by
  refine .of_flatMap (toList_toText colored r) fun body hbody => ?_
  obtain ⟨o, -, rfl⟩ := List.mem_map.1 hbody
  exact newline_not_mem_lineBody colored o

/-- **What a line without colours tells of its outcome.** -/
structure TellsPlain (o : Outcome) (line : List Char) : Prop where
  /-- It is marked exactly if the outcome fails. -/
  marked : mark.toList <+: line ↔ o.isPassing = false
  /-- After the mark, if any, comes the statement. -/
  content : line = (if o.isPassing then [] else mark.toList) ++ (statement o).toList

theorem tellsPlain_lineBody (o : Outcome) : TellsPlain o (lineBody false o) := by
  rw [lineBody]
  cases h : o.isPassing with
  | true => exact ⟨iff_of_false (not_mark_prefix_statement o) (by simp [h]), by simp [h]⟩
  | false => exact ⟨iff_of_true (List.prefix_append _ _) h, by simp [h]⟩

/-- **What a line with colours tells of its outcome.** -/
structure TellsColored (o : Outcome) (line : List Char) : Prop where
  /-- It starts in red exactly if the outcome fails. -/
  starts : red.toList <+: line ↔ o.isPassing = false
  /-- It puts an end to that in the same case. -/
  ends : plain.toList <:+ line ↔ o.isPassing = false
  /-- In no other case it has an escape character. -/
  escapes : '\x1b' ∈ line ↔ o.isPassing = false
  /-- It is the statement, between the two if the outcome fails. -/
  content : line = if o.isPassing then (statement o).toList
    else red.toList ++ (statement o).toList ++ plain.toList

theorem tellsColored_lineBody (o : Outcome) : TellsColored o (lineBody true o) := by
  have hred : '\x1b' ∈ red.toList := by decide
  have hplain : '\x1b' ∈ plain.toList := by decide
  have hnone := escape_not_mem_statement o
  rw [lineBody]
  cases h : o.isPassing with
  | true =>
    exact ⟨iff_of_false (fun hbegins => hnone (hbegins.subset hred)) (by simp [h]),
      iff_of_false (fun hends => hnone (hends.subset hplain)) (by simp [h]),
      iff_of_false hnone (by simp [h]), by simp [h]⟩
  | false =>
    have hstart : red.toList <+: red.toList ++ (statement o).toList ++ plain.toList := by
      rw [List.append_assoc]
      exact List.prefix_append _ _
    exact ⟨iff_of_true hstart h, iff_of_true (List.suffix_append _ _) h,
      iff_of_true (hstart.subset hred) h, by simp [h]⟩

/-! ## The same text -/

/-- A line without its mark. -/
def unmarkedLine (line : List Char) : List Char :=
  if mark.toList.isPrefixOf line then line.drop mark.toList.length else line

/-- A text without the marks of its lines. -/
def unmarked (text : String) : List Char :=
  join '\n' ((split '\n' text.toList).map unmarkedLine)

/-- The escape sequences of colours. -/
def colors : List (List Char) := [red.toList, plain.toList]

/-- A text without colours. -/
def uncolored (text : String) : List Char :=
  erase colors 0 text.toList

theorem unmarkedLine_lineBody (o : Outcome) :
    unmarkedLine (lineBody false o) = (statement o).toList := by
  have hbegins := (tellsPlain_lineBody o).marked
  rw [← List.isPrefixOf_iff_prefix] at hbegins
  cases h : o.isPassing with
  | true =>
    rw [unmarkedLine, if_neg (by simp [hbegins, h]), lineBody, h, if_pos rfl]
  | false =>
    rw [unmarkedLine, if_pos (hbegins.2 h), lineBody, h, if_neg Bool.false_ne_true,
      if_neg Bool.false_ne_true, List.drop_left]

/-- **Without its marks, the text is the statements.** -/
theorem unmarked_toText (r : Report) :
    unmarked (r.toText false) =
      (r.outcomes.map fun o => (statement o).toList).flatMap (· ++ ['\n']) := by
  have hlines := hasLines_toText false r
  rw [HasLines] at hlines
  have hbodies : (r.outcomes.map (lineBody false)).map unmarkedLine =
      r.outcomes.map fun o => (statement o).toList := by
    rw [List.map_map]
    exact List.map_congr_left fun o _ => unmarkedLine_lineBody o
  have hnil : unmarkedLine [] = [] := by decide
  rw [unmarked, hlines, List.map_append, hbodies, List.map_singleton, hnil, join_append_nil]

theorem toList_red : red.toList = ['\x1b', '[', '3', '1', 'm'] := by
  decide

theorem toList_plain : plain.toList = ['\x1b', '[', '0', 'm'] := by
  decide

theorem erase_red (t : List Char) : erase colors 0 (red.toList ++ t) = erase colors 0 t := by
  rw [toList_red]
  exact erase_append_of_find? (by simp [colors, toList_red])

theorem erase_plain (t : List Char) : erase colors 0 (plain.toList ++ t) = erase colors 0 t := by
  rw [toList_plain]
  exact erase_append_of_find? (by simp [colors, toList_red, toList_plain])

theorem erase_colors_append {s : List Char} (hs : '\x1b' ∉ s) (t : List Char) :
    erase colors 0 (s ++ t) = s ++ erase colors 0 t :=
  erase_append (by decide) hs t

/-- A line without its colours is the statement. -/
theorem erase_lineBody (o : Outcome) (t : List Char) :
    erase colors 0 (lineBody true o ++ t) = (statement o).toList ++ erase colors 0 t := by
  have hstatement := erase_colors_append (escape_not_mem_statement o)
  rw [lineBody]
  split
  · exact hstatement t
  · rw [if_pos rfl, List.append_assoc, List.append_assoc, erase_red, hstatement, erase_plain]

/-- **Without its colours, the text is the statements.** -/
theorem uncolored_toText (r : Report) :
    uncolored (r.toText true) =
      (r.outcomes.map fun o => (statement o).toList).flatMap (· ++ ['\n']) := by
  rw [uncolored, toList_toText, List.flatMap_map, List.flatMap_map]
  refine erase_flatMap fun o _ t => ?_
  rw [List.append_assoc, erase_lineBody, erase_colors_append (by decide), List.append_assoc]

/-! ## Table -/

/-- The cells of a row. -/
def cells (o : Outcome) : List (List Char) :=
  [(verdict o.isPassing).toList, (o.label?.getD "-").toList, o.metric.measure.toText.toList,
    (o.difference.toFixed 4).toList, (o.metric.tolerance.toFixed 4).toList,
    (toString o.value.toNat).toList, (toString o.reference.toNat).toList]

/-- What stands in the row of an outcome. -/
def rowBody (o : Outcome) : List Char :=
  (cells o).flatMap (fun cell => '|' :: ' ' :: (cell ++ [' '])) ++ ['|']

theorem toList_row (o : Outcome) : (row o).toList = rowBody o ++ ['\n'] := by
  unfold row
  simp [ratios, rowBody, cells, toString_string]

theorem isPrinted_of_mem_cells (o : Outcome) : ∀ cell ∈ cells o, ∀ c ∈ cell, IsPrinted c := by
  have hratio := Binary64.isPrinted_of_mem_toFixed 4
  have hverdict : ∀ passing, ∀ c ∈ (verdict passing).toList, IsPrinted c := fun passing => by
    cases passing <;> exact forall_mem_of_all (by decide)
  simp only [cells, List.forall_mem_cons]
  refine ⟨hverdict _, ?_, Measure.isPrinted_of_mem_toText _, hratio _, hratio _,
    isPrinted_of_mem_toString _, isPrinted_of_mem_toString _, List.forall_mem_nil _⟩
  cases h : o.label? with
  | none => exact forall_mem_of_all (by decide)
  | some label => exact Outcome.isPrinted_of_mem_label? h

theorem newline_not_mem_rowBody (o : Outcome) : '\n' ∉ rowBody o := by
  have hcells : ∀ cell ∈ cells o, '\n' ∉ cell := fun cell hcell h =>
    absurd (isPrinted_of_mem_cells o cell hcell _ h) (by decide)
  simpa [rowBody] using hcells

/-- **What a row tells of its outcome.** -/
structure TellsRow (o : Outcome) (line : List Char) : Prop where
  /-- Its first cell is the verdict. -/
  status : ∀ passing, ("| " ++ verdict passing ++ " |").toList <+: line ↔ o.isPassing = passing
  /-- It is the row of the outcome. -/
  content : (row o).toList = line ++ ['\n']

theorem tellsRow_rowBody (o : Outcome) : TellsRow o (rowBody o) := by
  refine ⟨fun passing => ?_, toList_row o⟩
  have hstart : ("| " ++ verdict o.isPassing ++ " |").toList <+: rowBody o := by
    simp [rowBody, cells]
  constructor
  · intro h
    have hlength : ∀ a b : Bool, ("| " ++ verdict a ++ " |").toList.length =
        ("| " ++ verdict b ++ " |").toList.length := by decide
    have hinj : ∀ a b : Bool, ("| " ++ verdict a ++ " |").toList =
        ("| " ++ verdict b ++ " |").toList → a = b := by decide
    have hbegins := List.prefix_of_prefix_length_le hstart h (Nat.le_of_eq (hlength _ _))
    exact hinj _ _ (hbegins.eq_of_length (hlength _ _))
  · rintro rfl
    exact hstart

/-- The lines of the heading. -/
def headingLines : List (List Char) := (split '\n' heading.toList).dropLast

theorem hasLines_heading : HasLines heading headingLines ∧ headingLines.length = 2 := by
  rw [HasLines]
  decide +kernel

/-- **The table has a row for each outcome**, in order, after its heading. -/
theorem hasLines_toMarkdown (r : Report) :
    HasLines r.toMarkdown (headingLines ++ r.outcomes.map rowBody) := by
  refine hasLines_heading.1.append (.of_flatMap ?_ fun body hbody => ?_)
  · simp only [String.toList_join, List.flatMap_map, toList_row]
  · obtain ⟨o, -, rfl⟩ := List.mem_map.1 hbody
    exact newline_not_mem_rowBody o

/-! ## Verdicts -/

/-- **A report passes exactly if no outcome fails.** -/
theorem isPassing_iff : r.isPassing = true ↔ r.failed = [] := by
  simp [isPassing, failed]

theorem isPassing_eq (r : Report) : r.isPassing = decide (r.failed.length = 0) := by
  rw [Bool.eq_iff_iff, isPassing_iff, decide_eq_true_eq, List.length_eq_zero_iff]

/-- A report is made by adding its outcomes one by one. -/
theorem foldl_add (r : Report) (os : List Outcome) :
    os.foldl add r = ⟨r.outcomes ++ os⟩ := by
  induction os generalizing r with
  | nil => rw [List.append_nil]; rfl
  | cons o os ih =>
    rw [List.foldl_cons, ih, add, List.append_assoc, List.singleton_append]

/-! ## JSON -/

open Document (block)

/-- A truth value in JSON. -/
def truth (b : Bool) : String := if b then "true" else "false"

theorem prettyAt_bool (level : Nat) (b : Bool) : Document.prettyAt level (.bool b) = truth b := by
  cases b <;> rfl

theorem prettyAt_nat (level n : Nat) : Document.prettyAt level (.nat n) = toString n := rfl

theorem prettyItems_map {α : Type} (level : Nat) (encode : α → Document) (xs : List α) :
    Document.prettyItems level (xs.map encode) =
      xs.map fun x => Document.prettyAt level (encode x) := by
  induction xs with
  | nil => rfl
  | cons x xs ih => rw [List.map_cons, Document.prettyItems, ih, List.map_cons]

theorem prettyAt_list (level : Nat) (items : List Document) :
    Document.prettyAt level (.list items) =
      block level "[" "]" (Document.prettyItems (level + 1) items) := rfl

/-- The names of what counts need no escapes. -/
theorem quoted_names :
    Document.quoted "passed" ++ ": " = "\"passed\": " ∧
      Document.quoted "total" ++ ": " = "\"total\": " ∧
      Document.quoted "failed" ++ ": " = "\"failed\": " ∧
      Document.quoted "tests" ++ ": " = "\"tests\": " := by
  decide +kernel

/-- **What the JSON text of an outcome tells of it.** -/
structure TellsTest (o : Outcome) (text : String) : Prop where
  /-- Its last member is whether the outcome passes. -/
  passed : ∃ members,
    text = block 2 "\x7b" "\x7d" (members ++ ["\"passed\": " ++ truth o.isPassing])
  /-- It is the data of the outcome. -/
  content : text = Document.prettyAt 2 (outcomeDocument o)

theorem tellsTest_outcomeDocument (o : Outcome) :
    TellsTest o (Document.prettyAt 2 (outcomeDocument o)) := by
  refine ⟨?_, rfl⟩
  rw [← quoted_names.1, ← prettyAt_bool 3]
  exact ⟨[_, _, _, _, _, _], rfl⟩

/-- **The JSON text of a report** has four members, the last one with a text for each outcome. -/
theorem toJson_eq (r : Report) :
    r.toJson = block 0 "\x7b" "\x7d" [
      "\"passed\": " ++ truth r.isPassing,
      "\"total\": " ++ toString r.outcomes.length,
      "\"failed\": " ++ toString r.failed.length,
      "\"tests\": " ++
        block 1 "[" "]" (r.outcomes.map fun o => Document.prettyAt 2 (outcomeDocument o))] := by
  obtain ⟨hpassed, htotal, hfailed, htests⟩ := quoted_names
  rw [toJson, Document.pretty, toDocument, Document.prettyAt]
  simp only [Document.prettyMembers, prettyAt_bool, prettyAt_nat, prettyAt_list, prettyItems_map,
    Nat.zero_add, Nat.reduceAdd, hpassed, htotal, hfailed, htests]

/-! ## The same verdict -/

/-- **A report on some outcomes says the same in every way it is put.** -/
structure SameVerdict (os : List Outcome) (r : Report) : Prop where
  /-- What fails is what fails of the outcomes, in order. -/
  failed : r.failed = os.filter fun o => !o.isPassing
  /-- It passes exactly if nothing fails. -/
  passing : r.isPassing = true ↔ r.failed = []
  /-- Without colours it has a line for each outcome, marked if the outcome fails. -/
  plain : ∃ lines, HasLines (r.toText false) lines ∧ List.Forall₂ TellsPlain os lines
  /-- With colours it has a line for each outcome, in red if the outcome fails. -/
  colored : ∃ lines, HasLines (r.toText true) lines ∧ List.Forall₂ TellsColored os lines
  /-- Without marks and colours both texts are one. -/
  bare : unmarked (r.toText false) = uncolored (r.toText true)
  /-- After two lines of heading the table has a row for each outcome, with its verdict. -/
  rows : ∃ heading lines, heading.length = 2 ∧ HasLines r.toMarkdown (heading ++ lines) ∧
    List.Forall₂ TellsRow os lines
  /-- The summary counts the outcomes and what fails of them. -/
  summary : r.summary = toString os.length ++ " tests, " ++ toString r.failed.length ++
    " failed: " ++ if r.failed.length = 0 then "PASS" else "FAIL"
  /-- So does the JSON text, where each outcome has its verdict. -/
  json : ∃ tests, List.Forall₂ TellsTest os tests ∧
    r.toJson = block 0 "\x7b" "\x7d" [
      "\"passed\": " ++ truth (r.failed.length = 0),
      "\"total\": " ++ toString os.length,
      "\"failed\": " ++ toString r.failed.length,
      "\"tests\": " ++ block 1 "[" "]" tests]

/-- What is told of each outcome in turn is told of all. -/
theorem forall₂_map {α : Type} {R : Outcome → α → Prop} {f : Outcome → α} (h : ∀ o, R o (f o))
    (os : List Outcome) : List.Forall₂ R os (os.map f) :=
  List.forall₂_map_right_iff.2 (List.forall₂_same.2 fun o _ => h o)

/-- **All renderings tell the same verdict**, whatever the outcomes that were added to a report. -/
theorem sameVerdict (os : List Outcome) : SameVerdict os (os.foldl add empty) := by
  rw [foldl_add, empty, List.nil_append]
  exact {
    failed := rfl
    passing := isPassing_iff
    plain := ⟨_, hasLines_toText false _, forall₂_map tellsPlain_lineBody os⟩
    colored := ⟨_, hasLines_toText true _, forall₂_map tellsColored_lineBody os⟩
    bare := by rw [unmarked_toText, uncolored_toText]
    rows := ⟨_, _, hasLines_heading.2, hasLines_toMarkdown _, forall₂_map tellsRow_rowBody os⟩
    summary := by
      simp only [Report.summary, isPassing_eq, verdict, decide_eq_true_eq, toString_string]
    json := ⟨_, forall₂_map tellsTest_outcomeDocument os, by rw [toJson_eq, isPassing_eq]⟩ }

end Report

end FlowParity
