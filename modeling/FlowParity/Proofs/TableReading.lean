import FlowParity.Flow.Table
import FlowParity.Proofs.FieldText
import FlowParity.Proofs.RowReading
import Mathlib.Data.List.Forall2
import Mathlib.Logic.Relation
/-!
# Reading tables

Which texts are flow tables, and where another text first goes wrong. Only the significant lines
matter: a header and, for each later line, one record (`IsTable`). A text that is none of these
is refused as a whole, at the first line that does not fit what stands before it (`Bad`).

The records are read from the significant lines alone (`mapError_parse`); the numbers of the
lines enter only into the fault. So a line that does not count may come and go.
-/

namespace FlowParity

open Text

/-- What is wrong with the line of a table fault, apart from where the line is. -/
def TableFault.problem? : TableFault → Option LineFault
  | .missingHeader => none
  | .malformed _ fault => some fault

namespace FlowTable

variable {content content' : String} {texts : List (List Char)} {records : List Record}

/-- All lines of a text, without the blanks around them. -/
def linesOf (content : String) : List (List Char) :=
  (split '\n' content.toList).map trim

/-- The lines that count. -/
def significant (lines : List (List Char)) : List (List Char) :=
  lines.filter isSignificant

variable (texts records) in
/-- **A flow table**: a header, and a row for each record, in order. -/
def IsTable : Prop :=
  ∃ header rows layout, texts = header :: rows ∧ Layout.IsHeader layout header ∧
    List.Forall₂ layout.Reads rows records

/-- A line that does not go on what stands before it: no header where one has to be, or no
row after a header and good rows. -/
inductive Bad : List (List Char) → List Char → Prop
  /-- The first line is not a header. -/
  | header {line : List Char} (hline : ∀ layout, ¬ Layout.IsHeader layout line) : Bad [] line
  /-- A later line is not a row under the header. -/
  | row {header line : List Char} {rows : List (List Char)} {layout : Layout}
    {records : List Record} (hheader : layout.IsHeader header)
    (hrows : List.Forall₂ layout.Reads rows records) (hline : ∀ r, ¬ layout.Reads line r) :
    Bad (header :: rows) line

/-! ## The significant lines -/

/-- The significant ones of some lines, each with its number, counted from `k` on. -/
def numbered (k : Nat) (lines : List (List Char)) : List (List Char × Nat) :=
  (lines.zipIdx k).filter fun line => isSignificant line.1

theorem significantLines_eq :
    significantLines content.toList = numbered 1 (linesOf content) := rfl

theorem numbered_append {k : Nat} {before after : List (List Char)} :
    numbered k (before ++ after) = numbered k before ++ numbered (k + before.length) after := by
  rw [numbered, List.zipIdx_append, List.filter_append]
  rfl

theorem numbered_cons_of_pos {k : Nat} {line : List Char} {lines : List (List Char)}
    (h : isSignificant line = true) :
    numbered k (line :: lines) = (line, k) :: numbered (k + 1) lines :=
  List.filter_cons_of_pos h

theorem numbered_cons_of_neg {k : Nat} {line : List Char} {lines : List (List Char)}
    (h : ¬ isSignificant line = true) : numbered k (line :: lines) = numbered (k + 1) lines :=
  List.filter_cons_of_neg h

theorem map_fst_numbered {k : Nat} {lines : List (List Char)} :
    (numbered k lines).map Prod.fst = significant lines := by
  have h := List.filter_map (f := Prod.fst) (p := isSignificant) (l := lines.zipIdx k)
  rw [List.zipIdx_map_fst] at h
  exact h.symm

/-- A significant line has its place among all lines for a number, and before it the significant
ones of the lines above it. -/
theorem numbered_eq_append {k n : Nat} {lines : List (List Char)} {line : List Char}
    {before after : List (List Char × Nat)} (h : numbered k lines = before ++ (line, n) :: after) :
    ∃ above below, lines = above ++ line :: below ∧ n = k + above.length ∧
      isSignificant line = true ∧ before.map Prod.fst = significant above := by
  -- a line that does not count lengthens `above`, but not `before`
  induction lines generalizing k before with
  | nil => cases before <;> cases h
  | cons first rest ih =>
    by_cases hfirst : isSignificant first = true
    · rw [numbered_cons_of_pos hfirst] at h
      cases before with
      | nil =>
        obtain ⟨hline, -⟩ := List.cons.inj h
        obtain ⟨rfl, rfl⟩ := Prod.mk.inj hline
        exact ⟨[], rest, rfl, rfl, hfirst, rfl⟩
      | cons found before =>
        obtain ⟨rfl, hrest⟩ := List.cons.inj h
        obtain ⟨above, below, rfl, rfl, hline, hbefore⟩ := ih hrest
        refine ⟨first :: above, below, rfl, ?_, hline, ?_⟩
        · simp only [List.length_cons]
          omega
        · rw [significant, List.filter_cons_of_pos hfirst, List.map_cons, hbefore]
          rfl
    · rw [numbered_cons_of_neg hfirst] at h
      obtain ⟨above, below, rfl, rfl, hline, hbefore⟩ := ih h
      refine ⟨first :: above, below, rfl, ?_, hline, ?_⟩
      · simp only [List.length_cons]
        omega
      · rw [significant, List.filter_cons_of_neg hfirst, hbefore]
        rfl

/-! ## Reading the significant lines -/

/-- The records of the significant lines, or what is wrong with the first bad one; nothing is
wrong with a line where there is none. -/
def readAll : List (List Char) → Except (Option LineFault) (List Record)
  | [] => .error none
  | header :: rows => do
    let layout ← (Layout.ofHeader header).mapError some
    rows.mapM fun row => (layout.record row).mapError some

theorem atLine_eq_ok {α : Type} {n : Nat} {x : Except LineFault α} {a : α} :
    atLine n x = .ok a ↔ x = .ok a := by
  cases x <;> simp [atLine]

theorem atLine_eq_error {α : Type} {n : Nat} {x : Except LineFault α} {fault : TableFault} :
    atLine n x = .error fault ↔ ∃ e, x = .error e ∧ fault = .malformed n e := by
  cases x <;> simp [atLine, eq_comm]

theorem mapError_atLine {α : Type} {n : Nat} {x : Except LineFault α} :
    (atLine n x).mapError TableFault.problem? = x.mapError some := by
  cases x <;> rfl

/-- **The records come from the significant lines**, whatever their numbers. -/
theorem mapError_parse :
    (parse content).mapError TableFault.problem? = readAll (significant (linesOf content)) := by
  rw [parse, parseChars, significantLines_eq, ← map_fst_numbered (k := 1)]
  cases numbered 1 (linesOf content) with
  | nil => rfl
  | cons line rows =>
    obtain ⟨header, n⟩ := line
    simp only [List.map_cons, readAll, mapError_bind, mapError_atLine, mapError_mapM,
      List.mapM_map]
    rfl

theorem readAll_eq_ok : readAll texts = .ok records ↔ IsTable texts records := by
  cases texts with
  | nil => simp [readAll, IsTable]
  | cons header rows =>
    simp only [readAll, bind_eq_ok, mapError_eq_ok, mapM_eq_ok, Layout.ofHeader_eq_ok, IsTable,
      List.cons.injEq]
    constructor
    · rintro ⟨layout, hlayout, hrows⟩
      exact ⟨header, rows, layout, ⟨rfl, rfl⟩, hlayout,
        hrows.imp fun _ _ => (Layout.record_eq_ok hlayout.once).1⟩
    · rintro ⟨_, _, layout, ⟨rfl, rfl⟩, hlayout, hrows⟩
      exact ⟨layout, hlayout, hrows.imp fun _ _ => (Layout.record_eq_ok hlayout.once).2⟩

/-- **The tables are the texts that are read.** -/
theorem parse_eq_ok :
    parse content = .ok records ↔ IsTable (significant (linesOf content)) records := by
  rw [← readAll_eq_ok, ← mapError_parse, mapError_eq_ok]

/-! ## The first bad line -/

theorem parse_of_numbered {header : List Char} {n : Nat} {rows : List (List Char × Nat)}
    (h : numbered 1 (linesOf content) = (header, n) :: rows) :
    parse content = (atLine n (Layout.ofHeader header) >>= fun layout =>
      rows.mapM fun row => atLine row.2 (layout.record row.1)) := by
  rw [parse, parseChars, significantLines_eq, h]

theorem parse_eq_missingHeader :
    parse content = .error .missingHeader ↔ significant (linesOf content) = [] := by
  rw [← map_fst_numbered (k := 1), List.map_eq_nil_iff]
  cases hlines : numbered 1 (linesOf content) with
  | nil =>
    rw [parse, parseChars, significantLines_eq, hlines]
    simp
  | cons line rows =>
    obtain ⟨header, n⟩ := line
    rw [parse_of_numbered hlines]
    simp [bind_eq_error, mapM_eq_error, atLine_eq_error]

/-- A blamed line is bad, and those above it are not. -/
theorem exists_bad_of_parse {n : Nat} {fault : LineFault}
    (h : parse content = .error (.malformed n fault)) :
    ∃ before line after, numbered 1 (linesOf content) = before ++ (line, n) :: after ∧
      Bad (before.map Prod.fst) line := by
  cases hlines : numbered 1 (linesOf content) with
  | nil =>
    rw [parse, parseChars, significantLines_eq, hlines] at h
    cases h
  | cons first rows =>
    obtain ⟨header, k⟩ := first
    rw [parse_of_numbered hlines, bind_eq_error] at h
    rcases h with h | ⟨layout, hlayout, h⟩
    · -- the header is refused, so no layout fits it
      obtain ⟨e, he, hfault⟩ := atLine_eq_error.1 h
      obtain ⟨rfl, -⟩ := TableFault.malformed.inj hfault
      refine ⟨[], header, rows, rfl, .header fun layout hheader => ?_⟩
      rw [Layout.ofHeader_eq_ok.2 hheader] at he
      cases he
    · -- the pass over the rows stopped at one that is refused, after rows that are not
      obtain ⟨before, ⟨line, m⟩, after, records, rfl, hbefore, hline⟩ := mapM_eq_error.1 h
      obtain ⟨e, he, hfault⟩ := atLine_eq_error.1 hline
      obtain ⟨rfl, -⟩ := TableFault.malformed.inj hfault
      have hheader := Layout.ofHeader_eq_ok.1 (atLine_eq_ok.1 hlayout)
      have hrows : List.Forall₂ layout.Reads (before.map Prod.fst) records := by
        rw [List.forall₂_map_left_iff]
        exact hbefore.imp fun _ _ hrow =>
          (Layout.record_eq_ok hheader.once).1 (atLine_eq_ok.1 hrow)
      refine ⟨(header, k) :: before, line, after, rfl, .row hheader hrows fun r hr => ?_⟩
      rw [(Layout.record_eq_ok hheader.once).2 hr] at he
      cases he

/-- A bad line is blamed if those above it are good. -/
theorem exists_parse_of_bad {n : Nat} {line : List Char} {before after : List (List Char × Nat)}
    (hlines : numbered 1 (linesOf content) = before ++ (line, n) :: after)
    (hbad : Bad (before.map Prod.fst) line) :
    ∃ fault, parse content = .error (.malformed n fault) := by
  generalize htexts : before.map Prod.fst = texts at hbad
  cases hbad with
  | header hline =>
    obtain rfl := List.map_eq_nil_iff.1 htexts
    rw [parse_of_numbered hlines]
    cases hlayout : Layout.ofHeader line with
    | ok layout => exact absurd (Layout.ofHeader_eq_ok.1 hlayout) (hline layout)
    | error e => exact ⟨e, rfl⟩
  | @row _ _ _ layout records hheader hrows hline =>
    obtain ⟨⟨header, k⟩, rows, rfl, rfl, rfl⟩ := List.map_eq_cons_iff.1 htexts
    rw [List.forall₂_map_left_iff] at hrows
    rw [parse_of_numbered hlines]
    cases hrow : layout.record line with
    | ok r => exact absurd ((Layout.record_eq_ok hheader.once).1 hrow) (hline r)
    | error e =>
      refine ⟨e, bind_eq_error.2 (.inr ⟨layout, ?_, mapM_eq_error.2 ⟨rows, (line, n), after,
        records, rfl, ?_, atLine_eq_error.2 ⟨e, hrow, rfl⟩⟩⟩)⟩
      · exact atLine_eq_ok.2 (Layout.ofHeader_eq_ok.2 hheader)
      · exact hrows.imp fun _ _ hread =>
          atLine_eq_ok.2 ((Layout.record_eq_ok hheader.once).2 hread)

/-- **A text is refused at its first bad line.** -/
theorem exists_parse_eq_malformed {n : Nat} :
    (∃ fault, parse content = .error (.malformed n fault)) ↔
      ∃ above line below, linesOf content = above ++ line :: below ∧ n = above.length + 1 ∧
        isSignificant line = true ∧ Bad (significant above) line := by
  constructor
  · rintro ⟨fault, h⟩
    obtain ⟨before, line, after, hlines, hbad⟩ := exists_bad_of_parse h
    obtain ⟨above, below, heq, rfl, hline, hbefore⟩ := numbered_eq_append hlines
    exact ⟨above, line, below, heq, Nat.add_comm .., hline, hbefore ▸ hbad⟩
  · rintro ⟨above, line, below, heq, rfl, hline, hbad⟩
    have hlines : numbered 1 (linesOf content) = numbered 1 above ++
        (line, above.length + 1) :: numbered (above.length + 2) below := by
      rw [heq, numbered_append, numbered_cons_of_pos hline, Nat.add_comm 1]
    refine exists_parse_of_bad hlines ?_
    rwa [map_fst_numbered]

/-! ## Lines that do not count -/

/-- The second text is the first one with one more line, which does not count. -/
def AddsLine (content content' : String) : Prop :=
  ∃ before line after, split '\n' content.toList = before ++ after ∧
    split '\n' content'.toList = before ++ line :: after ∧ isSignificant (trim line) = false

theorem AddsLine.significant_eq (h : AddsLine content content') :
    significant (linesOf content') = significant (linesOf content) := by
  obtain ⟨before, line, after, hsplit, hsplit', hline⟩ := h
  rw [linesOf, linesOf, hsplit, hsplit']
  simp [significant, hline]

/-- Lines that do not count come and go without a trace among the significant ones. -/
theorem significant_eq_of_eqvGen (h : Relation.EqvGen AddsLine content content') :
    significant (linesOf content') = significant (linesOf content) := by
  induction h with
  | rel _ _ h => exact h.significant_eq
  | refl _ => rfl
  | symm _ _ _ ih => exact ih.symm
  | trans _ _ _ _ _ ih₁ ih₂ => exact ih₂.trans ih₁

/-- **Reading is strict and total.** A text is read exactly if it is a table, one record for each
row; it is said to be without a header exactly if it has no significant line; and line `n` is
blamed exactly if it is the first one that is bad. Lines that do not count may be put in and
taken out anywhere, and nothing but the number of the blamed line changes. And a field is only
ever taken from a row that has one there: a row of another width than the header is refused, and
in any other each known column has its field. -/
theorem parse_strict (content : String) :
    (∀ records, parse content = .ok records ↔
      IsTable (significant (linesOf content)) records) ∧
    (parse content = .error .missingHeader ↔ significant (linesOf content) = []) ∧
    (∀ n, (∃ fault, parse content = .error (.malformed n fault)) ↔
      ∃ above line below, linesOf content = above ++ line :: below ∧ n = above.length + 1 ∧
        isSignificant line = true ∧ Bad (significant above) line) ∧
    (∀ content', Relation.EqvGen AddsLine content content' →
      (parse content').mapError TableFault.problem? =
        (parse content).mapError TableFault.problem?) ∧
    ∀ header row layout, Layout.IsHeader layout header →
      ((split ',' row).length ≠ layout.columns.length ∧ layout.record row =
        .error (.fieldCount layout.columns.length (split ',' row).length)) ∨
      ∀ column ∈ layout.known, ∃ i, ∃ hi : i < (split ',' row).length,
        layout.columns[i]? = some (some column) ∧
          layout.field? (split ',' row) column = some (fieldContent (split ',' row)[i]) := by
  refine ⟨fun _ => parse_eq_ok, parse_eq_missingHeader, fun _ => exists_parse_eq_malformed,
    ?_, ?_⟩
  · intro content' h
    rw [mapError_parse, mapError_parse, significant_eq_of_eqvGen h]
  · intro header row layout hheader
    by_cases hcount : (split ',' row).length = layout.columns.length
    · exact .inr fun column hcolumn =>
        Layout.exists_field?_eq_some hheader.once hcount hcolumn
    · exact .inl ⟨hcount, Layout.record_of_length_ne hcount⟩

end FlowTable

namespace Sample

/-- A flow table of one record. -/
def oneRow (packets bytes : String) : String :=
  "SRC_IP,DST_IP,START_TIME,END_TIME,L3_PROTO,L4_PROTO,SRC_PORT,DST_PORT,PACKETS,BYTES\n" ++
    "10.0.0.1,10.0.0.10,0,1000,4,17,40000,53," ++ packets ++ "," ++ bytes ++ "\n"

end Sample

/-- A comment above a table is not noticed, except where a line has to be named: below it the
row is the third line. -/
theorem parse_strict_sample :
    (∃ records, FlowTable.parse (Sample.oneRow "5" "500") = .ok records ∧
      FlowTable.parse ("# five\n" ++ Sample.oneRow "5" "500") = .ok records) ∧
    ∃ above line below,
      FlowTable.linesOf ("# five\n" ++ Sample.oneRow "5" "many") = above ++ line :: below ∧
        3 = above.length + 1 ∧ FlowTable.isSignificant line = true ∧
        FlowTable.Bad (FlowTable.significant above) line := by
  constructor
  · have hok : (FlowTable.parse (Sample.oneRow "5" "500")).isOk := by decide +kernel
    obtain ⟨records, hrecords⟩ := isOk_iff.1 hok
    have hadds : FlowTable.AddsLine (Sample.oneRow "5" "500")
        ("# five\n" ++ Sample.oneRow "5" "500") := by
      have hline : "# five\n".toList = "# five".toList ++ ['\n'] := by decide
      refine ⟨[], "# five".toList, _, (List.nil_append _).symm, ?_, by decide⟩
      rw [String.toList_append, hline, List.append_assoc, List.singleton_append]
      exact split_append_cons (by decide) _
    have hsame := (FlowTable.parse_strict (Sample.oneRow "5" "500")).2.2.2.1 _ (.rel _ _ hadds)
    rw [hrecords, mapError_eq_ok.2 rfl, mapError_eq_ok] at hsame
    exact ⟨records, hrecords, hsame⟩
  · refine ((FlowTable.parse_strict ("# five\n" ++ Sample.oneRow "5" "many")).2.2.1 3).1
      ⟨.integer .bytes "many" .invalidDigit, ?_⟩
    decide +kernel

end FlowParity
