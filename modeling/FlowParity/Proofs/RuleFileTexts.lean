import FlowParity.Proofs.JsonTexts
import FlowParity.Proofs.SortedTables
import FlowParity.RuleFile.Source
import FlowParity.RuleFile.Writing
/-!
# Rule files that are written and read

A rule file is written as a document, the document as JSON, and reading goes the other way. JSON has
no form for some values, and a table in JSON may have its members in another order, so what arrives
is the document in one of its JSON forms. The readers of a rule file do not depend on which one it
is: they ask for declared names, and they refuse a null where a value must stand.

So a rule file is read as it was written if all its tolerances are finite, and otherwise its JSON
form is refused (`read_written`). The text of a document is the text of the document as JSON has it
(`compact_asJson`), which makes the same true of texts (`parse_compact`).
-/

namespace FlowParity

/-! ## JSON forms -/

namespace Document

mutual

/-- The document as JSON has it: what has no form there is null. -/
def asJson : Document → Document
  | float x => if x.isFinite then float x else null
  | list items => list (asJsonItems items)
  | table members => table (asJsonMembers members)
  | date | unreadable => null
  | other => other

/-- The items of a list as JSON has them. -/
def asJsonItems : List Document → List Document
  | [] => []
  | item :: rest => asJson item :: asJsonItems rest

/-- The members of a table as JSON has them. -/
def asJsonMembers : List (String × Document) → List (String × Document)
  | [] => []
  | (name, value) :: rest => (name, asJson value) :: asJsonMembers rest

end

theorem asJsonItems_eq_map {items : List Document} : asJsonItems items = items.map asJson := by
  induction items with
  | nil => rfl
  | cons item items ih => rw [asJsonItems, ih, List.map_cons]

theorem asJsonMembers_eq_map {members : List (String × Document)} :
    asJsonMembers members = members.map fun m => (m.1, m.2.asJson) := by
  induction members with
  | nil => rfl
  | cons m members ih => rw [asJsonMembers, ih, List.map_cons]

mutual

/-- **What is written as JSON is the document as JSON has it.** -/
theorem compact_asJson : ∀ d : Document, d.asJson.compact = d.compact
  | .null | .bool _ | .integer _ | .string _ | .date | .unreadable => rfl
  | .float x => by
    cases x with
    | finite => rfl
    | infinite | nan => rfl
  | .list items => by rw [asJson, compact, compact, compactItems_asJsonItems]
  | .table members => by rw [asJson, compact, compact, compactMembers_asJsonMembers]

theorem compactItems_asJsonItems : ∀ items : List Document,
    compactItems (asJsonItems items) = compactItems items
  | [] => rfl
  | item :: rest => by
    rw [asJsonItems, compactItems, compactItems, compact_asJson item,
      compactItems_asJsonItems rest]

theorem compactMembers_asJsonMembers : ∀ members : List (String × Document),
    compactMembers (asJsonMembers members) = compactMembers members
  | [] => rfl
  | (name, value) :: rest => by
    rw [asJsonMembers, compactMembers, compactMembers, compact_asJson value,
      compactMembers_asJsonMembers rest]

end

/-- A way to give documents in JSON: texts, truth values and whole numbers stay what they are, a
number that is not finite becomes null, and a table that names nothing twice has its members in any
order. -/
structure IsJsonForm (g : Document → Document) : Prop where
  /-- A text stays what it is. -/
  string : ∀ s, g (string s) = Document.string s
  /-- A truth value stays what it is. -/
  bool : ∀ b, g (bool b) = Document.bool b
  /-- A whole number stays what it is. -/
  integer : ∀ n, g (integer n) = Document.integer n
  /-- A number stays what it is if it is finite. -/
  float : ∀ x, g (float x) = if x.isFinite then Document.float x else null
  /-- A list keeps the order of its items. -/
  list : ∀ items, g (list items) = Document.list (items.map g)
  /-- A table keeps its members. -/
  table : ∀ members, (members.map Prod.fst).Nodup →
    ∃ others, g (table members) = Document.table others ∧
      others.Perm (members.map fun m => (m.1, g m.2))

/-- The members of a table may stay in their written order. -/
theorem isJsonForm_asJson : IsJsonForm asJson where
  string _ := rfl
  bool _ := rfl
  integer _ := rfl
  float _ := rfl
  list items := by rw [asJson, asJsonItems_eq_map]
  table members _ := ⟨_, rfl, by rw [asJsonMembers_eq_map]⟩

/-- They may be in the order of their names as well. -/
theorem isJsonForm_sorted : IsJsonForm fun d => d.asJson.sorted where
  string _ := rfl
  bool _ := rfl
  integer _ := rfl
  float x := by cases x <;> rfl
  list items := by
    rw [asJson, asJsonItems_eq_map, sorted, sortedItems_eq_map, List.map_map]
    rfl
  table members hnodup := by
    refine ⟨_, rfl, ?_⟩
    rw [asJsonMembers_eq_map, sortedMembers_eq_map, List.map_map]
    refine sortMembers_perm ?_
    rw [List.map_map]
    exact hnodup

end Document

open Document

namespace RuleFile

/-! ## Members that may be absent -/

variable {names : List String} {name : String} {o : Option Document} {os : List (Option Document)}
  {ms ns : List (String × Document)}

/-- The members of a structure for the values that are there. -/
def present (names : List String) (values : List (Option Document)) : List (String × Document) :=
  (names.zip values).flatMap fun (name, value) => optional name id value

theorem present_cons : present (name :: names) (o :: os) = optional name id o ++ present names os :=
  rfl

theorem optional_id_map {α : Type} {encode : α → Document} {a : Option α} :
    optional name id (a.map encode) = optional name encode a := by
  cases a <;> rfl

theorem names_present_sublist : ((present names os).map Prod.fst).Sublist names := by
  induction names generalizing os with
  | nil => exact List.Sublist.slnil
  | cons name names ih =>
    cases os with
    | nil => exact List.nil_sublist _
    | cons o os =>
      rw [present_cons, List.map_append]
      cases o with
      | none => exact ih.cons name
      | some d => exact ih.cons_cons name

theorem map_present {g : Document → Document} :
    (present names os).map (fun m => (m.1, g m.2)) = present names (os.map (Option.map g)) := by
  induction names generalizing os with
  | nil => rfl
  | cons name names ih =>
    cases os with
    | nil => rfl
    | cons o os =>
      rw [List.map_cons, present_cons, present_cons, List.map_append, ih]
      cases o <;> rfl

/-- Whether a name occurs once does not depend on the order of members. -/
theorem single?_perm (h : ms.Perm ns) : single? ms name = single? ns name := by
  have hfilter := h.filter fun m => decide (m.1 = name)
  rw [single?, single?]
  cases hms : ms.filter fun m => m.1 = name with
  | nil =>
    rw [hms] at hfilter
    rw [hfilter.nil_eq]
  | cons m rest =>
    rw [hms] at hfilter
    cases rest with
    | nil => rw [hfilter.singleton_eq]
    | cons k rest =>
      have hlength := hfilter.length_eq
      cases hns : ns.filter fun m => m.1 = name with
      | nil =>
        rw [hns] at hlength
        cases hlength
      | cons m' later =>
        cases later with
        | nil =>
          rw [hns] at hlength
          cases hlength
        | cons _ _ => rfl

theorem single?_append (h : name ∉ ns.map Prod.fst) :
    single? (ms ++ ns) name = single? ms name := by
  have hnone : ns.filter (fun m => decide (m.1 = name)) = [] :=
    List.filter_eq_nil_iff.2 fun m hm hname =>
      h (List.mem_map.2 ⟨m, hm, of_decide_eq_true hname⟩)
  rw [single?, single?, List.filter_append, hnone, List.append_nil]

theorem single?_optional : single? (optional name id o) name = some o := by
  cases o with
  | none => rfl
  | some d => simp [single?, Document.optional]

theorem mem_names_optional {n : String} (h : n ∈ (optional name id o).map Prod.fst) : n = name := by
  cases o with
  | none => cases h
  | some d => exact List.mem_singleton.1 h

/-- **What stands at the names of a structure** is what was there to be written, after members with
other names too. -/
theorem mapM_single?_present (hnodup : names.Nodup) (hlength : names.length = os.length)
    (hother : ∀ n ∈ names, n ∉ ms.map Prod.fst) :
    names.mapM (single? (ms ++ present names os)) = some os := by
  induction names generalizing os ms with
  | nil =>
    rw [List.length_eq_zero_iff.1 hlength.symm]
    rfl
  | cons name names ih =>
    cases os with
    | nil => cases hlength
    | cons o os =>
      obtain ⟨hname, hnodup⟩ := List.nodup_cons.1 hnodup
      have hfirst : single? (ms ++ (optional name id o ++ present names os)) name = some o := by
        rw [single?_perm List.perm_append_comm, List.append_assoc, single?_append, single?_optional]
        rw [List.map_append, List.mem_append, not_or]
        exact ⟨fun h => hname (names_present_sublist.subset h), hother _ List.mem_cons_self⟩
      have hrest : names.mapM (single? ((ms ++ optional name id o) ++ present names os)) =
          some os := by
        refine ih hnodup (Nat.succ.inj hlength) fun n hn => ?_
        rw [List.map_append, List.mem_append, not_or]
        exact ⟨hother n (List.mem_cons_of_mem _ hn), fun h => hname (mem_names_optional h ▸ hn)⟩
      rw [List.append_assoc] at hrest
      rw [List.mapM_cons, present_cons, hfirst, hrest]
      rfl

/-- The same of a table in one of its JSON forms. -/
theorem fields?_present {g : Document → Document} (hg : IsJsonForm g)
    {strictLists strictNames : Bool} (hnodup : names.Nodup) (hlength : names.length = os.length) :
    fields? strictLists strictNames names (g (.table (present names os))) =
      some (os.map (Option.map g)) := by
  obtain ⟨ns, hns, hperm⟩ := hg.table _ (hnodup.sublist names_present_sublist)
  rw [map_present] at hperm
  have hall : ns.all (fun m => names.contains m.1) = true := by
    refine List.all_eq_true.2 fun m hm => List.contains_iff_mem.2 ?_
    exact names_present_sublist.subset (List.mem_map_of_mem (hperm.mem_iff.1 hm))
  have hsingle : single? ns = single? ([] ++ present names (os.map (Option.map g))) :=
    funext fun name => single?_perm hperm
  rw [hns, fields?, hall, Bool.not_true, Bool.and_false, if_neg Bool.false_ne_true, hsingle]
  exact mapM_single?_present hnodup (by rw [List.length_map, hlength])
    fun _ _ h => nomatch h

/-! ## Values -/

variable {α : Type} {read : Document → Option α} {g : Document → Document} {d : Document}

/-- A value that may be absent is read if it is no null. -/
theorem optional?_some {a : α} (hnull : read .null = none) (h : read d = some a) :
    optional? read (some d) = some (some a) := by
  rw [optional?.eq_def]
  split
  · contradiction
  · rename_i heq
    cases heq
    rw [hnull] at h
    cases h
  · rename_i heq
    cases heq
    rw [h]
    rfl

/-- A value that may be absent is read as it was written. -/
theorem optional?_map {encode : α → Document} (hnull : read .null = none)
    (h : ∀ a, read (g (encode a)) = some a) (a : Option α) :
    optional? read ((a.map encode).map g) = some a := by
  cases a with
  | none => rfl
  | some a => exact optional?_some hnull (h a)

/-- A list is read as it was written if each of its items is, and else refused. -/
theorem list?_map {encode : α → Document} {p : α → Prop} [DecidablePred p]
    (h : ∀ a, read (g (encode a)) = if p a then some a else none) (as : List α) :
    list? read (.list ((as.map encode).map g)) = if ∀ a ∈ as, p a then some as else none := by
  rw [list?]
  induction as with
  | nil => rfl
  | cons a as ih =>
    rw [List.map_cons, List.map_cons, List.mapM_cons, h, ih]
    simp only [List.forall_mem_cons]
    by_cases ha : p a
    · by_cases has : ∀ b ∈ as, p b
      · rw [if_pos ha, if_pos has, if_pos ⟨ha, has⟩]
        rfl
      · rw [if_pos ha, if_neg has, if_neg fun hall => has hall.2]
        rfl
    · have hnot : ¬ (p a ∧ ∀ b ∈ as, p b) := fun hall => ha hall.1
      rw [if_neg ha, if_neg hnot]
      rfl

theorem counter?_secondsDocument (hg : IsJsonForm g) (seconds : Counter) :
    counter? (g (secondsDocument seconds)) = some seconds := by
  rw [secondsDocument, Document.nat, hg.integer, counter?, if_pos (Int.natCast_nonneg _),
    Int.toNat_natCast, Counter.ofNat?, dif_pos seconds.le_max]

/-- **A text stays a text**, even if it looks like a number. -/
theorem instant?_toDocument (hg : IsJsonForm g) (t : InstantSpec) :
    instant? (g t.toDocument) = some t := by
  cases t with
  | millis t =>
    rw [InstantSpec.toDocument, hg.integer, instant?, Millis.ofInt?, dif_pos ⟨t.lower, t.upper⟩]
    rfl
  | text s => rw [InstantSpec.toDocument, hg.string, instant?]

theorem name?_scope (hg : IsJsonForm g) (dialect : Dialect) (scope : OffsetScope) :
    name? dialect OffsetScope.ofRuleText? (g scope.toDocument) = some scope := by
  rw [OffsetScope.toDocument, hg.string, name?]
  cases scope <;> decide

theorem name?_measure (dialect : Dialect) (m : Measure) :
    name? dialect Measure.ofRuleText? (.string m.ruleText) = some m := by
  rw [name?]
  cases m <;> decide

/-! ## Structures -/

theorem present_nil : present [] [] = [] := rfl

theorem modelDocument_eq (m : ModelSpec) : m.toDocument =
    .table (present modelNames [m.active.map secondsDocument, m.inactive.map secondsDocument,
      m.startTime.map InstantSpec.toDocument, m.scope.map OffsetScope.toDocument]) := by
  simp only [modelNames, present_cons, present_nil, optional_id_map, ModelSpec.toDocument,
    List.append_assoc, List.append_nil]

theorem subnetDocument_eq (source target : Option String) (bothWays : Bool) :
    (SegmentSpec.subnet source target bothWays).toDocument =
      .table [("subnet", .table (present subnetNames
        [source.map .string, target.map .string, some (.bool bothWays)]))] := by
  simp only [subnetNames, present_cons, present_nil, optional_id_map, SegmentSpec.toDocument,
    List.append_assoc, List.append_nil]
  rfl

theorem timeDocument_eq (start finish : Option InstantSpec) :
    (SegmentSpec.time start finish).toDocument =
      .table [("time", .table (present timeNames
        [start.map InstantSpec.toDocument, finish.map InstantSpec.toDocument]))] := by
  simp only [timeNames, present_cons, present_nil, optional_id_map, SegmentSpec.toDocument,
    List.append_nil]

theorem ruleDocument_eq (r : RuleSpec) : r.toDocument =
    .table (present ruleNames [r.name.map .string,
      some (.list (r.metrics.map MetricSpec.toDocument)),
      r.segment.map SegmentSpec.toDocument]) := by
  simp only [ruleNames, present_cons, present_nil, optional_id_map, RuleSpec.toDocument,
    List.append_assoc, List.append_nil]
  rfl

variable (hg : IsJsonForm g)

include hg

theorem model?_toDocument (m : ModelSpec) : model? .json (g m.toDocument) = some m := by
  rw [modelDocument_eq, model?, fields?_present hg (by decide) rfl]
  simp only [List.map_cons, List.map_nil, Option.bind_eq_bind, Option.bind_some,
    optional?_map rfl (counter?_secondsDocument hg), optional?_map rfl (instant?_toDocument hg),
    optional?_map rfl (name?_scope hg .json)]
  rfl

/-- A tolerance that is not finite has become null, which is no number. -/
theorem metric?_toDocument (m : MetricSpec) :
    metric? .json (g m.toDocument) = if m.tolerance.isFinite then some m else none := by
  have hdoc : m.toDocument =
      .table (present metricNames [some (.string m.measure.ruleText), some (.float m.tolerance)]) :=
    rfl
  rw [hdoc, metric?, fields?_present hg (by decide) rfl]
  simp only [List.map_cons, List.map_nil, Option.map_some, Option.bind_eq_bind, Option.bind_some,
    hg.string, hg.float, name?_measure]
  cases m.tolerance.isFinite <;> rfl

theorem segmentFields?_present {dialect : Dialect} (hnodup : names.Nodup)
    (hlength : names.length = os.length) :
    segmentFields? dialect names (g (.table (present names os))) =
      some (os.map (Option.map g)) := by
  have hfields : fields? dialect.strictLists dialect.strictSegments names
      (g (.table (present names os))) = some (os.map (Option.map g)) :=
    fields?_present hg hnodup hlength
  obtain ⟨others, hothers, -⟩ := hg.table _ (hnodup.sublist names_present_sublist)
  rw [hothers] at hfields ⊢
  exact hfields

theorem subnet?_present (source target : Option String) (bothWays : Bool) :
    subnet? .json (g (.table (present subnetNames
      [source.map .string, target.map .string, some (.bool bothWays)]))) =
      some (.subnet source target bothWays) := by
  have htext : ∀ s, text? (g (.string s)) = some s := fun s => by rw [hg.string, text?]
  rw [subnet?, segmentFields?_present hg (by decide) rfl]
  simp only [List.map_cons, List.map_nil, Option.map_some, Option.bind_eq_bind, Option.bind_some,
    optional?_map rfl htext, hg.bool]
  rfl

theorem time?_present (start finish : Option InstantSpec) :
    time? .json (g (.table (present timeNames
      [start.map InstantSpec.toDocument, finish.map InstantSpec.toDocument]))) =
      some (.time start finish) := by
  rw [time?, segmentFields?_present hg (by decide) rfl]
  simp only [List.map_cons, List.map_nil, Option.bind_eq_bind, Option.bind_some,
    optional?_map rfl (instant?_toDocument hg)]
  rfl

/-- A table with one member keeps it. -/
theorem form_singleton (kind : String) (doc : Document) :
    g (.table [(kind, doc)]) = .table [(kind, g doc)] := by
  obtain ⟨others, hothers, hperm⟩ := hg.table [(kind, doc)] (List.pairwise_singleton _ _)
  rw [hothers, hperm.eq_singleton]

/-- **A segment is read as the kind it was written as**, whatever of it is absent. -/
theorem segment?_toDocument (s : SegmentSpec) : segment? .json (g s.toDocument) = some s := by
  cases s with
  | subnet source target bothWays =>
    rw [subnetDocument_eq, form_singleton hg, segment?, if_pos rfl, subnet?_present hg]
  | time start finish =>
    rw [timeDocument_eq, form_singleton hg, segment?, if_neg (by decide), if_pos rfl,
      time?_present hg]

theorem rule?_toDocument (r : RuleSpec) :
    rule? .json (g r.toDocument) =
      if ∀ m ∈ r.metrics, m.tolerance.isFinite = true then some r else none := by
  have htext : ∀ s, text? (g (.string s)) = some s := fun s => by rw [hg.string, text?]
  rw [ruleDocument_eq, rule?, fields?_present hg (by decide) rfl]
  simp only [List.map_cons, List.map_nil, Option.map_some, Option.bind_eq_bind, Option.bind_some,
    optional?_map rfl htext, optional?_map rfl (segment?_toDocument hg), hg.list,
    list?_map (metric?_toDocument hg)]
  split <;> rfl

end RuleFile

/-- All tolerances of a rule file are finite. -/
def RuleFile.HasFiniteTolerances (f : RuleFile) : Prop :=
  ∀ r ∈ f.rules, ∀ m ∈ r.metrics, m.tolerance.isFinite = true

instance (f : RuleFile) : Decidable f.HasFiniteTolerances :=
  inferInstanceAs (Decidable (∀ r ∈ f.rules, ∀ m ∈ r.metrics, m.tolerance.isFinite = true))

namespace RuleFile

variable {g : Document → Document}

/-- **A rule file is read from each JSON form of its document as it was written**, or not at all if
a tolerance is not finite. -/
theorem ofDocument?_toDocument (hg : IsJsonForm g) (f : RuleFile) :
    ofDocument? .json (g f.toDocument) = if f.HasFiniteTolerances then some f else none := by
  have hdoc : f.toDocument = .table (present fileNames
      [some f.model.toDocument, some (.list (f.rules.map RuleSpec.toDocument))]) := rfl
  rw [hdoc, ofDocument?, fields?_present hg (by decide) rfl]
  simp only [List.map_cons, List.map_nil, Option.map_some, Option.bind_eq_bind, Option.bind_some,
    withDefault?, model?_toDocument hg, hg.list, list?_map (rule?_toDocument hg)]
  by_cases hfinite : f.HasFiniteTolerances
  · rw [if_pos hfinite]
    unfold HasFiniteTolerances at hfinite
    rw [if_pos hfinite]
    rfl
  · rw [if_neg hfinite]
    unfold HasFiniteTolerances at hfinite
    rw [if_neg hfinite]
    rfl

/-! ## Texts -/

variable {names : List String} {os : List (Option Document)}

theorem mem_present {m : String × Document} (h : m ∈ present names os) : some m.2 ∈ os := by
  obtain ⟨⟨name, o⟩, hmem, hm⟩ := List.mem_flatMap.1 h
  cases o with
  | none => cases hm
  | some d =>
    cases List.mem_singleton.1 hm
    exact (List.of_mem_zip hmem).2

/-- A list as JSON has it has a text if its items have one. -/
theorem isJson_list {items : List Document} (h : ∀ d ∈ items, IsJson d.asJson) :
    IsJson (Document.list items).asJson := by
  rw [asJson, asJsonItems_eq_map]
  exact .list (List.forall_mem_map.2 h)

/-- A table as JSON has it has a text if its members have one. -/
theorem isJson_table {members : List (String × Document)} (h : ∀ m ∈ members, IsJson m.2.asJson) :
    IsJson (Document.table members).asJson := by
  rw [asJson, asJsonMembers_eq_map]
  exact .table (List.forall_mem_map.2 h)

theorem isJson_present (h : ∀ d, some d ∈ os → IsJson d.asJson) :
    IsJson (Document.table (present names os)).asJson :=
  isJson_table fun _ hm => h _ (mem_present hm)

/-- What may be absent has a text if all that it may be has one. -/
theorem isJson_of_map {α : Type} {encode : α → Document} (h : ∀ a, IsJson (encode a).asJson)
    {a : Option α} {d : Document} (hd : some d = a.map encode) : IsJson d.asJson := by
  obtain ⟨b, -, rfl⟩ := Option.map_eq_some_iff.1 hd.symm
  exact h b

theorem isJson_seconds (seconds : Counter) : IsJson (secondsDocument seconds).asJson := by
  have hmax := seconds.le_max
  exact .integer (by omega) (by omega)

theorem isJson_instant (t : InstantSpec) : IsJson t.toDocument.asJson := by
  cases t with
  | millis t =>
    have hupper := t.upper
    exact .integer t.lower (by omega)
  | text s => exact .string s

theorem isJson_scope (scope : OffsetScope) : IsJson scope.toDocument.asJson := .string _

theorem isJson_model (m : ModelSpec) : IsJson m.toDocument.asJson := by
  rw [modelDocument_eq]
  refine isJson_present fun d hd => ?_
  simp only [List.mem_cons, List.not_mem_nil, or_false] at hd
  rcases hd with hd | hd | hd | hd
  · exact isJson_of_map isJson_seconds hd
  · exact isJson_of_map isJson_seconds hd
  · exact isJson_of_map isJson_instant hd
  · exact isJson_of_map isJson_scope hd

theorem isJson_segment (s : SegmentSpec) : IsJson s.toDocument.asJson := by
  have hone : ∀ {kind : String} {doc : Document}, IsJson doc.asJson →
      IsJson (Document.table [(kind, doc)]).asJson := fun h =>
    isJson_table fun _ hm => by rwa [List.mem_singleton.1 hm]
  cases s with
  | subnet source target bothWays =>
    rw [subnetDocument_eq]
    refine hone (isJson_present fun d hd => ?_)
    simp only [List.mem_cons, List.not_mem_nil, or_false] at hd
    rcases hd with hd | hd | hd
    · exact isJson_of_map .string hd
    · exact isJson_of_map .string hd
    · cases hd
      exact .bool bothWays
  | time start finish =>
    rw [timeDocument_eq]
    refine hone (isJson_present fun d hd => ?_)
    simp only [List.mem_cons, List.not_mem_nil, or_false] at hd
    rcases hd with hd | hd <;> exact isJson_of_map isJson_instant hd

/-- A tolerance that is not finite has the text of a null. -/
theorem isJson_metric {m : MetricSpec}
    (h : m.tolerance.isFinite = true → m.tolerance.ReadsBack) : IsJson m.toDocument.asJson := by
  refine isJson_table fun k hk => ?_
  simp only [List.mem_cons, List.not_mem_nil, or_false] at hk
  rcases hk with rfl | rfl
  · exact .string _
  · rw [asJson]
    split
    · rename_i hfinite
      exact .float (h hfinite)
    · exact .null

theorem isJson_rule {r : RuleSpec}
    (h : ∀ m ∈ r.metrics, m.tolerance.isFinite = true → m.tolerance.ReadsBack) :
    IsJson r.toDocument.asJson := by
  rw [ruleDocument_eq]
  refine isJson_present fun d hd => ?_
  simp only [List.mem_cons, List.not_mem_nil, or_false] at hd
  rcases hd with hd | hd | hd
  · exact isJson_of_map .string hd
  · cases hd
    exact isJson_list (List.forall_mem_map.2 fun m hm => isJson_metric (h m hm))
  · exact isJson_of_map isJson_segment hd

variable {f : RuleFile}

/-- The document of a rule file, as JSON has it, has a text if the texts of its finite tolerances
are read back. -/
theorem isJson_toDocument (h : ∀ r ∈ f.rules, ∀ m ∈ r.metrics,
    m.tolerance.isFinite = true → m.tolerance.ReadsBack) : IsJson f.toDocument.asJson := by
  refine isJson_table fun k hk => ?_
  simp only [List.mem_cons, List.not_mem_nil, or_false] at hk
  rcases hk with rfl | rfl
  · exact isJson_model f.model
  · exact isJson_list (List.forall_mem_map.2 fun r hr => isJson_rule (h r hr))

/-- **The text of a rule file** is read as the rule file, or refused if a tolerance is not finite:
its text is that of a null. -/
theorem parse_compact (h : ∀ r ∈ f.rules, ∀ m ∈ r.metrics,
    m.tolerance.isFinite = true → m.tolerance.ReadsBack) :
    parse .json f.toDocument.compact =
      if f.HasFiniteTolerances then .ok f else .error (.unparseable .json) := by
  -- The text is that of the document as JSON has it, and this one is what is read of it.
  have htext : Document.ofJson? f.toDocument.compact = some f.toDocument.asJson := by
    rw [← compact_asJson]
    exact ofJson?_compact (isJson_toDocument h)
  rw [parse, ofText?, htext, Option.bind_some, ofDocument?_toDocument isJsonForm_asJson]
  by_cases hfinite : f.HasFiniteTolerances
  · rw [if_pos hfinite, if_pos hfinite]
  · rw [if_neg hfinite, if_neg hfinite]

/-- A number whose text is read back is finite. -/
theorem isFinite_of_readsBack {x : Binary64} (h : x.ReadsBack) : x.isFinite = true := by
  cases x with
  | finite => rfl
  | infinite | nan => cases h

/-- **A rule file is read as it was written**: from its JSON value, with the members of tables in
their written order or in the order of their names, if and only if its tolerances are finite; and
from its text, if the text of each tolerance is read as this tolerance. -/
theorem read_written (f : RuleFile) :
    ofDocument? .json f.toDocument.asJson = (if f.HasFiniteTolerances then some f else none) ∧
    ofDocument? .json f.toDocument.asJson.sorted =
      (if f.HasFiniteTolerances then some f else none) ∧
    ((∀ r ∈ f.rules, ∀ m ∈ r.metrics, m.tolerance.ReadsBack) →
      parse .json f.toDocument.compact = .ok f) := by
  refine ⟨ofDocument?_toDocument isJsonForm_asJson f, ofDocument?_toDocument isJsonForm_sorted f,
    fun h => ?_⟩
  have hfinite : f.HasFiniteTolerances := fun r hr m hm => isFinite_of_readsBack (h r hr m hm)
  rw [parse_compact fun r hr m hm _ => h r hr m hm, if_pos hfinite]

namespace Sample

/-- A rule file with a text for a start time that looks like a number, a tolerance that is zero with
a sign, segments of either kind with sides or bounds missing, and rules without a name, a segment
or metrics. -/
def sparse : RuleFile where
  model := ⟨none, some (.clamp Counter.maximum), some (.text "1678312157497"), some .both⟩
  rules := [
    ⟨none, [⟨.packets, .signedZero true⟩, ⟨.bytes, .ofRatio false 1 20⟩],
      some (.subnet none (some "10.0.0.0/8") false)⟩,
    ⟨some "", [⟨.flows, .one⟩], some (.time none (some (.millis (.ofInt (-1)))))⟩,
    ⟨some "all\n\"traffic\"", [], none⟩]

end Sample

/-- The sparse rule file is read as it was written. -/
theorem read_written_sparse :
    Sample.sparse.HasFiniteTolerances ∧
    ofDocument? .json Sample.sparse.toDocument.asJson.sorted = some Sample.sparse ∧
    parse .json Sample.sparse.toDocument.compact = .ok Sample.sparse := by
  have hfinite : Sample.sparse.HasFiniteTolerances := by decide +kernel
  obtain ⟨-, hsorted, htext⟩ := read_written Sample.sparse
  rw [if_pos hfinite] at hsorted
  exact ⟨hfinite, hsorted, htext (by decide +kernel)⟩

end RuleFile

end FlowParity
