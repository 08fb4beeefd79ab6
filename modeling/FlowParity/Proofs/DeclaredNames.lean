import FlowParity.RuleFile.Source
import Mathlib.Data.List.Forall2
/-!
# Declared names

Every part of a rule file stands at a place, and the place says which names the members of
a table may have there. A reader heeds a place if it refuses whatever has an undeclared
name there or further inside, as far as the dialect does not let it pass. The readers of a
structure heed its place because they ask for the declared names first and then leave each
member to a reader that heeds the place of that member, so the property is built up the way
the readers are.

So all names in a rule file that is accepted are declared where they stand, but for those
inside segments in JSON (`undeclared_of_parse`). What a segment says there is what its declared
members say (`segment?_json_filter`), and a misspelt network widens the rule to all traffic
(`exists_undeclared_parse`).
-/

namespace FlowParity

/-- What a part of a rule file stands for. -/
inductive Place
  /-- The rule file. -/
  | file
  /-- The settings. -/
  | settings
  /-- The list of rules. -/
  | rules
  /-- A rule. -/
  | rule
  /-- The list of metrics of a rule. -/
  | metrics
  /-- A metric. -/
  | metric
  /-- A segment of any kind. -/
  | segment
  /-- A pair of networks. -/
  | subnet
  /-- A window of time. -/
  | window
  /-- The name of a measure. -/
  | measure
  /-- The name of a scope. -/
  | scope
  /-- A text, a number, a truth value or an instant. -/
  | value
  deriving DecidableEq, Repr

namespace Place

open RuleFile

/-- The names that are declared at a place, each with the place it leads to. -/
def members : Place → List (String × Place)
  | file => fileNames.zip [settings, rules]
  | settings => modelNames.zip [value, value, value, scope]
  | rule => ruleNames.zip [value, metrics, segment]
  | metric => metricNames.zip [measure, value]
  | segment => [("subnet", subnet), ("time", window)]
  | subnet => subnetNames.zip [value, value, value]
  | window => timeNames.zip [value, value]
  | measure => (Measure.all.map Measure.ruleText ++ Measure.all.map Measure.toText).map (·, value)
  | scope => ([OffsetScope.both, .reference].map OffsetScope.toText).map (·, value)
  | rules | metrics | value => []

/-- What the items of a list stand for, where a list of any length may stand. -/
def item? : Place → Option Place
  | rules => some rule
  | metrics => some metric
  | _ => none

/-- Whether a name is declared at a place. -/
def Declares (place : Place) (name : String) : Prop := ∃ q, (name, q) ∈ place.members

instance (place : Place) (name : String) : Decidable (place.Declares name) :=
  decidable_of_iff (name ∈ place.members.map Prod.fst) (by simp [Declares])

end Place

/-- In a document that stands at a place, a table at another place has a member of an undeclared
name. Places are counted along declared members only, and along the items of a list: what is
inside an undeclared member stands nowhere, and so does a surplus item. -/
inductive Undeclared : Place → Document → Place → String → Prop
  /-- In the table itself. -/
  | here {place : Place} {ms : List (String × Document)} {name : String} {v : Document} :
      (name, v) ∈ ms → ¬ place.Declares name → Undeclared place (.table ms) place name
  /-- In a member of the table. -/
  | member {place q p : Place} {ms : List (String × Document)} {key name : String} {v : Document} :
      (key, v) ∈ ms → (key, q) ∈ place.members → Undeclared q v p name →
        Undeclared place (.table ms) p name
  /-- In a value of a list that gives the members of a structure in order. -/
  | field {place q p : Place} {items : List Document} {key name : String} {v : Document} {i : Nat} :
      items[i]? = some v → place.members[i]? = some (key, q) → Undeclared q v p name →
        Undeclared place (.list items) p name
  /-- In an item of a list of any length. -/
  | item {place q p : Place} {items : List Document} {name : String} {v : Document} :
      v ∈ items → place.item? = some q → Undeclared q v p name →
        Undeclared place (.list items) p name

/-- A dialect lets undeclared names pass inside segments, if anywhere. -/
def Dialect.LetsPass (d : Dialect) (p : Place) : Prop :=
  d.strictSegments = false ∧ (p = .subnet ∨ p = .window)

/-- A reader heeds a place: it refuses every document with an undeclared name, unless the dialect
lets it pass. -/
def Heeds (d : Dialect) (place : Place) {α : Type} (read : Document → Option α) : Prop :=
  ∀ ⦃doc a⦄, read doc = some a → ∀ ⦃p name⦄, Undeclared place doc p name → d.LetsPass p

/-- What stands at a place, if anything does, has no undeclared name but such as may pass. -/
def Heeded (d : Dialect) (place : Place) (o : Option Document) : Prop :=
  ∀ ⦃doc⦄, o = some doc → ∀ ⦃p name⦄, Undeclared place doc p name → d.LetsPass p

/-- What stands for nothing after the name of an alternative has no members. -/
def Dialect.UnitsAreEmpty (d : Dialect) : Prop :=
  ∀ ⦃doc⦄, d.isUnit doc = true → ∀ {p name}, ¬ Undeclared .value doc p name

namespace RuleFile

variable {d : Dialect} {place p q : Place} {name : String} {doc v : Document} {α : Type}

/-! ## Structures -/

/-- Members that are read once each stand in the order of their declarations. -/
theorem mem_zip_of_mapM_single? {ms : List (String × Document)} {key : String}
    {declared : List (String × Place)} {vs : List (Option Document)}
    (hread : (declared.map Prod.fst).mapM (single? ms) = some vs) (hkey : (key, q) ∈ declared)
    (hv : (key, v) ∈ ms) : (q, some v) ∈ (declared.map Prod.snd).zip vs := by
  induction declared generalizing vs with
  | nil => cases hkey
  | cons first rest ih =>
    rw [List.map_cons, List.mapM_cons] at hread
    obtain ⟨o, ho, hread⟩ := Option.bind_eq_some_iff.1 hread
    obtain ⟨os, hos, hread⟩ := Option.bind_eq_some_iff.1 hread
    cases hread
    rcases List.mem_cons.1 hkey with rfl | hkey
    · have hmem : (key, v) ∈ ms.filter fun m => m.1 = key :=
        List.mem_filter.2 ⟨hv, decide_eq_true rfl⟩
      -- a member that occurs once is the one that is found
      rw [single?] at ho
      split at ho
      · rename_i hnone
        rw [hnone] at hmem
        cases hmem
      · rename_i hone
        cases ho
        rw [hone, List.mem_singleton] at hmem
        cases hmem
        exact List.mem_cons_self
      · cases ho
    · exact List.mem_cons_of_mem _ (ih hos hkey)

/-- **Where the undeclared names of a structure are**: in its own table, if names are not asked
for, or in what stands at one of the declared names. -/
theorem letsPass_of_fields? {strictLists strictNames : Bool} {vs : List (Option Document)}
    (hread : fields? strictLists strictNames (place.members.map Prod.fst) doc = some vs)
    (hitem : place.item? = none) (hnames : strictNames = false → d.LetsPass place)
    (hmembers : List.Forall₂ (Heeded d) (place.members.map Prod.snd) vs)
    (hu : Undeclared place doc p name) : d.LetsPass p := by
  cases hu with
  | @here _ ms _ v hv hname =>
    refine hnames ?_
    cases strictNames with
    | false => rfl
    | true =>
      rw [fields?] at hread
      split at hread
      · cases hread
      · rename_i hstrict
        -- names are asked for, so this one is among the declared ones
        have hall : ms.all (fun m => (place.members.map Prod.fst).contains m.1) = true := by
          simpa using hstrict
        have hdeclared := List.contains_iff_mem.1 (List.all_eq_true.1 hall _ hv)
        obtain ⟨⟨key, q⟩, hq, rfl⟩ := List.mem_map.1 hdeclared
        exact absurd ⟨q, hq⟩ hname
  | member hv hkey hu =>
    rw [fields?] at hread
    split at hread
    · cases hread
    · exact List.forall₂_zip hmembers (mem_zip_of_mapM_single? hread hkey hv) rfl hu
  | @field _ q _ items key _ v i hi hkey hu =>
    rw [fields?] at hread
    split at hread
    · cases hread
    · cases hread
      obtain ⟨hlt, hq⟩ := List.getElem?_eq_some_iff.1 hkey
      have hzip : (q, some v) ∈ (place.members.map Prod.snd).zip
          ((List.range (place.members.map Prod.fst).length).map fun i => items[i]?) := by
        refine List.mem_iff_getElem?.2 ⟨i, ?_⟩
        simp [hlt, hi, hq]
      exact List.forall₂_zip hmembers hzip rfl hu
  | item _ hq _ =>
    rw [hitem] at hq
    cases hq

/-! ## Readers of values, of names and of lists -/

/-- What can be read as a value is no table. -/
theorem heeds_value {read : Document → Option α} (hread : ∀ ms, read (.table ms) = none) :
    Heeds d .value read := by
  intro doc a h p name hu
  cases hu with
  | here | member =>
    rw [hread] at h
    cases h
  | field _ hkey => cases hkey
  | item _ hq => cases hq

/-- What is read is heeded. -/
theorem heeded_of_some {read : Document → Option α} {a : α} (hread : Heeds d place read)
    (h : read doc = some a) : Heeded d place (some doc) := by
  rintro _ ⟨⟩ p name hu
  exact hread h hu

/-- Nothing is undeclared in a null. -/
theorem heeded_of_optional? {read : Document → Option α} {o : Option Document} {a : Option α}
    (hread : Heeds d place read) (h : optional? read o = some a) : Heeded d place o := by
  rintro doc rfl p name hu
  rw [optional?.eq_def] at h
  split at h
  · contradiction
  · rename_i hnull
    cases hnull
    cases hu
  · rename_i hdoc
    cases hdoc
    obtain ⟨b, hb, -⟩ := Option.map_eq_some_iff.1 h
    exact hread hb hu

/-- A default stands for nothing that was written. -/
theorem heeded_of_withDefault? {read : Document → Option α} {default a : α}
    {o : Option Document} (hread : Heeds d place read)
    (h : withDefault? default read o = some a) : Heeded d place o := by
  rintro doc rfl
  exact heeded_of_some hread h rfl

/-- Items that are read together can each be read. -/
theorem exists_of_mapM {read : Document → Option α} {items : List Document} {as : List α}
    (h : items.mapM read = some as) (hv : v ∈ items) : ∃ a, read v = some a := by
  induction items generalizing as with
  | nil => cases hv
  | cons first rest ih =>
    rw [List.mapM_cons] at h
    obtain ⟨b, hb, h⟩ := Option.bind_eq_some_iff.1 h
    obtain ⟨bs, hbs, -⟩ := Option.bind_eq_some_iff.1 h
    rcases List.mem_cons.1 hv with rfl | hv
    · exact ⟨b, hb⟩
    · exact ih hbs hv

/-- A reader of items that heeds their place makes a reader of lists that does. -/
theorem heeds_list? {read : Document → Option α} (hitem : place.item? = some q)
    (hmembers : place.members = []) (hread : Heeds d q read) : Heeds d place (list? read) := by
  intro doc as h p name hu
  cases hu with
  | here | member => cases h
  | field _ hkey =>
    rw [hmembers] at hkey
    cases hkey
  | item hv hq hu =>
    rw [hitem] at hq
    cases hq
    obtain ⟨a, ha⟩ := exists_of_mapM h hv
    exact hread ha hu

/-- Of an alternative that is declared, only what stands inside can be undeclared. -/
theorem undeclared_of_alternative {key : String} (hkey : (key, q) ∈ place.members)
    (hone : ∀ m ∈ place.members, m.1 = key → m.2 = q)
    (hu : Undeclared place (.table [(key, v)]) p name) : Undeclared q v p name := by
  cases hu with
  | here hv hname =>
    cases List.mem_singleton.1 hv
    exact absurd ⟨q, hkey⟩ hname
  | member hv hkey' hu =>
    cases List.mem_singleton.1 hv
    obtain rfl := hone _ hkey' rfl
    exact hu

/-- A name may be the one member of a table that gives it nothing. -/
theorem heeds_name? {ofText? : String → Option α} {names : List String} (hunit : d.UnitsAreEmpty)
    (hmembers : place.members = names.map (·, Place.value))
    (hnames : ∀ s a, ofText? s = some a → s ∈ names) : Heeds d place (name? d ofText?) := by
  intro doc a h p name hu
  rw [name?.eq_def] at h
  split at h
  · cases hu
  · split at h
    · rename_i s payload hpayload
      refine absurd (undeclared_of_alternative ?_ ?_ hu) (hunit hpayload)
      · rw [hmembers]
        exact List.mem_map_of_mem (hnames _ _ h)
      · intro m hm _
        rw [hmembers] at hm
        obtain ⟨_, -, rfl⟩ := List.mem_map.1 hm
        rfl
    · cases h
  · cases h

/-- A text is found among names by being one of them. -/
theorem heeds_measure? (hunit : d.UnitsAreEmpty) :
    Heeds d .measure (name? d Measure.ofRuleText?) := by
  refine heeds_name? hunit rfl fun s m h => ?_
  have hm : m ∈ Measure.all := List.mem_of_find?_eq_some h
  have hs := List.find?_some h
  rw [Bool.or_eq_true, decide_eq_true_eq, decide_eq_true_eq] at hs
  rcases hs with rfl | rfl
  · exact List.mem_append_left _ (List.mem_map_of_mem hm)
  · exact List.mem_append_right _ (List.mem_map_of_mem hm)

/-- The same of the names of scopes. -/
theorem heeds_scope? (hunit : d.UnitsAreEmpty) :
    Heeds d .scope (name? d OffsetScope.ofRuleText?) := by
  refine heeds_name? hunit rfl fun s scope h => ?_
  have hs := List.find?_some h
  rw [decide_eq_true_eq] at hs
  rw [← hs]
  exact List.mem_map_of_mem (List.mem_of_find?_eq_some h)

theorem heeds_text? : Heeds d .value text? := heeds_value fun _ => rfl

theorem heeds_bool? : Heeds d .value bool? := heeds_value fun _ => rfl

theorem heeds_counter? : Heeds d .value counter? := heeds_value fun _ => rfl

theorem heeds_number? : Heeds d .value number? := heeds_value fun _ => rfl

theorem heeds_instant? : Heeds d .value instant? := heeds_value fun _ => rfl

/-! ## Readers of structures -/

/-- The settings. -/
theorem heeds_model? (hunit : d.UnitsAreEmpty) : Heeds d .settings (model? d) := by
  intro doc m h p name hu
  obtain ⟨vs, hvs, h⟩ := Option.bind_eq_some_iff.1 h
  split at h
  · obtain ⟨_, hactive, h⟩ := Option.bind_eq_some_iff.1 h
    obtain ⟨_, hinactive, h⟩ := Option.bind_eq_some_iff.1 h
    obtain ⟨_, hstart, h⟩ := Option.bind_eq_some_iff.1 h
    obtain ⟨_, hscope, h⟩ := Option.bind_eq_some_iff.1 h
    refine letsPass_of_fields? hvs rfl ?_ ?_ hu
    · nofun
    exact .cons (heeded_of_optional? heeds_counter? hactive) <|
      .cons (heeded_of_optional? heeds_counter? hinactive) <|
      .cons (heeded_of_optional? heeds_instant? hstart) <|
      .cons (heeded_of_optional? (heeds_scope? hunit) hscope) .nil
  · cases h

/-- A metric. -/
theorem heeds_metric? (hunit : d.UnitsAreEmpty) : Heeds d .metric (metric? d) := by
  intro doc m h p name hu
  obtain ⟨vs, hvs, h⟩ := Option.bind_eq_some_iff.1 h
  split at h
  · obtain ⟨_, hmeasure, h⟩ := Option.bind_eq_some_iff.1 h
    obtain ⟨_, htolerance, h⟩ := Option.bind_eq_some_iff.1 h
    refine letsPass_of_fields? hvs rfl ?_ ?_ hu
    · nofun
    exact .cons (heeded_of_some (heeds_measure? hunit) hmeasure) <|
      .cons (heeded_of_some heeds_number? htolerance) .nil
  · cases h

/-- What stands instead of the table of a segment has no members. -/
theorem segmentFields?_eq_some {names : List String} {vs : List (Option Document)}
    (h : segmentFields? d names doc = some vs) (hu : Undeclared place doc p name) :
    fields? d.strictLists d.strictSegments names doc = some vs := by
  cases hu <;> exact h

/-- A pair of networks: its own table is where undeclared names may pass. -/
theorem heeds_subnet? : Heeds d .subnet (subnet? d) := by
  intro doc m h p name hu
  obtain ⟨vs, hvs, h⟩ := Option.bind_eq_some_iff.1 h
  split at h
  · obtain ⟨_, hsource, h⟩ := Option.bind_eq_some_iff.1 h
    obtain ⟨_, htarget, h⟩ := Option.bind_eq_some_iff.1 h
    obtain ⟨_, hbothWays, h⟩ := Option.bind_eq_some_iff.1 h
    refine letsPass_of_fields? (segmentFields?_eq_some hvs hu) rfl (⟨·, .inl rfl⟩) ?_ hu
    exact .cons (heeded_of_optional? heeds_text? hsource) <|
      .cons (heeded_of_optional? heeds_text? htarget) <|
      .cons (heeded_of_withDefault? heeds_bool? hbothWays) .nil
  · cases h

/-- A window of time. -/
theorem heeds_time? : Heeds d .window (time? d) := by
  intro doc m h p name hu
  obtain ⟨vs, hvs, h⟩ := Option.bind_eq_some_iff.1 h
  split at h
  · obtain ⟨_, hstart, h⟩ := Option.bind_eq_some_iff.1 h
    obtain ⟨_, hfinish, h⟩ := Option.bind_eq_some_iff.1 h
    refine letsPass_of_fields? (segmentFields?_eq_some hvs hu) rfl (⟨·, .inr rfl⟩) ?_ hu
    exact .cons (heeded_of_optional? heeds_instant? hstart) <|
      .cons (heeded_of_optional? heeds_instant? hfinish) .nil
  · cases h

/-- A segment: the name of its kind is declared whatever the dialect. -/
theorem heeds_segment? : Heeds d .segment (segment? d) := by
  intro doc s h p name hu
  rw [segment?.eq_def] at h
  split at h
  · split at h
    · rename_i hkind
      subst hkind
      exact heeds_subnet? h (undeclared_of_alternative (by decide) (by decide) hu)
    split at h
    · rename_i hkind
      subst hkind
      exact heeds_time? h (undeclared_of_alternative (by decide) (by decide) hu)
    · cases h
  · cases h

/-- A rule. -/
theorem heeds_rule? (hunit : d.UnitsAreEmpty) : Heeds d .rule (rule? d) := by
  intro doc r h p name hu
  obtain ⟨vs, hvs, h⟩ := Option.bind_eq_some_iff.1 h
  split at h
  · obtain ⟨_, hname, h⟩ := Option.bind_eq_some_iff.1 h
    obtain ⟨_, hmetrics, h⟩ := Option.bind_eq_some_iff.1 h
    obtain ⟨_, hsegment, h⟩ := Option.bind_eq_some_iff.1 h
    refine letsPass_of_fields? hvs rfl ?_ ?_ hu
    · nofun
    exact .cons (heeded_of_optional? heeds_text? hname) <|
      .cons (heeded_of_some (heeds_list? rfl rfl (heeds_metric? hunit)) hmetrics) <|
      .cons (heeded_of_optional? heeds_segment? hsegment) .nil
  · cases h

/-- **A rule file heeds its place.** -/
theorem heeds_ofDocument? (hunit : d.UnitsAreEmpty) : Heeds d .file (ofDocument? d) := by
  intro doc f h p name hu
  obtain ⟨vs, hvs, h⟩ := Option.bind_eq_some_iff.1 h
  split at h
  · obtain ⟨_, hmodel, h⟩ := Option.bind_eq_some_iff.1 h
    obtain ⟨_, hrules, h⟩ := Option.bind_eq_some_iff.1 h
    refine letsPass_of_fields? hvs rfl ?_ ?_ hu
    · nofun
    exact .cons (heeded_of_withDefault? (heeds_model? hunit) hmodel) <|
      .cons (heeded_of_withDefault? (heeds_list? rfl rfl (heeds_rule? hunit)) hrules) .nil
  · cases h

/-! ## The two formats -/

/-- Null is without members. -/
theorem unitsAreEmpty_json : Dialect.json.UnitsAreEmpty := by
  intro doc h p name hu
  cases hu <;> simp [Dialect.json] at h

/-- So are the empty table and the empty list. -/
theorem unitsAreEmpty_toml : Dialect.toml.UnitsAreEmpty := by
  intro doc h p name hu
  cases hu with
  | @here _ ms _ _ hv | @member _ _ _ ms _ _ _ hv =>
    cases ms with
    | nil => cases hv
    | cons => simp [Dialect.toml] at h
  | field _ hkey => cases hkey
  | item _ hq => cases hq

/-! ## What undeclared members of a segment say -/

/-- Which members have other names makes no difference to the one of a name. -/
theorem single?_filter {ms : List (String × Document)} {key : String} {keep : String → Prop}
    [DecidablePred keep] (hkey : keep key) :
    single? (ms.filter fun m => keep m.1) key = single? ms key := by
  have hfilter : ((ms.filter fun m => keep m.1).filter fun m => m.1 = key)
      = ms.filter fun m => m.1 = key := by
    rw [List.filter_filter]
    refine List.filter_congr fun m _ => ?_
    rw [Bool.and_eq_left_iff_imp, decide_eq_true_eq, decide_eq_true_eq]
    rintro rfl
    exact hkey
  rw [single?, single?, hfilter]

/-- Where names are not asked for, a table is its declared members. -/
theorem fields?_filter (place : Place) (strictLists : Bool) (ms : List (String × Document)) :
    fields? strictLists false (place.members.map Prod.fst)
        (.table (ms.filter fun m => place.Declares m.1)) =
      fields? strictLists false (place.members.map Prod.fst) (.table ms) := by
  suffices h : ∀ names : List String, (∀ key ∈ names, place.Declares key) →
      names.mapM (single? (ms.filter fun m => place.Declares m.1)) = names.mapM (single? ms) by
    refine h _ fun key hkey => ?_
    obtain ⟨⟨_, q⟩, hq, rfl⟩ := List.mem_map.1 hkey
    exact ⟨q, hq⟩
  intro names hnames
  induction names with
  | nil => rfl
  | cons key rest ih =>
    rw [List.mapM_cons, List.mapM_cons, single?_filter (hnames key List.mem_cons_self),
      ih fun other hother => hnames other (List.mem_cons_of_mem _ hother)]

/-- **A segment in JSON is what its declared members say**, whichever others it has. -/
theorem segment?_json_filter {kind : String} (hkind : (kind, place) ∈ Place.segment.members)
    (ms : List (String × Document)) :
    segment? .json (.table [(kind, .table (ms.filter fun m => place.Declares m.1))]) =
      segment? .json (.table [(kind, .table ms)]) := by
  rcases List.mem_cons.1 hkind with hsubnet | htime
  · cases hsubnet
    exact congrArg (Option.bind · _) (fields?_filter .subnet true ms)
  · cases List.mem_singleton.1 htime
    exact congrArg (Option.bind · _) (fields?_filter .window true ms)

end RuleFile

/-- The dialect of a format. -/
def RuleFormat.dialect : RuleFormat → Dialect
  | toml => .toml
  | json => .json

/-- The data that a text is in one of the formats. -/
def RuleFormat.document? : RuleFormat → String → Option Document
  | toml => Document.ofToml?
  | json => Document.ofJson?

namespace RuleFile

/-- The rule file of a text is the rule file of its data. -/
theorem exists_of_parse {format : RuleFormat} {text : String} {f : RuleFile}
    (h : parse format text = .ok f) :
    ∃ doc, format.document? text = some doc ∧ ofDocument? format.dialect doc = some f := by
  rw [parse] at h
  split at h
  · rename_i hf
    cases h
    cases format <;> exact Option.bind_eq_some_iff.1 hf
  · cases h

/-- **What a rule file may hold beyond what is declared**: in TOML nothing, in JSON what is inside
the tables of its segments, where it counts for nothing (`segment?_json_filter`). -/
theorem undeclared_of_parse {format : RuleFormat} {text : String} {f : RuleFile}
    (h : parse format text = .ok f) :
    ∃ doc, format.document? text = some doc ∧ ofDocument? format.dialect doc = some f ∧
      ∀ p name, Undeclared .file doc p name → format = .json ∧ (p = .subnet ∨ p = .window) := by
  obtain ⟨doc, hdoc, hf⟩ := exists_of_parse h
  refine ⟨doc, hdoc, hf, fun p name hu => ?_⟩
  cases format with
  | toml =>
    obtain ⟨hstrict, -⟩ := heeds_ofDocument? unitsAreEmpty_toml hf hu
    cases hstrict
  | json => exact ⟨rfl, (heeds_ofDocument? unitsAreEmpty_json hf hu).2⟩

end RuleFile

namespace Sample

/-- A rule file about the traffic from one network, in TOML. -/
def fromNetwork : String :=
  "[[rules]]\nmetrics = [ \x7b metric = \"packets\", tolerance = 0.0 \x7d ]\n" ++
  "segment = \x7b subnet = \x7b source = \"10.0.0.0/8\" \x7d \x7d\n"

/-- The same in JSON, with a slip of the pen. -/
def misspelt : String :=
  "\x7b\"rules\":[\x7b\"metrics\":[\x7b\"metric\":\"packets\",\"tolerance\":0\x7d]," ++
  "\"segment\":\x7b\"subnet\":\x7b\"sorce\":\"10.0.0.0/8\"\x7d\x7d\x7d]\x7d"

/-- The rule about the packets between two networks, which are any networks if none are named. -/
def between (source target : Option String) : RuleFile :=
  ⟨.empty, [⟨none, [⟨.packets, .zero⟩], some (.subnet source target false)⟩]⟩

end Sample

namespace RuleFile

/-- What is declared is all that there is in the file of the sample. -/
theorem undeclared_of_parse_sample :
    parse .toml Sample.fromNetwork = .ok (Sample.between (some "10.0.0.0/8") none) ∧
      ∃ doc, RuleFormat.toml.document? Sample.fromNetwork = some doc ∧
        ∀ p name, ¬ Undeclared .file doc p name := by
  have hparse : parse .toml Sample.fromNetwork =
      .ok (Sample.between (some "10.0.0.0/8") none) := by decide +kernel
  refine ⟨hparse, ?_⟩
  obtain ⟨doc, hdoc, -, hall⟩ := undeclared_of_parse hparse
  refine ⟨doc, hdoc, fun p name hu => ?_⟩
  cases (hall p name hu).1

/-- **A misspelt network goes unnoticed in JSON**, and the rule is about all traffic. -/
theorem exists_undeclared_parse :
    ∃ text f doc, parse .json text = .ok f ∧ RuleFormat.json.document? text = some doc ∧
      Undeclared .file doc .subnet "sorce" ∧ f = Sample.between none none := by
  refine ⟨Sample.misspelt, Sample.between none none,
    .table [("rules", .list [.table [
      ("metrics", .list [.table [("metric", .string "packets"), ("tolerance", .integer 0)]]),
      ("segment", .table [("subnet", .table [("sorce", .string "10.0.0.0/8")])])]])],
    ?_, ?_, ?_, rfl⟩
  · decide +kernel
  · cbv
  · refine .member (.head _) (.tail _ (.head _)) (.item (.head _) rfl ?_)
    refine .member (.tail _ (.head _)) (.tail _ (.tail _ (.head _))) ?_
    exact .member (.head _) (.head _) (.here (.head _) (by decide))

end RuleFile

end FlowParity
