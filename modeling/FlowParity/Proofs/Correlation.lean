import FlowParity.Log.Trace
import FlowParity.Proofs.JsonTexts
import FlowParity.Proofs.SortedTables
import Mathlib.Data.List.Induction
/-!
# Correlated log lines

A log line says to which run and stage it belongs, and what it does not know from its event it knows
from the spans around. A span knows what was recorded last in it (`Span.ofFields_eq`). Which spans
are around is a matter of the whole trace so far: a span is open if it was entered and what came
later never left it (`Opened`), and of the open spans that know a field the innermost one counts
(`Innermost`). The stack of spans that a trace is followed with holds just the open ones, innermost
first (`innermost_iff`).

The members of a line are put into one table one after the other, so what the event says itself
replaces what the spans know, and nothing else in the event gets to the top (`lines_correlated`).
-/

namespace FlowParity.Log

open Document

/-! ## Recorded spans -/

namespace Span

variable {name : String} {fields : List (String × Recording × String)}
  {f : String × Recording × String}

/-- The text that was recorded last under a name. -/
def lastRecorded (name : String) (fields : List (String × Recording × String)) : Option String :=
  (fields.reverse.find? fun f => f.1 = name).map fun f => f.2.1.apply f.2.2

theorem lastRecorded_concat : lastRecorded name (fields ++ [f]) =
    if f.1 = name then some (f.2.1.apply f.2.2) else lastRecorded name fields := by
  rw [lastRecorded, lastRecorded, List.reverse_concat, List.find?_cons]
  by_cases h : f.1 = name
  · rw [decide_eq_true h, if_pos h]
    rfl
  · rw [decide_eq_false h, if_neg h]

theorem ofFields_concat :
    ofFields (fields ++ [f]) = (ofFields fields).record f.1 f.2.1 f.2.2 := by
  rw [ofFields, List.foldl_append]
  rfl

/-- **A span knows what was recorded in it**: the last text for the run, and the last one for the
stage. -/
theorem ofFields_eq :
    ofFields fields = ⟨lastRecorded "run_id" fields, lastRecorded "stage" fields⟩ := by
  induction fields using List.reverseRecOn with
  | nil => rfl
  | append_singleton fields f ih =>
    rw [ofFields_concat, ih, record, lastRecorded_concat, lastRecorded_concat]
    by_cases hrun : f.1 = "run_id"
    · have hstage : f.1 ≠ "stage" := by
        rw [hrun]
        decide
      rw [if_pos hrun, if_pos hrun, if_neg hstage]
    · rw [if_neg hrun, if_neg hrun]
      split <;> rfl

end Span

/-! ## Open spans -/

namespace Step

/-- Whether a span is entered. -/
@[simp]
def isEnter : Step → Bool
  | enter _ => true
  | _ => false

/-- Whether a span is left. -/
@[simp]
def isLeave : Step → Bool
  | leave => true
  | _ => false

/-- Whether an event happens. -/
def isEvent : Step → Bool
  | event _ => true
  | _ => false

end Step

/-- Steps that never leave the span they start in: at no point more spans were left than entered. -/
def StaysInside (steps : List Step) : Prop :=
  ∀ start, start <+: steps → start.countP Step.isLeave ≤ start.countP Step.isEnter

/-- A span was entered in the past, and what came later has not left it. -/
def Opened (past : List Step) (s : Span) (later : List Step) : Prop :=
  (∃ earlier, past = earlier ++ .enter s :: later) ∧ StaysInside later

/-- What is known about a field after some steps: what the innermost open span says that knows it,
or nothing if no open span does. -/
inductive Innermost (field : Span → Option String) (past : List Step) : Option String → Prop
  /-- An open span knows it, and none that was opened inside and is open still. -/
  | known {s : Span} {later : List Step} {value : String} :
      Opened past s later → field s = some value →
        (∀ t last, Opened later t last → field t = none) → Innermost field past (some value)
  /-- No open span knows it. -/
  | unknown : (∀ s later, Opened past s later → field s = none) → Innermost field past none

/-- The spans around what comes after some steps, the innermost first. -/
def spansAfter (spans : List Span) : List Step → List Span
  | [] => spans
  | .enter span :: rest => spansAfter (span :: spans) rest
  | .leave :: rest => spansAfter (spans.drop 1) rest
  | .event _ :: rest => spansAfter spans rest

variable {spans xs ys : List Span} {s : Span} {step : Step} {past later steps : List Step}

theorem spansAfter_append :
    spansAfter spans (past ++ steps) = spansAfter (spansAfter spans past) steps := by
  induction past generalizing spans with
  | nil => rfl
  | cons step past ih => cases step <;> exact ih

/-- Steps that leave at most some number of the spans around them. -/
def LeavesAtMost (n : Nat) (steps : List Step) : Prop :=
  ∀ start, start <+: steps → start.countP Step.isLeave ≤ n + start.countP Step.isEnter

theorem LeavesAtMost.of_enter {n : Nat} (h : LeavesAtMost n (.enter s :: steps)) :
    LeavesAtMost (n + 1) steps := by
  intro start hstart
  have hcount := h (.enter s :: start) (List.cons_prefix_cons.2 ⟨rfl, hstart⟩)
  simp [List.countP_cons] at hcount
  omega

theorem LeavesAtMost.of_leave {n : Nat} (h : LeavesAtMost n (.leave :: steps)) :
    ∃ m, n = m + 1 ∧ LeavesAtMost m steps := by
  have hcount : ∀ start, start <+: steps →
      start.countP Step.isLeave + 1 ≤ n + start.countP Step.isEnter := fun start hstart => by
    simpa [List.countP_cons] using h (.leave :: start) (List.cons_prefix_cons.2 ⟨rfl, hstart⟩)
  have hpos : 1 ≤ n := by simpa using hcount [] List.nil_prefix
  refine ⟨n - 1, by omega, fun start hstart => ?_⟩
  have := hcount start hstart
  omega

theorem LeavesAtMost.of_event {n : Nat} {e : Event} (h : LeavesAtMost n (.event e :: steps)) :
    LeavesAtMost n steps := fun start hstart => by
  simpa [List.countP_cons] using h (.event e :: start) (List.cons_prefix_cons.2 ⟨rfl, hstart⟩)

/-- Steps that leave only spans at the front keep those behind. -/
theorem spansAfter_of_leavesAtMost (h : LeavesAtMost xs.length steps) :
    spansAfter (xs ++ spans) steps = spansAfter xs steps ++ spans := by
  induction steps generalizing xs with
  | nil => rfl
  | cons step steps ih =>
    cases step with
    | enter t =>
      have hrest : LeavesAtMost (t :: xs).length steps := h.of_enter
      exact ih hrest
    | leave =>
      obtain ⟨m, hm, hrest⟩ := h.of_leave
      obtain ⟨t, inner, rfl⟩ := List.exists_cons_of_length_eq_add_one hm
      obtain rfl : inner.length = m := Nat.succ.inj hm
      exact ih hrest
    | event e => exact ih h.of_event

/-- What never leaves the span it starts in leaves the spans around alone. -/
theorem spansAfter_of_staysInside (h : StaysInside steps) :
    spansAfter spans steps = spansAfter [] steps ++ spans := by
  have hnone : LeavesAtMost ([] : List Span).length steps := fun start hstart => by
    simpa using h start hstart
  exact spansAfter_of_leavesAtMost hnone

theorem staysInside_concat (h : StaysInside steps)
    (hcount : (steps ++ [step]).countP Step.isLeave ≤ (steps ++ [step]).countP Step.isEnter) :
    StaysInside (steps ++ [step]) := by
  intro start hstart
  rcases List.prefix_concat_iff.1 hstart with rfl | hstart
  · exact hcount
  · exact h start hstart

theorem length_spansAfter (h : StaysInside steps) :
    (spansAfter [] steps).length + steps.countP Step.isLeave = steps.countP Step.isEnter := by
  induction steps using List.reverseRecOn with
  | nil => rfl
  | append_singleton steps step ih =>
    have hcount := h _ (List.prefix_refl _)
    have ih := ih fun start hstart => h start (hstart.trans (List.prefix_append _ _))
    rw [spansAfter_append]
    cases step <;>
      simp [List.countP_cons, spansAfter] at hcount ⊢ <;> omega

/-- A span stays open as long as no more spans are left than were entered in it. -/
theorem Opened.concat (h : Opened past s later)
    (hcount : (later ++ [step]).countP Step.isLeave ≤ (later ++ [step]).countP Step.isEnter) :
    Opened (past ++ [step]) s (later ++ [step]) := by
  obtain ⟨⟨earlier, rfl⟩, hstays⟩ := h
  exact ⟨⟨earlier, by rw [List.append_assoc, List.cons_append]⟩, staysInside_concat hstays hcount⟩

/-- **The spans after some steps are open**, those opened inside before them. -/
theorem exists_opened (h : spansAfter [] past = xs ++ s :: ys) :
    ∃ later, Opened past s later ∧ spansAfter [] later = xs := by
  induction past using List.reverseRecOn generalizing xs with
  | nil => simp [spansAfter] at h
  | append_singleton past step ih =>
    rw [spansAfter_append] at h
    cases step with
    | enter t =>
      change t :: spansAfter [] past = _ at h
      cases xs with
      | nil =>
        obtain ⟨rfl, -⟩ := List.cons.inj h
        refine ⟨[], ⟨⟨past, rfl⟩, fun start hstart => ?_⟩, rfl⟩
        rw [List.prefix_nil.1 hstart, List.countP_nil, List.countP_nil]
      | cons x xs =>
        obtain ⟨rfl, hrest⟩ := List.cons.inj h
        obtain ⟨later, hopened, rfl⟩ := ih hrest
        have hcount := hopened.2 _ (List.prefix_refl _)
        refine ⟨later ++ [.enter t], hopened.concat ?_, spansAfter_append⟩
        simp [List.countP_cons]
        omega
    | leave =>
      -- the span that is left was the innermost one
      obtain ⟨t, hopen⟩ : ∃ t, spansAfter [] past = (t :: xs) ++ s :: ys := by
        change (spansAfter [] past).drop 1 = _ at h
        cases hspans : spansAfter [] past with
        | nil => simp [hspans] at h
        | cons t rest =>
          rw [hspans] at h
          exact ⟨t, congrArg (t :: ·) h⟩
      obtain ⟨later, hopened, hinner⟩ := ih hopen
      have hlength := length_spansAfter hopened.2
      refine ⟨later ++ [.leave], hopened.concat ?_, by rw [spansAfter_append, hinner]; rfl⟩
      rw [hinner, List.length_cons] at hlength
      simp [List.countP_cons]
      omega
    | event e =>
      obtain ⟨later, hopened, rfl⟩ := ih h
      have hcount := hopened.2 _ (List.prefix_refl _)
      refine ⟨later ++ [.event e], hopened.concat ?_, spansAfter_append⟩
      simpa [List.countP_cons] using hcount

/-- An open span is among the spans after some steps, behind those opened inside. -/
theorem Opened.spansAfter_eq (h : Opened past s later) :
    ∃ outer, spansAfter [] past = spansAfter [] later ++ s :: outer := by
  obtain ⟨⟨earlier, rfl⟩, hstays⟩ := h
  refine ⟨spansAfter [] earlier, ?_⟩
  rw [spansAfter_append, spansAfter, spansAfter_of_staysInside hstays]

/-- Spans are open if and only if they are among those after the steps. -/
theorem mem_spansAfter : s ∈ spansAfter [] past ↔ ∃ later, Opened past s later := by
  constructor
  · intro hs
    obtain ⟨xs, ys, h⟩ := List.append_of_mem hs
    obtain ⟨later, hopened, -⟩ := exists_opened h
    exact ⟨later, hopened⟩
  · rintro ⟨later, hopened⟩
    obtain ⟨outer, h⟩ := hopened.spansAfter_eq
    rw [h]
    exact List.mem_append_right _ List.mem_cons_self

/-- **What is known about a field** is what the first of the spans says that knows it. -/
theorem innermost_iff {field : Span → Option String} {o : Option String} :
    Innermost field past o ↔ (spansAfter [] past).findSome? field = o := by
  constructor
  · intro h
    cases h with
    | known hopened hvalue hinner =>
      obtain ⟨outer, hspans⟩ := hopened.spansAfter_eq
      refine List.findSome?_eq_some_iff.2 ⟨_, _, outer, hspans, hvalue, fun t ht => ?_⟩
      obtain ⟨last, hlast⟩ := mem_spansAfter.1 ht
      exact hinner t last hlast
    | unknown hnone =>
      refine List.findSome?_eq_none_iff.2 fun t ht => ?_
      obtain ⟨later, hlater⟩ := mem_spansAfter.1 ht
      exact hnone t later hlater
  · intro h
    cases o with
    | some value =>
      obtain ⟨inner, t, outer, hspans, hvalue, hinner⟩ := List.findSome?_eq_some_iff.1 h
      obtain ⟨later, hopened, rfl⟩ := exists_opened hspans
      exact .known hopened hvalue fun u last hlast => hinner u (mem_spansAfter.2 ⟨last, hlast⟩)
    | none =>
      exact .unknown fun t later hopened =>
        List.findSome?_eq_none_iff.1 h t (mem_spansAfter.2 ⟨later, hopened⟩)

/-! ## Lines -/

theorem lines_append : lines spans (past ++ steps) =
    lines spans past ++ lines (spansAfter spans past) steps := by
  induction past generalizing spans with
  | nil => rfl
  | cons step past ih =>
    cases step with
    | enter | leave => exact ih
    | event e => exact congrArg (e.line spans none :: ·) ih

/-- **There is one line for each event.** -/
theorem length_lines : (lines spans steps).length = steps.countP Step.isEvent := by
  induction steps generalizing spans with
  | nil => rfl
  | cons step steps ih =>
    rw [List.countP_cons]
    cases step with
    | enter | leave => exact ih
    | event e => exact congrArg (· + 1) ih

/-- The line of an event stands behind those of the events before it. -/
theorem lines_event {e : Event} :
    (lines spans (past ++ .event e :: steps))[past.countP Step.isEvent]? =
      some (e.line (spansAfter spans past) none) := by
  have hlength : (lines spans past).length = past.countP Step.isEvent := length_lines
  rw [lines_append, ← hlength, List.getElem?_append_right le_rfl, Nat.sub_self]
  rfl

/-! ## Members -/

/-- The value of a name in an event as it is logged: the last one that is logged at all, with the
members of tables inside it in order. -/
def Event.value? (e : Event) (name : String) : Option Document :=
  (e.recorded.reverse.findSome? fun (other, value) =>
    if other = name then value.bind loggable else none).map Document.sorted

/-- The members of a line tell a time, an event, and what is known from the steps before it. -/
structure Tells (time : Option String) (past : List Step) (e : Event)
    (members : List (String × Document)) : Prop where
  /-- No name stands twice, and names are in order. -/
  inOrder : NamesInOrder members
  /-- The time is the given one. -/
  time : members.lookup "ts" = time.map .string
  /-- The severity is that of the event. -/
  level : members.lookup "level" = some (.string e.severity.toText)
  /-- The target is that of the event. -/
  target : members.lookup "target" = some (.string e.target)
  /-- The run is the one of the event, else the one of the innermost open span that knows it. -/
  run : ∃ o, Innermost Span.runId past o ∧
    members.lookup "run_id" = (e.value? "run_id").or (o.map .string)
  /-- The stage is found in the same way, whichever span the run comes from. -/
  stage : ∃ o, Innermost Span.stage past o ∧
    members.lookup "stage" = (e.value? "stage").or (o.map .string)
  /-- What happened only the event can tell. -/
  own : ∀ name ∈ ["message", "event"], members.lookup name = e.value? name
  /-- The other values of the event are below `fields`, which is left out if there are none. -/
  fields : (members.lookup "fields" = none ∧ ∀ name ∉ topNames, e.value? name = none) ∨
    ∃ table, members.lookup "fields" = some (.table table) ∧ table ≠ [] ∧ NamesInOrder table ∧
      ∀ name, table.lookup name = if name ∈ topNames then none else e.value? name
  /-- Nothing else is there. -/
  others : ∀ name ∉ ["ts", "level", "target", "fields"] ++ topNames, members.lookup name = none

variable {e : Event} {name : String} {time : Option String}

/-- The last of the members that an event has under a name is its value. -/
theorem Event.lookup_members :
    (e.members.reverse.lookup name).map Document.sorted = e.value? name := by
  rw [Event.members, Event.value?, ← List.filterMap_reverse]
  congr 1
  generalize e.recorded.reverse = recorded
  induction recorded with
  | nil => rfl
  | cons m recorded ih =>
    obtain ⟨other, value⟩ := m
    rw [List.filterMap_cons, List.findSome?_cons]
    cases hvalue : value.bind loggable with
    | none => simpa [hvalue] using ih
    | some d =>
      by_cases h : other = name
      · simp [hvalue, h]
      · simpa [hvalue, h, lookup_cons_eq_ite, Ne.symm h] using ih

/-- Of the members with certain names an event has those it has. -/
theorem Event.lookup_filter_members {p : String → Bool} :
    ((e.members.filter fun m => p m.1).reverse.lookup name).map Document.sorted =
      if p name then e.value? name else none := by
  rw [← List.filter_reverse, lookup_filter, ← Event.lookup_members]
  split <;> rfl

/-- The member below which the other values of an event are, if there are any. -/
def Event.fieldsTable (e : Event) : Option (List (String × Document)) :=
  if e.fieldMembers.isEmpty then none else some (sortMembers (sortedMembers e.fieldMembers))

/-- The members of a line. -/
def Event.lineMembers (spans : List Span) (time : Option String) (e : Event) :
    List (String × Document) :=
  match e.lineDocument spans time with
  | .table members => members
  | _ => []

/-- **What a line says under a name**: what was put in last. -/
theorem Event.lookup_lineMembers : (e.lineMembers spans time).lookup name =
    (if name = "fields" then e.fieldsTable.map .table else none).or
      ((if topNames.contains name then e.value? name else none).or
        ((if name = "stage" then (spans.findSome? Span.stage).map .string else none).or
          ((if name = "run_id" then (spans.findSome? Span.runId).map .string else none).or
            ((if name = "target" then some (.string e.target) else none).or
              ((if name = "level" then some (.string e.severity.toText) else none).or
                (if name = "ts" then time.map .string else none)))))) := by
  have hfields : (((if e.fieldMembers.isEmpty then []
      else [("fields", Document.table e.fieldMembers)]).reverse.lookup name).map Document.sorted) =
        if name = "fields" then e.fieldsTable.map .table else none := by
    rw [Event.fieldsTable]
    cases e.fieldMembers.isEmpty with
    | true => simp
    | false =>
      rw [if_neg Bool.false_ne_true, if_neg Bool.false_ne_true, List.reverse_singleton,
        lookup_cons_eq_ite]
      split <;> rfl
  have hhead : ([("level", Document.string e.severity.toText), ("target", .string e.target)] :
      List (String × Document)) = Document.optional "level" .string (some e.severity.toText) ++
        Document.optional "target" .string (some e.target) := rfl
  have hstring : ∀ s, (Document.string s).sorted = .string s := fun _ => rfl
  have hmembers : e.lineMembers spans time = sortMembers (sortedMembers (
      Document.optional "ts" .string time ++
      [("level", .string e.severity.toText), ("target", .string e.target)] ++
      Document.optional "run_id" .string (spans.findSome? Span.runId) ++
      Document.optional "stage" .string (spans.findSome? Span.stage) ++
      e.topMembers ++
      if e.fieldMembers.isEmpty then [] else [("fields", Document.table e.fieldMembers)])) := rfl
  rw [hmembers, hhead, lookup_sorted, Event.topMembers]
  simp only [List.reverse_append, List.lookup_append, Option.map_or, lookup_optional hstring,
    Event.lookup_filter_members, hfields, Option.or_assoc, Option.map_some]

theorem Event.lookup_fieldMembers : (e.fieldMembers.reverse.lookup name).map Document.sorted =
    if name ∈ topNames then none else e.value? name := by
  rw [Event.fieldMembers, Event.lookup_filter_members (p := fun n => !topNames.contains n)]
  by_cases h : name ∈ topNames <;> simp [h]

/-- **Below `fields` are the values of all other names**, and there is no such member without. -/
theorem Event.fieldsTable_spec : (e.fieldsTable = none ∧ ∀ name ∉ topNames, e.value? name = none) ∨
    ∃ table, e.fieldsTable = some table ∧ table ≠ [] ∧ NamesInOrder table ∧
      ∀ name, table.lookup name = if name ∈ topNames then none else e.value? name := by
  rw [Event.fieldsTable]
  cases hfields : e.fieldMembers with
  | nil =>
    refine .inl ⟨rfl, fun name hname => ?_⟩
    have hvalue : _ = if name ∈ topNames then none else e.value? name := Event.lookup_fieldMembers
    rw [hfields, if_neg hname] at hvalue
    exact hvalue.symm
  | cons m rest =>
    have htable : ∀ name, (sortMembers (sortedMembers e.fieldMembers)).lookup name =
        if name ∈ topNames then none else e.value? name := fun name => by
      rw [lookup_sorted, Event.lookup_fieldMembers]
    rw [← hfields]
    refine .inr ⟨_, by simp [hfields], fun hnil => ?_, namesInOrder_sortMembers, htable⟩
    -- the first of the values has a name that cannot be looked up in an empty table
    have hnone : (sortMembers (sortedMembers e.fieldMembers)).lookup m.1 = none := by
      rw [hnil, List.lookup_nil]
    rw [lookup_sorted, Option.map_eq_none_iff, List.lookup_eq_none_iff] at hnone
    exact absurd (hnone m (List.mem_reverse.2 (hfields ▸ List.mem_cons_self))) (by simp)

/-- **What a line tells**, whatever came before. -/
theorem Event.tells_lineMembers :
    Tells time past e (e.lineMembers (spansAfter [] past) time) where
  inOrder := namesInOrder_sortMembers
  time := by simp [Event.lookup_lineMembers, topNames]
  level := by simp [Event.lookup_lineMembers, topNames]
  target := by simp [Event.lookup_lineMembers, topNames]
  run := ⟨_, innermost_iff.2 rfl, by simp [Event.lookup_lineMembers, topNames]⟩
  stage := ⟨_, innermost_iff.2 rfl, by simp [Event.lookup_lineMembers, topNames]⟩
  own name hname := by
    rw [List.mem_cons, List.mem_singleton] at hname
    rcases hname with rfl | rfl <;> simp [Event.lookup_lineMembers, topNames]
  fields := by
    have hlookup : (e.lineMembers (spansAfter [] past) time).lookup "fields" =
        e.fieldsTable.map .table := by
      simp [Event.lookup_lineMembers, topNames]
    rw [hlookup]
    rcases Event.fieldsTable_spec with ⟨hnone, hvalues⟩ | ⟨table, htable, hspec⟩
    · exact .inl ⟨by rw [hnone]; rfl, hvalues⟩
    · exact .inr ⟨table, by rw [htable]; rfl, hspec⟩
  others name hname := by
    simp only [topNames, List.mem_append, List.mem_cons, List.not_mem_nil, not_or] at hname
    simp [Event.lookup_lineMembers, topNames, hname]

/-- **Log lines are correlated with their events.** A trace has one line for each event, in order.
The line is one line of JSON, and it tells the time, the event, and what is known from the steps
before it. -/
theorem lines_correlated (steps : List Step) :
    (lines [] steps).length = steps.countP Step.isEvent ∧
    ∀ past e rest, steps = past ++ .event e :: rest → ∃ spans,
      (lines [] steps)[past.countP Step.isEvent]? = some (e.line spans none) ∧
      ∀ time, ∃ members, e.line spans time = (Document.table members).compact ∧
        '\n' ∉ (e.line spans time).toList ∧ Tells time past e members := by
  refine ⟨length_lines, ?_⟩
  rintro past e rest rfl
  exact ⟨spansAfter [] past, lines_event, fun time =>
    ⟨e.lineMembers (spansAfter [] past) time, rfl, newline_not_mem_compact _,
      Event.tells_lineMembers⟩⟩

namespace Sample

/-- An event with a field that has the name of a member of the line, and one without a form. -/
def warning : Event where
  severity := .warn
  target := "model"
  recorded := [("message", some (.string "late")), ("level", some (.string "high")),
    ("ratio", some (.float .nan)), ("run_id", none)]

/-- A run, in it the loading of files, and in that a stage of another run that is over. -/
def nested : List Step :=
  [.enter ⟨some "run-1", none⟩, .enter ⟨none, some "load"⟩, .enter ⟨some "run-2", some "init"⟩,
    .leave]

end Sample

/-- The line of a warning inside nested spans has the run from one and the stage from another. -/
theorem lines_correlated_nested : ∃ members table,
    (lines [] (Sample.nested ++ [.event Sample.warning]))[0]? =
      some (Document.table members).compact ∧
    members.lookup "run_id" = some (.string "run-1") ∧
    members.lookup "stage" = some (.string "load") ∧
    members.lookup "level" = some (.string "warn") ∧
    members.lookup "fields" = some (.table table) ∧
    table.lookup "level" = some (.string "high") ∧ table.lookup "ratio" = none := by
  obtain ⟨-, hlines⟩ := lines_correlated (Sample.nested ++ [.event Sample.warning])
  obtain ⟨spans, hline, htells⟩ := hlines Sample.nested Sample.warning [] rfl
  obtain ⟨members, hmembers, -, htells⟩ := htells none
  obtain ⟨run, hrun, hrunId⟩ := htells.run
  obtain ⟨stage, hstage, hstageName⟩ := htells.stage
  obtain rfl : some "run-1" = run := innermost_iff.1 hrun
  obtain rfl : some "load" = stage := innermost_iff.1 hstage
  rcases htells.fields with ⟨-, hnone⟩ | ⟨table, htable, -, -, hfields⟩
  · exact absurd (hnone "level" (by decide)) (by rintro ⟨⟩)
  · exact ⟨members, table, hmembers ▸ hline, hrunId, hstageName, htells.level, htable,
      hfields "level", hfields "ratio"⟩

end FlowParity.Log
