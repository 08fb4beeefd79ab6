import FlowParity.Cli.Run
import FlowParity.Proofs.RuleFaults
import FlowParity.Proofs.TableReading
/-!
# Verdicts of runs

A run goes through its stages in order and stops at the first one that fails. For a
comparison these are the rule file, the settings, the rules, the candidate and the
reference (`FirstFault`); only when all of them are through (`Prepared`) are the rules
judged, and judging cannot fail any more, because a rule file that has been checked repeats
no measure. So the exit code tells the verdict or the first fault (`exit_run`), and it is a
function of the files and the task alone: the form of the answer, its colours and the log
play no part.
-/

namespace FlowParity

open Log

namespace Settings

/-- How far the instants of a side are moved. -/
def offset (s : Settings) : Role → Option Millis
  | .candidate => s.candidateOffset
  | .reference => s.referenceOffset

/-- Settings that have been resolved make sense. -/
theorem check_of_resolve {m : ModelSpec} {o : Overrides} {s : Settings}
    (h : resolve m o = .ok s) : s.check = .ok () := by
  obtain ⟨start, -, h⟩ := bind_eq_ok.1 h
  obtain ⟨hcheck, heq⟩ := check_bind_eq_ok.1 h
  cases heq
  exact hcheck

end Settings

/-- A report is told to the log and is not changed by that. -/
theorem Comparison.result_report (c : Comparison) (rules : List Rule) :
    (c.report rules).result = (c.judge rules).mapError .rule := by
  rw [report]
  cases c.judge rules <;> rfl

namespace Cli

/-! ## The stages -/

/-- The rule file at a path, if it can be read and passes its check. -/
def ruleFileAt (files : Files) (path : String) : Except Fault RuleFile := do
  let file ← (RuleFile.ofFile files path).mapError (·.toFault)
  file.check.mapError (·.toFault)
  return file

/-- The settings of a rule file under the overrides of a command line. -/
def settingsOf (file : RuleFile) (overrides : Overrides) : Except Fault Settings :=
  (Settings.resolve file.model overrides).mapError (·.toFault)

/-- The dataset at a path: loaded, moved and reconciled. -/
def datasetAt (files : Files) (s : Settings) (role : Role) (path : String) :
    Except Fault Dataset := do
  let records ← (FlowTable.load files path).mapError (·.toFault)
  let dataset ← (Dataset.ofRecords role s.timeouts (s.offset role) records).mapError (·.toFault)
  return { dataset with path := some path }

variable {files : Files} {candidate reference rules : String} {overrides : Overrides}

variable (files candidate reference rules overrides) in
/-- **All the stages of a comparison succeed**, and this is what they give. -/
structure Prepared (c : Comparison) (list : List Rule) : Prop where
  /-- The rule file can be used; its settings resolve and its rules are built. -/
  rules : ∃ file, ruleFileAt files rules = .ok file ∧
    settingsOf file overrides = .ok c.settings ∧ rulesOf file = .ok list
  /-- The candidate is loaded and reconciled. -/
  candidate : datasetAt files c.settings .candidate candidate = .ok c.candidate
  /-- The reference is loaded and reconciled. -/
  reference : datasetAt files c.settings .reference reference = .ok c.reference

variable (files candidate reference rules overrides) in
/-- **The first stage of a comparison that fails**, by its fault. -/
inductive FirstFault : Fault → Prop
  /-- The rule file cannot be used. -/
  | ruleFile {fault : Fault} : ruleFileAt files rules = .error fault → FirstFault fault
  /-- Its settings do not resolve. -/
  | settings {file : RuleFile} {fault : Fault} :
      ruleFileAt files rules = .ok file → settingsOf file overrides = .error fault →
        FirstFault fault
  /-- Its rules cannot be built. -/
  | rules {file : RuleFile} {s : Settings} {fault : Fault} :
      ruleFileAt files rules = .ok file → settingsOf file overrides = .ok s →
        rulesOf file = .error fault → FirstFault fault
  /-- The candidate cannot be loaded or reconciled. -/
  | candidate {file : RuleFile} {s : Settings} {list : List Rule} {fault : Fault} :
      ruleFileAt files rules = .ok file → settingsOf file overrides = .ok s →
        rulesOf file = .ok list → datasetAt files s .candidate candidate = .error fault →
        FirstFault fault
  /-- The reference cannot be loaded or reconciled. -/
  | reference {file : RuleFile} {s : Settings} {list : List Rule} {d : Dataset} {fault : Fault} :
      ruleFileAt files rules = .ok file → settingsOf file overrides = .ok s →
        rulesOf file = .ok list → datasetAt files s .candidate candidate = .ok d →
        datasetAt files s .reference reference = .error fault → FirstFault fault

/-- The stages one after the other. -/
def prepare (files : Files) (candidate reference rules : String) (overrides : Overrides) :
    Except Fault (Comparison × List Rule) := do
  let file ← ruleFileAt files rules
  let settings ← settingsOf file overrides
  let list ← rulesOf file
  let candidate ← datasetAt files settings .candidate candidate
  let reference ← datasetAt files settings .reference reference
  return (⟨candidate, reference, settings⟩, list)

theorem prepare_eq_ok {c : Comparison} {list : List Rule} :
    prepare files candidate reference rules overrides = .ok (c, list) ↔
      Prepared files candidate reference rules overrides c list := by
  simp only [prepare, bind_eq_ok, pure, Except.pure, Except.ok.injEq]
  constructor
  · rintro ⟨file, hfile, s, hs, list', hlist, d, hd, e, he, heq⟩
    cases heq
    exact ⟨⟨file, hfile, hs, hlist⟩, hd, he⟩
  · rintro ⟨⟨file, hfile, hs, hlist⟩, hd, he⟩
    exact ⟨file, hfile, c.settings, hs, list, hlist, c.candidate, hd, c.reference, he, rfl⟩

theorem prepare_eq_error {fault : Fault} :
    prepare files candidate reference rules overrides = .error fault ↔
      FirstFault files candidate reference rules overrides fault := by
  simp only [prepare, bind_eq_error]
  constructor
  · rintro (h | ⟨file, hfile, h | ⟨s, hs, h | ⟨list, hlist, h | ⟨d, hd, h | ⟨e, -, h⟩⟩⟩⟩⟩)
    · exact .ruleFile h
    · exact .settings hfile h
    · exact .rules hfile hs h
    · exact .candidate hfile hs hlist h
    · exact .reference hfile hs hlist hd h
    · cases h
  · rintro (h | ⟨hfile, h⟩ | ⟨hfile, hs, h⟩ | ⟨hfile, hs, hlist, h⟩ | ⟨hfile, hs, hlist, hd, h⟩)
    · exact .inl h
    · exact .inr ⟨_, hfile, .inl h⟩
    · exact .inr ⟨_, hfile, .inr ⟨_, hs, .inl h⟩⟩
    · exact .inr ⟨_, hfile, .inr ⟨_, hs, .inr ⟨_, hlist, .inl h⟩⟩⟩
    · exact .inr ⟨_, hfile, .inr ⟨_, hs, .inr ⟨_, hlist, .inr ⟨_, hd, .inl h⟩⟩⟩⟩

/-- The stages succeed, or one of them is the first to fail. -/
theorem exists_prepared_or_firstFault :
    (∃ c list, Prepared files candidate reference rules overrides c list) ∨
      ∃ fault, FirstFault files candidate reference rules overrides fault := by
  cases h : prepare files candidate reference rules overrides with
  | ok p => exact .inl ⟨p.1, p.2, prepare_eq_ok.1 h⟩
  | error fault => exact .inr ⟨fault, prepare_eq_error.1 h⟩

/-! ## Comparing is going through the stages -/

theorem result_loadRuleFile (runId : String) :
    (loadRuleFile files runId rules overrides).result = do
      let file ← ruleFileAt files rules
      let settings ← settingsOf file overrides
      return (file, settings) := by
  simp only [loadRuleFile, Logged.result_bind, Logged.result_tell, Logged.result_ofExcept,
    Logged.result_pure, ruleFileAt, settingsOf]
  cases RuleFile.ofFile files rules with
  | error fault => rfl
  | ok file =>
    show (file.check.mapError (·.toFault) >>= fun _ => _) =
      ((file.check.mapError (·.toFault) >>= fun _ => _) >>= _)
    cases file.check <;> rfl

theorem result_ofSource (s : Settings) (role : Role) (path : String) :
    ((Dataset.ofSource files role s.timeouts (s.offset role) (.file path)).result.mapError
      (·.toFault)) = datasetAt files s role path := by
  simp only [Dataset.ofSource, Dataset.recordsOf, Logged.result_bind, Logged.result_tell,
    Logged.result_ofExcept, Logged.result_pure, datasetAt]
  cases FlowTable.load files path with
  | error fault => rfl
  | ok records =>
    show ((Dataset.ofRecords role s.timeouts (s.offset role) records).mapError _ >>= fun _ =>
        _).mapError _ =
      ((Dataset.ofRecords role s.timeouts (s.offset role) records).mapError _ >>= fun _ => _)
    cases Dataset.ofRecords role s.timeouts (s.offset role) records <;> rfl

/-- A comparison of files that is prepared from settings that make sense. -/
theorem result_ofSources {s : Settings} (hs : s.check = .ok ()) :
    ((Comparison.ofSources files s (.file candidate) (.file reference)).result.mapError
      (·.toFault)) = do
      let candidate ← datasetAt files s .candidate candidate
      let reference ← datasetAt files s .reference reference
      return ⟨candidate, reference, s⟩ := by
  simp only [Comparison.ofSources, Logged.result_bind, Logged.result_ofExcept,
    Logged.result_mapError, Logged.result_pure, hs, ← result_ofSource, Settings.offset]
  generalize (Dataset.ofSource files .candidate s.timeouts s.candidateOffset
    (.file candidate)).result = first
  generalize (Dataset.ofSource files .reference s.timeouts s.referenceOffset
    (.file reference)).result = second
  cases first <;> cases second <;> rfl

/-- The rules of a rule file that can be used are judged without fault. -/
theorem judge_of_ruleFileAt {path : String} {file : RuleFile} {list : List Rule}
    (hfile : ruleFileAt files path = .ok file) (hlist : rulesOf file = .ok list)
    (c : Comparison) : c.judge list = .ok ⟨list.flatMap c.outcomes⟩ := by
  obtain ⟨file', -, hcheck⟩ := bind_eq_ok.1 hfile
  obtain ⟨hcheck, heq⟩ := check_bind_eq_ok.1 hcheck
  cases heq
  obtain ⟨-, -, hrules⟩ := RuleFile.check_eq_ok.1 (mapError_eq_ok.1 hcheck)
  obtain ⟨list', hbuilt, hsense⟩ := RuleFile.checkRules_eq_ok.1 hrules
  have hbuilt : Rule.ofFile file = .ok list' := Rule.ofSpecs_eq_ok.2 hbuilt
  rw [rulesOf, hbuilt] at hlist
  cases hlist
  rw [Comparison.judge, Comparison.firstRepetition?_eq_none.2 fun r hr => (hsense r hr).once]

/-- **A comparison goes through the stages**, and what they give is judged without fault. -/
theorem result_compare (runId : String) :
    (compare files runId candidate reference rules overrides).result =
      (prepare files candidate reference rules overrides).map
        fun p => ⟨p.2.flatMap p.1.outcomes⟩ := by
  simp only [compare, Logged.result_bind, Logged.result_tell, Logged.result_ofExcept,
    Logged.result_mapError, Logged.result_pure, result_loadRuleFile, Comparison.result_report,
    prepare]
  -- both sides stop at the same stage, so they are followed down together
  cases hfile : ruleFileAt files rules with
  | error fault => rfl
  | ok file =>
    cases hs : settingsOf file overrides with
    | error fault => simp only [hs, bind, Except.bind, Except.map]
    | ok s =>
      cases hlist : rulesOf file with
      | error fault => simp only [hs, hlist, bind, Except.bind, Except.map, pure, Except.pure]
      | ok list =>
        -- settings that resolve make sense, and rules of a checked file repeat nothing
        have hcheck := Settings.check_of_resolve (mapError_eq_ok.1 hs)
        simp only [hs, hlist, result_ofSources hcheck, bind, Except.bind, Except.map, pure,
          Except.pure]
        cases datasetAt files s .candidate candidate with
        | error fault => rfl
        | ok d =>
          cases datasetAt files s .reference reference with
          | error fault => rfl
          | ok e =>
            have hjudge := judge_of_ruleFileAt hfile hlist ⟨d, e, s⟩
            simp only [hjudge, Except.mapError]

/-! ## How runs end -/

/-- **The verdict of a task on the files**, or the fault that comes in its way. Only a comparison
can fail. -/
def verdict (files : Files) : Task → Except Fault Bool
  | .validate candidate reference rules overrides =>
    (prepare files candidate reference rules overrides).map
      fun p => (p.2.flatMap p.1.outcomes).all Outcome.isPassing
  | .check rules => do
    let file ← ruleFileAt files rules
    let _ ← settingsOf file .none
    let _ ← rulesOf file
    return true
  | .inspect file active inactive => (inspection files file active inactive).map fun _ => true
  | .version => .ok true

/-- Every form of a checked rule file is a pass. -/
theorem isPassing_checkAnswer (format : OutputFormat) (path : String) (s : Settings)
    (list : List Rule) : (checkAnswer format path s list).isPassing = true := by
  cases format <;> rfl

theorem isPassing_inspectAnswer (format : OutputFormat) (path : String) (i : Inspection) :
    (inspectAnswer format path i).isPassing = true := by
  cases format <;> rfl

theorem isPassing_versionAnswer (format : OutputFormat) :
    (versionAnswer format).isPassing = true := by
  cases format <;> rfl

/-- **An answer is given with the verdict of its task**, in whatever form. -/
theorem map_isPassing_answer (files : Files) (runId : String) (colored : Bool)
    (request : Request) :
    (answer files runId colored request).result.map Answer.isPassing =
      verdict files request.task := by
  rw [answer]
  cases request.task with
  | validate candidate reference rules overrides =>
    simp only [Logged.result_bind, Logged.result_pure, result_compare, verdict]
    cases prepare files candidate reference rules overrides <;> rfl
  | check rules =>
    simp only [check, Logged.result_bind, Logged.result_ofExcept, Logged.result_pure,
      result_loadRuleFile, verdict]
    cases hfile : ruleFileAt files rules with
    | error fault => rfl
    | ok file =>
      cases hs : settingsOf file .none with
      | error fault => simp only [hs, bind, Except.bind, Except.map]
      | ok s =>
        simp only [hs, bind, Except.bind, pure, Except.pure]
        cases rulesOf file with
        | error fault => rfl
        | ok list => simp only [Except.map, isPassing_checkAnswer]
  | inspect file active inactive =>
    simp only [Logged.result_bind, Logged.result_ofExcept, Logged.result_pure, verdict]
    cases inspection files file active inactive with
    | error fault => rfl
    | ok i => simp only [bind, Except.bind, Except.map, isPassing_inspectAnswer]
  | version => simp only [Logged.result_pure, Except.map, isPassing_versionAnswer, verdict]

/-- The exit code of a verdict or a fault. -/
def exitOf : Except Fault Bool → ExitCode
  | .ok passing => .ofVerdict passing
  | .error fault => fault.exitCode

/-- **How a run ends is a function of the files and the task.** -/
theorem exit_run (files : Files) (runId : String) (colored : Bool) (request : Request) :
    (run files runId colored request).exit = exitOf (verdict files request.task) := by
  rw [← map_isPassing_answer files runId colored request, run]
  cases (answer files runId colored request).result <;> rfl

/-- **A fault leaves nothing printed.** -/
theorem stdout_run_of_error {runId : String} {colored : Bool} {request : Request} {fault : Fault}
    (h : verdict files request.task = .error fault) :
    (run files runId colored request).stdout = "" := by
  rw [← map_isPassing_answer files runId colored request] at h
  rw [run]
  cases hanswer : (answer files runId colored request).result with
  | error fault => rfl
  | ok a =>
    rw [hanswer] at h
    cases h

/-- What is printed otherwise is the answer as a whole. -/
theorem stdout_run_of_prepared {runId : String} {colored : Bool} {request : Request}
    {c : Comparison} {list : List Rule}
    (htask : request.task = .validate candidate reference rules overrides)
    (h : Prepared files candidate reference rules overrides c list) :
    (run files runId colored request).stdout =
      (reportAnswer request.output colored ⟨list.flatMap c.outcomes⟩).text := by
  have hanswer : (answer files runId colored request).result =
      .ok (reportAnswer request.output colored ⟨list.flatMap c.outcomes⟩) := by
    simp only [answer, htask, Logged.result_bind, Logged.result_pure, result_compare,
      prepare_eq_ok.2 h]
    rfl
  rw [run, hanswer]

/-- The exit code of a fault is out of the range of verdicts. -/
theorem le_exitOf_error (fault : Fault) : 10 ≤ (exitOf (.error fault)).toNat := by
  rw [exitOf, Fault.exitCode]
  cases fault.category <;> decide

/-- The exit code is zero for a pass alone. -/
theorem exitOf_eq_zero {x : Except Fault Bool} : (exitOf x).toNat = 0 ↔ x = .ok true := by
  match x with
  | .ok true => exact iff_of_true rfl rfl
  | .ok false => exact iff_of_false (by decide) (by simp)
  | .error fault =>
    have hfault := le_exitOf_error fault
    exact iff_of_false (by omega) (by simp)

/-- The exit code is one for a failure to pass alone. -/
theorem exitOf_eq_one {x : Except Fault Bool} : (exitOf x).toNat = 1 ↔ x = .ok false := by
  match x with
  | .ok true => exact iff_of_false (by decide) (by simp)
  | .ok false => exact iff_of_true rfl rfl
  | .error fault =>
    have hfault := le_exitOf_error fault
    exact iff_of_false (by omega) (by simp)

/-- The verdict of a comparison is that of all its outcomes. -/
theorem verdict_validate {passing : Bool} :
    verdict files (.validate candidate reference rules overrides) = .ok passing ↔
      ∃ c list, Prepared files candidate reference rules overrides c list ∧
        (list.flatMap c.outcomes).all Outcome.isPassing = passing := by
  simp only [verdict, ← prepare_eq_ok]
  cases prepare files candidate reference rules overrides with
  | error fault => simp [Except.map]
  | ok p =>
    constructor
    · intro h
      exact ⟨p.1, p.2, rfl, Except.ok.inj h⟩
    · rintro ⟨c, list, heq, rfl⟩
      cases heq
      rfl

/-- Other tasks never fail to pass. -/
theorem verdict_ne_failing {task : Task}
    (h : ∀ candidate reference rules overrides,
      task ≠ .validate candidate reference rules overrides) :
    verdict files task ≠ .ok false := by
  cases task with
  | validate candidate reference rules overrides => exact absurd rfl (h _ _ _ _)
  | check rules =>
    intro hverdict
    simp only [verdict, bind_eq_ok, pure, Except.pure] at hverdict
    obtain ⟨_, -, _, -, _, -, heq⟩ := hverdict
    cases heq
  | inspect file active inactive =>
    rw [verdict]
    cases inspection files file active inactive <;> simp [Except.map]
  | version => simp [verdict]

/-- **All or nothing, and the exit code is the verdict.** For all files and every request:
- if two flow files are to be compared, the exit code is zero exactly if all stages succeed and
  every outcome passes, and one exactly if all stages succeed and an outcome fails; else there
  is a first fault, whose category gives the exit code, and nothing is printed; what is
  printed after success is the whole report;
- the exit code depends neither on the form of the answer nor on its colours nor on the log;
- whatever else is to be done prints something only if the exit code is zero. -/
theorem exitCode_verdict (files : Files) (runId : String) (colored : Bool) (request : Request) :
    (∀ candidate reference rules overrides,
      request.task = .validate candidate reference rules overrides →
      ((run files runId colored request).exit.toNat = 0 ↔
        ∃ c list, Prepared files candidate reference rules overrides c list ∧
          ∀ r ∈ list, ∀ o ∈ c.outcomes r, o.isPassing = true) ∧
      ((run files runId colored request).exit.toNat = 1 ↔
        ∃ c list, Prepared files candidate reference rules overrides c list ∧
          ∃ r ∈ list, ∃ o ∈ c.outcomes r, o.isPassing = false) ∧
      ((∃ c list, Prepared files candidate reference rules overrides c list) ∨
        ∃ fault, FirstFault files candidate reference rules overrides fault) ∧
      (∀ c list, Prepared files candidate reference rules overrides c list →
        (run files runId colored request).stdout =
          (reportAnswer request.output colored ⟨list.flatMap c.outcomes⟩).text) ∧
      ∀ fault, FirstFault files candidate reference rules overrides fault →
        (run files runId colored request).exit = .ofCategory fault.category ∧
          (run files runId colored request).stdout = "") ∧
    (∀ runId' colored' output noColor verbosity logFormat,
      (run files runId' colored'
        ⟨output, noColor, verbosity, logFormat, request.task⟩).exit =
          (run files runId colored request).exit) ∧
    ((∀ candidate reference rules overrides,
        request.task ≠ .validate candidate reference rules overrides) →
      (run files runId colored request).stdout ≠ "" →
        (run files runId colored request).exit.toNat = 0) := by
  refine ⟨?_, ?_, ?_⟩
  · intro candidate reference rules overrides htask
    have hverdict : verdict files request.task =
        verdict files (.validate candidate reference rules overrides) := by
      rw [htask]
    refine ⟨?_, ?_, exists_prepared_or_firstFault, fun c list h => stdout_run_of_prepared htask h,
      ?_⟩
    · rw [exit_run, exitOf_eq_zero, hverdict, verdict_validate]
      simp only [List.all_eq_true, List.forall_mem_flatMap]
    · rw [exit_run, exitOf_eq_one, hverdict, verdict_validate]
      refine exists_congr fun c => exists_congr fun list => and_congr_right fun _ => ?_
      rw [List.all_eq_false]
      constructor
      · rintro ⟨o, ho, hfails⟩
        obtain ⟨r, hr, ho⟩ := List.mem_flatMap.1 ho
        exact ⟨r, hr, o, ho, Bool.not_eq_true _ ▸ hfails⟩
      · rintro ⟨r, hr, o, ho, hfails⟩
        exact ⟨o, List.mem_flatMap.2 ⟨r, hr, ho⟩, by simp [hfails]⟩
    · intro fault h
      have hfault : verdict files request.task = .error fault := by
        rw [hverdict, verdict, prepare_eq_error.2 h]
        rfl
      refine ⟨?_, stdout_run_of_error hfault⟩
      rw [exit_run, hfault]
      rfl
  · intro runId' colored' output noColor verbosity logFormat
    rw [exit_run, exit_run]
  · -- a fault prints nothing, and only a comparison can fail without one
    intro htask hprinted
    rw [exit_run, exitOf_eq_zero]
    match hverdict : verdict files request.task with
    | .ok true => rfl
    | .ok false => exact absurd hverdict (verdict_ne_failing htask)
    | .error fault => exact absurd (stdout_run_of_error hverdict) hprinted

end Cli

namespace Sample

/-- A rule file that asks for the same packets on both sides, and two flow files that do not
have them. -/
def shelf : Files := fun path =>
  if path = "rules.json" then
    .ok "\x7b\"rules\":[\x7b\"metrics\":[\x7b\"metric\":\"packets\",\"tolerance\":0\x7d]\x7d]\x7d"
  else if path = "five.csv" then .ok (oneRow "5" "500")
  else if path = "seven.csv" then .ok (oneRow "7" "700")
  else .error .notFound

/-- The dataset of one of the two flow files. -/
def shelved (role : Role) (path : String) (packets : Nat) : Dataset :=
  ⟨role, some path, 1, [record 0 1000 packets], ⟨1, 1, 0, 1, 1⟩⟩

/-- The request to compare the first flow file with the one at a path. -/
def compareWith (reference : String) : Cli.Request where
  output := .summary
  noColor := false
  verbosity := none
  logFormat := none
  task := .validate "five.csv" reference "rules.json" .none

end Sample

/-- Five packets are not seven; and where the reference is missing, that is all that is told. -/
theorem exitCode_verdict_sample :
    (Cli.run Sample.shelf "run" false (Sample.compareWith "seven.csv")).exit.toNat = 1 ∧
      (Cli.run Sample.shelf "run" false (Sample.compareWith "eight.csv")).exit = .input ∧
      (Cli.run Sample.shelf "run" false (Sample.compareWith "eight.csv")).stdout = "" := by
  have hfile : Cli.ruleFileAt Sample.shelf "rules.json" =
      .ok ⟨⟨none, none, none, none⟩, [⟨none, [⟨.packets, .zero⟩], none⟩]⟩ := by decide +kernel
  have hsettings : Cli.settingsOf ⟨⟨none, none, none, none⟩,
      [⟨none, [⟨.packets, .zero⟩], none⟩]⟩ .none = .ok .default := rfl
  have hrules : Cli.rulesOf ⟨⟨none, none, none, none⟩, [⟨none, [⟨.packets, .zero⟩], none⟩]⟩ =
      .ok [⟨[⟨.packets, .zero, by decide⟩], none, none⟩] := rfl
  have hcandidate : Cli.datasetAt Sample.shelf .default .candidate "five.csv" =
      .ok (Sample.shelved .candidate "five.csv" 5) := by decide +kernel
  have hreference : Cli.datasetAt Sample.shelf .default .reference "seven.csv" =
      .ok (Sample.shelved .reference "seven.csv" 7) := by decide +kernel
  refine ⟨?_, ?_⟩
  · refine ((Cli.exitCode_verdict Sample.shelf "run" false (Sample.compareWith "seven.csv")).1
      _ _ _ _ rfl).2.1.2 ⟨⟨_, _, .default⟩, _, ⟨⟨_, hfile, hsettings, hrules⟩, hcandidate,
        hreference⟩, _, List.mem_cons_self, _, List.mem_cons_self, ?_⟩
    decide +kernel
  · exact ((Cli.exitCode_verdict Sample.shelf "run" false (Sample.compareWith "eight.csv")).1
      _ _ _ _ rfl).2.2.2.2 (.fileNotFound "eight.csv")
        (.reference hfile hsettings hrules hcandidate rfl)

end FlowParity
