import FlowParity.Proofs.Verdicts
/-!
# Overriding settings

What a command line gives takes the place of what the rule file says (`Settings.Layered`), but
only once the file has passed its check. The check looks at the file alone, and it comes first
(`RuleFile.settings`): a start time that is no instant and an active timeout of zero are faults
of the file even where the command line overrides them.

So an override hides everything about the value it replaces except whether that value makes
sense (`settings_overridden`).
-/

namespace FlowParity

/-- The settings of a rule file that has to pass its check, under the overrides of a command
line. -/
def RuleFile.settings (f : RuleFile) (o : Overrides) : Except RuleFileFault Settings := do
  f.check
  Settings.resolve f.model o

/-- **Two sections that differ only where the command line overrides them.** -/
structure ModelSpec.SameUnder (o : Overrides) (m m' : ModelSpec) : Prop where
  /-- The active timeout, unless it is overridden. -/
  active : o.active = none → m.active = m'.active
  /-- The inactive timeout, unless it is overridden. -/
  inactive : o.inactive = none → m.inactive = m'.inactive
  /-- The start time, unless it is overridden. -/
  startTime : o.startTime = none → m.startTime = m'.startTime
  /-- The scope, unless it is overridden. -/
  scope : o.scope = none → m.scope = m'.scope

/-- **Each setting is the override, else what the section says, else the default.** -/
structure Settings.Layered (m : ModelSpec) (o : Overrides) (s : Settings) : Prop where
  /-- The active timeout. -/
  active : s.active = (o.active.or m.active).getD defaultActive
  /-- The inactive timeout. -/
  inactive : s.inactive = (o.inactive.or m.inactive).getD defaultInactive
  /-- The start time: that of the section is an instant, and applies unless it is overridden. -/
  startTime : ∃ start, startTimeOf m = .ok start ∧ s.startTime = o.startTime.or start
  /-- The scope. -/
  scope : s.scope = (o.scope.or m.scope).getD .reference

variable {m m' : ModelSpec} {o : Overrides} {f f' : RuleFile}

namespace Settings

theorem first_eq_or {α : Type} (a b : Option α) : first a b = a.or b := by
  cases a <;> rfl

/-- A value that is overridden cannot be told from another one. -/
theorem or_congr {α : Type} {a b b' : Option α} (h : a = none → b = b') : a.or b = a.or b' := by
  cases a with
  | none => rw [h rfl]
  | some a => rfl

/-- **Settings are resolved layer by layer**, and the active timeout that results is not zero. -/
theorem resolve_eq_ok {s : Settings} :
    resolve m o = .ok s ↔ s.Layered m o ∧ s.active.toNat ≠ 0 := by
  rw [resolve, bind_eq_ok]
  simp only [check_bind_eq_ok, check_eq_ok, first_eq_or, pure, Except.pure, Except.ok.injEq]
  constructor
  · rintro ⟨start, hstart, hpositive, rfl⟩
    exact ⟨⟨rfl, rfl, ⟨start, hstart, rfl⟩, rfl⟩, hpositive⟩
  · rintro ⟨⟨hactive, hinactive, ⟨start, hstart, htime⟩, hscope⟩, hpositive⟩
    refine ⟨start, hstart, hactive ▸ hpositive, ?_⟩
    rw [← hactive, ← hinactive, ← hscope, ← htime]

/-- **What is overridden does not count**, if the start times of both sections are instants. -/
theorem resolve_congr (h : m.SameUnder o m') {start start' : Option Timestamp}
    (hm : startTimeOf m = .ok start) (hm' : startTimeOf m' = .ok start') :
    resolve m o = resolve m' o := by
  have htime : o.startTime.or start = o.startTime.or start' := by
    refine or_congr fun ho => ?_
    rw [startTimeOf, h.startTime ho, ← startTimeOf, hm'] at hm
    exact (Except.ok.inj hm).symm
  simp only [resolve, hm, hm', first_eq_or, or_congr h.active, or_congr h.inactive,
    or_congr h.scope, htime, bind, Except.bind]

end Settings

namespace RuleFile

/-- A section that passes its check has a start time that is an instant, if any. -/
theorem exists_startTimeOf_of_checkModel (h : checkModel m = .ok ()) :
    ∃ start, Settings.startTimeOf m = .ok start :=
  (Settings.exists_resolve_none.1 (checkModel_eq_ok.1 h)).1

/-- **A fault of the section is the fault of the file**, whatever is overridden. -/
theorem settings_of_checkModel_eq_error {fault : RuleFileFault}
    (h : checkModel f.model = .error fault) : f.settings o = .error fault := by
  rw [settings, check, h]
  rfl

/-- The settings of a file that passes its check are resolved. -/
theorem settings_eq_ok {s : Settings} :
    f.settings o = .ok s ↔
      f.check = .ok () ∧ s.Layered f.model o ∧ s.active.toNat ≠ 0 := by
  rw [settings, check_bind_eq_ok, Settings.resolve_eq_ok]

/-- **Files that cannot be told apart by the check of their sections** have the same settings,
if they differ only where they are overridden. -/
theorem settings_congr (hrules : f.rules = f'.rules) (hmodel : f.model.SameUnder o f'.model)
    (hcheck : checkModel f.model = checkModel f'.model) : f.settings o = f'.settings o := by
  cases h : checkModel f.model with
  | error fault =>
    rw [settings_of_checkModel_eq_error h, settings_of_checkModel_eq_error (hcheck ▸ h)]
  | ok u =>
    obtain ⟨start, hstart⟩ := exists_startTimeOf_of_checkModel h
    obtain ⟨start', hstart'⟩ := exists_startTimeOf_of_checkModel (hcheck ▸ h)
    have hfiles : f.check = f'.check := by
      rw [check, check, hcheck, hrules]
    rw [settings, settings, hfiles, Settings.resolve_congr hmodel hstart hstart']

end RuleFile

/-- A run takes its settings from the rule file that it reads. -/
theorem Cli.result_loadRuleFile_of_ofFile {files : Files} {path : String}
    (hf : RuleFile.ofFile files path = .ok f) (runId : String) :
    (loadRuleFile files runId path o).result =
      ((f.settings o).mapError (·.toFault)).map fun s => (f, s) := by
  rw [result_loadRuleFile, ruleFileAt, hf, RuleFile.settings, mapError_bind]
  show ((f.check.mapError (·.toFault) >>= fun _ => pure f) >>= _) = _
  cases f.check with
  | error fault => rfl
  | ok u =>
    show (settingsOf f o >>= fun s => pure (f, s)) = (settingsOf f o).map fun s => (f, s)
    cases settingsOf f o <;> rfl

/-- **What is overridden does not count, once a rule file has passed its check.** For all overrides
and any two rule files with the same rules whose sections differ only where they are overridden:
- the settings, or the fault in their place, are the same, if the check of the sections gives
  the same;
- a fault that this check finds in a section is the fault of its file, whatever is overridden;
- the settings of a file are those where each one is the override, else what the section says,
  else the default, provided that the file passes its check and that the active timeout that
  results is not zero;
- and these are the settings of a run that reads the file. -/
theorem settings_overridden (hrules : f.rules = f'.rules)
    (hmodel : f.model.SameUnder o f'.model) :
    (RuleFile.checkModel f.model = RuleFile.checkModel f'.model →
      f.settings o = f'.settings o) ∧
    (∀ fault, RuleFile.checkModel f.model = .error fault → f.settings o = .error fault) ∧
    (∀ s, f.settings o = .ok s ↔
      f.check = .ok () ∧ s.Layered f.model o ∧ s.active.toNat ≠ 0) ∧
    ∀ files path, RuleFile.ofFile files path = .ok f → ∀ runId,
      (Cli.loadRuleFile files runId path o).result =
        ((f.settings o).mapError (·.toFault)).map fun s => (f, s) :=
  ⟨RuleFile.settings_congr hrules hmodel, fun _ => RuleFile.settings_of_checkModel_eq_error,
    fun _ => RuleFile.settings_eq_ok, fun _ _ hf => Cli.result_loadRuleFile_of_ofFile hf⟩

namespace Sample

/-- The start of the second minute. -/
def secondMinute : Timestamp := ⟨60000, by decide, by decide⟩

/-- A command line that gives an active timeout of a minute and a start time. -/
def minutely : Overrides := ⟨some ⟨60, by decide⟩, none, some secondMinute, none⟩

/-- A rule file that asks for packets, and says what it likes where `minutely` overrides it. -/
def fileWith (active : Option Counter) (startTime : Option InstantSpec) : RuleFile where
  model := ⟨active, some ⟨15, by decide⟩, startTime, some .both⟩
  rules := [⟨none, [⟨.packets, .zero⟩], none⟩]

/-- Such files differ only where they are overridden. -/
theorem sameUnder_fileWith (active active' : Option Counter)
    (startTime startTime' : Option InstantSpec) :
    (fileWith active startTime).model.SameUnder minutely (fileWith active' startTime').model where
  active h := nomatch h
  inactive _ := rfl
  startTime h := nomatch h
  scope _ := rfl

end Sample

/-- **What is overridden may count**: an active timeout of zero, and a start time that is no instant,
stop the run that would override them. -/
theorem exists_settings_ne :
    ∃ (o : Overrides) (zero soon good : RuleFile),
      zero.rules = good.rules ∧ zero.model.SameUnder o good.model ∧
      soon.rules = good.rules ∧ soon.model.SameUnder o good.model ∧
      zero.settings o ≠ good.settings o ∧ soon.settings o ≠ good.settings o := by
  refine ⟨Sample.minutely, Sample.fileWith (some .zero) none,
    Sample.fileWith none (some (.text "soon")), Sample.fileWith none none, rfl,
    Sample.sameUnder_fileWith _ _ _ _, rfl, Sample.sameUnder_fileWith _ _ _ _, ?_, ?_⟩
  · decide +kernel
  · decide +kernel

/-- A timeout of five minutes and a start time in words give way to the command line without a
trace. -/
theorem settings_overridden_sample :
    let f := Sample.fileWith (some ⟨300, by decide⟩) (some (.text "1970-01-01T00:00:01Z"))
    f.settings Sample.minutely = (Sample.fileWith none none).settings Sample.minutely ∧
      f.settings Sample.minutely =
        .ok ⟨⟨60, by decide⟩, ⟨15, by decide⟩, some Sample.secondMinute, .both⟩ := by
  intro f
  have hrules : f.rules = (Sample.fileWith none none).rules := rfl
  obtain ⟨hsame, -, hlayers, -⟩ := settings_overridden hrules (Sample.sameUnder_fileWith _ _ _ _)
  have hcheck : RuleFile.checkModel f.model = .ok () := by decide +kernel
  have hstart : Settings.startTimeOf f.model = .ok (some ⟨1000, by decide, by decide⟩) := by
    decide +kernel
  refine ⟨hsame hcheck, (hlayers _).2 ⟨?_, ⟨rfl, rfl, ⟨_, hstart, rfl⟩, rfl⟩, by decide⟩⟩
  decide +kernel

end FlowParity
