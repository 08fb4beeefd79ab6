import FlowParity.Proofs.Verdicts
/-!
# Inspecting and comparing

Inspecting a flow file goes its own way to what a comparison knows of a dataset: it loads the
file, turns the timeouts into milliseconds, reconciles and adds up by itself. It comes to the
same flows (`inspection_eq_map_datasetAt`), with one difference: a comparison refuses an active
timeout of zero, and inspecting does not.

So a file can be inspected exactly if it can be compared with itself, or the active timeout is
zero and nothing else stands in the way; and what is found is what the datasets of the
comparison have (`inspection_iff_comparison`).
-/

namespace FlowParity

open Reconciliation

/-- Settings without a start time. -/
def Settings.ofTimeouts (active inactive : Counter) (scope : OffsetScope) : Settings :=
  ⟨active, inactive, none, scope⟩

theorem Settings.offset_ofTimeouts (active inactive : Counter) (scope : OffsetScope)
    (role : Role) : (ofTimeouts active inactive scope).offset role = none := by
  cases role <;> cases scope <;> rfl

/-- The totals over the whole traffic are those of all flows. -/
theorem Dataset.total_none (d : Dataset) (m : Measure) : d.total m none = m.total d.flows := by
  simp [total, Segment.select]

/-- Without an offset the records are reconciled as they are. -/
theorem Dataset.ofRecords_none (role : Role) (t : Timeouts) (rs : List Record) :
    ofRecords role t none rs = (reconcile t rs).map fun r =>
      ⟨role, none, rs.length, r.flows, r.statistics⟩ := by
  rw [ofRecords, moved]
  cases reconcile t rs <;> rfl

namespace Cli

/-- The records of a flow file and what reconciling them gives. -/
def reconciledAt (files : Files) (t : Timeouts) (path : String) :
    Except Fault (List Record × Reconciliation) := do
  let records ← (FlowTable.load files path).mapError (·.toFault)
  let r ← (reconcile t records).mapError (·.toFault)
  return (records, r)

variable {files : Files} {path : String} {active inactive : Counter} {scope : OffsetScope}

/-- A file can be reconciled if it can be loaded and all its records are ordered. -/
theorem reconciledAt_eq_ok {t : Timeouts} {records : List Record} {r : Reconciliation} :
    reconciledAt files t path = .ok (records, r) ↔ FlowTable.load files path = .ok records ∧
      (∀ x ∈ records, x.isOrdered) ∧ r = .ofOrdered t records := by
  simp only [reconciledAt, bind_eq_ok, mapError_eq_ok, reconcile_eq_ok, pure, Except.pure,
    Except.ok.injEq, Prod.mk.injEq]
  constructor
  · rintro ⟨_, hload, _, ⟨hordered, hr⟩, rfl, rfl⟩
    exact ⟨hload, hordered, hr⟩
  · rintro ⟨hload, hordered, hr⟩
    exact ⟨records, hload, r, ⟨hordered, hr⟩, rfl, rfl⟩

/-- What inspecting tells of a dataset. -/
def inspectionOf (t : Timeouts) (d : Dataset) : Inspection :=
  ⟨t, d.statistics, d.total .packets none, d.total .bytes none⟩

theorem inspection_eq (files : Files) (path : String) (active inactive : Counter) :
    inspection files path active inactive =
      (reconciledAt files (.ofSeconds active.toNat inactive.toNat) path).map fun (_, r) =>
        ⟨.ofSeconds active.toNat inactive.toNat, r.statistics, Measure.packets.total r.flows,
          Measure.bytes.total r.flows⟩ := by
  rw [inspection, reconciledAt]
  cases FlowTable.load files path with
  | error fault => rfl
  | ok records =>
    show ((reconcile (.ofSeconds active.toNat inactive.toNat) records).mapError _ >>= _) =
      ((reconcile (.ofSeconds active.toNat inactive.toNat) records).mapError _ >>= _).map _
    cases reconcile (.ofSeconds active.toNat inactive.toNat) records <;> rfl

/-- Without a start time a dataset is its file, reconciled as it is. -/
theorem datasetAt_ofTimeouts (files : Files) (path : String) (active inactive : Counter)
    (scope : OffsetScope) (role : Role) :
    datasetAt files (.ofTimeouts active inactive scope) role path =
      (reconciledAt files (.ofSeconds active.toNat inactive.toNat) path).map fun (records, r) =>
        ⟨role, some path, records.length, r.flows, r.statistics⟩ := by
  simp only [datasetAt, reconciledAt, Settings.offset_ofTimeouts, Dataset.ofRecords_none]
  cases FlowTable.load files path with
  | error fault => rfl
  | ok records =>
    show (((reconcile (.ofSeconds active.toNat inactive.toNat) records).map _).mapError _ >>= _) =
      ((reconcile (.ofSeconds active.toNat inactive.toNat) records).mapError _ >>= _).map _
    cases reconcile (.ofSeconds active.toNat inactive.toNat) records <;> rfl

/-! ## Inspecting -/

/-- **A file can be inspected** if it can be loaded and all its records are ordered, whatever the
timeouts. -/
theorem exists_inspection_eq_ok :
    (∃ i, inspection files path active inactive = .ok i) ↔
      ∃ records, FlowTable.load files path = .ok records ∧ ∀ x ∈ records, x.isOrdered := by
  simp only [inspection_eq, map_eq_ok]
  constructor
  · rintro ⟨-, ⟨records, r⟩, h, -⟩
    obtain ⟨hload, hordered, -⟩ := reconciledAt_eq_ok.1 h
    exact ⟨records, hload, hordered⟩
  · rintro ⟨records, hload, hordered⟩
    exact ⟨_, _, reconciledAt_eq_ok.2 ⟨hload, hordered, rfl⟩, rfl⟩

/-- **What is found is told of the dataset** that either side of a comparison makes of the file. -/
theorem inspection_eq_map_datasetAt (files : Files) (path : String) (active inactive : Counter)
    (scope : OffsetScope) (role : Role) :
    inspection files path active inactive =
      (datasetAt files (.ofTimeouts active inactive scope) role path).map
        (inspectionOf (.ofSeconds active.toNat inactive.toNat)) := by
  rw [inspection_eq, datasetAt_ofTimeouts]
  cases reconciledAt files (.ofSeconds active.toNat inactive.toNat) path with
  | error fault => rfl
  | ok p => simp only [Except.map, inspectionOf, Dataset.total_none]

/-- What a run prints that inspects a file. -/
theorem stdout_run_of_inspection {runId : String} {colored : Bool} {request : Request}
    {i : Inspection} (htask : request.task = .inspect path active inactive)
    (h : inspection files path active inactive = .ok i) :
    (run files runId colored request).stdout = (inspectAnswer request.output path i).text := by
  have hanswer : (answer files runId colored request).result =
      .ok (inspectAnswer request.output path i) := by
    simp only [answer, htask, Log.Logged.result_bind, Log.Logged.result_ofExcept,
      Log.Logged.result_pure, h]
    rfl
  rw [run, hanswer]

/-- A run that inspects a file ends well exactly if the inspection does. -/
theorem exit_run_inspect {runId : String} {colored : Bool} {request : Request}
    (htask : request.task = .inspect path active inactive) :
    (run files runId colored request).exit.toNat = 0 ↔
      ∃ i, inspection files path active inactive = .ok i := by
  rw [exit_run, exitOf_eq_zero, htask, verdict, map_eq_ok]
  simp only [and_true]

/-! ## Comparing a file with itself -/

/-- A dataset of a file counts what it is made of. -/
theorem counts_of_datasetAt {role : Role} {d : Dataset}
    (h : datasetAt files (.ofTimeouts active inactive scope) role path = .ok d) :
    d.statistics.recordsIn = d.rawLength ∧ d.statistics.flowsOut = d.flows.length := by
  rw [datasetAt_ofTimeouts, map_eq_ok] at h
  obtain ⟨⟨records, r⟩, hp, rfl⟩ := h
  obtain ⟨-, -, rfl⟩ := reconciledAt_eq_ok.1 hp
  exact ⟨rfl, rfl⟩

/-- **A file compared with itself** is its dataset on both sides. -/
theorem result_ofSources_self (files : Files) (path : String) (inactive : Counter)
    (scope : OffsetScope) (hactive : active.toNat ≠ 0) :
    ((Comparison.ofSources files (.ofTimeouts active inactive scope) (.file path)
      (.file path)).result.mapError (·.toFault)) =
      (datasetAt files (.ofTimeouts active inactive scope) .candidate path).map
        fun d => ⟨d, { d with role := .reference }, .ofTimeouts active inactive scope⟩ := by
  rw [result_ofSources (Settings.check_eq_ok.2 hactive), datasetAt_ofTimeouts,
    datasetAt_ofTimeouts]
  cases reconciledAt files (.ofSeconds active.toNat inactive.toNat) path <;> rfl

/-- An active timeout of zero is refused before the files are looked at. -/
theorem result_ofSources_of_zero (files : Files) (inactive : Counter) (scope : OffsetScope)
    (candidate reference : Source) (hactive : active.toNat = 0) :
    (Comparison.ofSources files (.ofTimeouts active inactive scope) candidate
      reference).result = .error (.settings .zeroActiveTimeout) := by
  have hcheck : (Settings.ofTimeouts active inactive scope).check = .error .zeroActiveTimeout :=
    if_pos hactive
  rw [Comparison.ofSources, Log.Logged.result_bind, Log.Logged.result_ofExcept, hcheck]
  rfl

/-- So there is a comparison if there is a dataset and the active timeout is not zero. -/
theorem result_ofSources_self_eq_ok {c : Comparison} :
    (Comparison.ofSources files (.ofTimeouts active inactive scope) (.file path)
      (.file path)).result = .ok c ↔ active.toNat ≠ 0 ∧
        ∃ d, datasetAt files (.ofTimeouts active inactive scope) .candidate path = .ok d ∧
          ⟨d, { d with role := .reference }, .ofTimeouts active inactive scope⟩ = c := by
  by_cases hactive : active.toNat = 0
  · rw [result_ofSources_of_zero files inactive scope _ _ hactive]
    simp [hactive]
  · rw [← mapError_eq_ok, result_ofSources_self files path inactive scope hactive, map_eq_ok]
    simp only [ne_eq, hactive, not_false_eq_true, true_and]

/-- **Inspecting a file finds what a comparison of it with itself has**, except that only the
comparison refuses an active timeout of zero. For all files, every path, all timeouts in seconds
and either scope:
- the file can be inspected exactly if it can be loaded and all its records are ordered, and can
  be compared with itself exactly if moreover the active timeout is not zero;
- what is found is what the dataset of each side has: its statistics, its number of records
  before and of flows after reconciliation, and its totals over the whole traffic;
- if the active timeout is not zero, then what stops the one stops the other with the same fault,
  and if it is zero, then that is what stops the comparison;
- a run that inspects the file ends well exactly if it can be inspected, and prints what is
  found. -/
theorem inspection_iff_comparison (files : Files) (path : String) (active inactive : Counter)
    (scope : OffsetScope) :
    let made := (Comparison.ofSources files (.ofTimeouts active inactive scope) (.file path)
      (.file path)).result
    let found := inspection files path active inactive
    ((∃ i, found = .ok i) ↔
      ∃ records, FlowTable.load files path = .ok records ∧ ∀ x ∈ records, x.isOrdered) ∧
    ((∃ c, made = .ok c) ↔ active.toNat ≠ 0 ∧ ∃ i, found = .ok i) ∧
    (∀ c i, made = .ok c → found = .ok i → ∀ role,
      i.timeouts = .ofSeconds active.toNat inactive.toNat ∧
      i.statistics = (c.dataset role).statistics ∧
      i.statistics.recordsIn = (c.dataset role).rawLength ∧
      i.statistics.flowsOut = (c.dataset role).flows.length ∧
      i.packets = (c.dataset role).total .packets none ∧
      i.bytes = (c.dataset role).total .bytes none) ∧
    (active.toNat ≠ 0 → ∀ fault,
      made.mapError (·.toFault) = .error fault ↔ found = .error fault) ∧
    (active.toNat = 0 → made = .error (.settings .zeroActiveTimeout)) ∧
    ∀ runId colored request, request.task = .inspect path active inactive →
      ((run files runId colored request).exit.toNat = 0 ↔ ∃ i, found = .ok i) ∧
      ∀ i, found = .ok i →
        (run files runId colored request).stdout = (inspectAnswer request.output path i).text := by
  intro made found
  have hmade : ∀ c, made = .ok c ↔ active.toNat ≠ 0 ∧
      ∃ d, datasetAt files (.ofTimeouts active inactive scope) .candidate path = .ok d ∧ _ = c :=
    fun _ => result_ofSources_self_eq_ok
  have hfound : found = (datasetAt files (.ofTimeouts active inactive scope) .candidate path).map
      (inspectionOf (.ofSeconds active.toNat inactive.toNat)) :=
    inspection_eq_map_datasetAt files path active inactive scope .candidate
  refine ⟨exists_inspection_eq_ok, ?_, ?_, ?_,
    result_ofSources_of_zero files inactive scope _ _,
    fun _ _ _ htask => ⟨exit_run_inspect htask, fun _ => stdout_run_of_inspection htask⟩⟩
  · simp only [hmade, hfound, map_eq_ok]
    constructor
    · rintro ⟨-, hactive, d, hd, -⟩
      exact ⟨hactive, _, d, hd, rfl⟩
    · rintro ⟨hactive, -, d, hd, -⟩
      exact ⟨_, hactive, d, hd, rfl⟩
  · intro c i hc hi role
    obtain ⟨-, d, hd, rfl⟩ := (hmade c).1 hc
    rw [hfound, hd] at hi
    cases hi
    obtain ⟨hrecords, hflows⟩ := counts_of_datasetAt hd
    cases role <;> exact ⟨rfl, rfl, hrecords, hflows, rfl, rfl⟩
  · intro hactive fault
    rw [result_ofSources_self files path inactive scope hactive, hfound, map_eq_error,
      map_eq_error]

end Cli

/-- **A file can be inspected that cannot be compared with itself**: with an active timeout of
zero. -/
theorem exists_inspection_of_zero :
    ∃ (files : Files) (path : String) (active inactive : Counter),
      (∃ i, Cli.inspection files path active inactive = .ok i) ∧
        ∀ scope c, (Comparison.ofSources files (.ofTimeouts active inactive scope) (.file path)
          (.file path)).result ≠ .ok c := by
  refine ⟨Sample.shelf, "five.csv", .zero, .zero, ?_, ?_⟩
  · exact isOk_iff.1 (by decide +kernel)
  · intro scope c h
    rw [Cli.result_ofSources_of_zero Sample.shelf .zero scope _ _ rfl] at h
    cases h

/-- Five packets are found where a comparison has five packets on both sides. -/
theorem inspection_iff_comparison_sample :
    let made := (Comparison.ofSources Sample.shelf
      (.ofTimeouts Settings.defaultActive Settings.defaultInactive .both) (.file "five.csv")
      (.file "five.csv")).result
    ∃ c i, made = .ok c ∧
      Cli.inspection Sample.shelf "five.csv" Settings.defaultActive Settings.defaultInactive = .ok i ∧
      i.packets = (c.dataset .reference).total .packets none ∧ i.packets.toNat = 5 := by
  intro made
  obtain ⟨-, hiff, hsame, -⟩ := Cli.inspection_iff_comparison Sample.shelf "five.csv"
    Settings.defaultActive Settings.defaultInactive .both
  have hfive : (Cli.inspection Sample.shelf "five.csv" Settings.defaultActive
      Settings.defaultInactive).map (fun i => i.packets.toNat) = .ok 5 := by
    decide +kernel
  obtain ⟨i, hi, hpackets⟩ := map_eq_ok.1 hfive
  obtain ⟨c, hc⟩ := hiff.2 ⟨by decide, i, hi⟩
  exact ⟨c, i, hc, hi, (hsame c i hc hi .reference).2.2.2.2.1, hpackets⟩

end FlowParity
