import FlowParity.Proofs.Conservation
import FlowParity.Proofs.Judging
/-!
# Isolation of network segments

What a rule says about the traffic between two networks depends on that traffic
alone. Membership in a pair of networks is a matter of the key, and reconciliation
treats keys apart: leaving out the records of other keys takes their flows away
and neither changes nor moves any of those that stay (`flows_filter`). So the
flows between two networks are the flows of the records between them, and two
comparisons whose datasets agree there cannot be told apart by any outcome that
looks no further (`select_subnet_isolated`).
-/

namespace FlowParity

open Reconciliation

namespace Reconciliation

variable {rs : List Record} {k : Key}

/-! ## Selecting keys -/

/-- The keys that are left keep their order. -/
theorem keysOf_filter (p : Key → Bool) (rs : List Record) :
    keysOf (rs.filter fun r => p r.key) = (keysOf rs).filter p := by
  rw [keysOf, keysOf, ← eraseDups_filter, List.filter_map]
  rfl

/-- A key that is left keeps its pieces. -/
theorem pieces_filter {p : Key → Bool} (hk : p k = true) :
    pieces (rs.filter fun r => p r.key) k = pieces rs k := by
  rw [pieces, pieces, List.filter_filter]
  refine congrArg (List.mergeSort · spanLe) (List.filter_congr fun r _ => ?_)
  by_cases hr : r.key = k
  · simp [hr, hk]
  · simp [hr]

/-- **The flows of the records with certain keys** are the flows with these keys, in order. -/
theorem flows_filter (t : Timeouts) (rs : List Record) (p : Key → Bool) :
    (ofOrdered t (rs.filter fun r => p r.key)).flows =
      (ofOrdered t rs).flows.filter fun f => p f.key := by
  rw [filter_flows, flows_ofOrdered, keysOf_filter]
  refine List.flatMap_congr fun k hk => ?_
  rw [flowsOf, flowsOf, chains, chains, pieces_filter (List.mem_filter.1 hk).2]

end Reconciliation

/-! ## Pairs of networks -/

/-- Whether the records with a key belong to the traffic between the networks. -/
def SubnetPair.matchesKey (p : SubnetPair) (k : Key) : Bool :=
  (admits p.source k.source.address && admits p.target k.target.address) ||
    (p.bothWays && (admits p.source k.target.address && admits p.target k.source.address))

/-- The records between two networks. -/
def SubnetPair.select (p : SubnetPair) (rs : List Record) : List Record :=
  Segment.select (some (.subnet p)) rs

theorem SubnetPair.select_eq (p : SubnetPair) (rs : List Record) :
    p.select rs = rs.filter fun r => p.matchesKey r.key := rfl

section Selecting

variable {pair : SubnetPair} {rs rs' : List Record}

/-- **The flows between two networks are those of the records between them.** -/
theorem select_flows (pair : SubnetPair) (t : Timeouts) (rs : List Record) :
    pair.select (ofOrdered t rs).flows = (ofOrdered t (pair.select rs)).flows :=
  (flows_filter t rs pair.matchesKey).symm

/-- Records may be moved in time before or after they are selected. -/
theorem select_moved (pair : SubnetPair) (offset : Option Millis) (rs : List Record) :
    pair.select (Dataset.moved offset rs) = Dataset.moved offset (pair.select rs) := by
  cases offset with
  | none => rfl
  | some d =>
    rw [Dataset.moved, SubnetPair.select_eq, List.filter_map]
    rfl

/-- Datasets whose records between two networks are the same have the same totals there. -/
theorem Dataset.total_eq_of_select_eq (h : pair.select rs = pair.select rs') {role : Role}
    {t : Timeouts} {offset : Option Millis} {d d' : Dataset}
    (hd : ofRecords role t offset rs = .ok d) (hd' : ofRecords role t offset rs' = .ok d')
    (m : Measure) : d.total m (some (.subnet pair)) = d'.total m (some (.subnet pair)) := by
  obtain ⟨-, rfl⟩ := ofRecords_eq_ok.1 hd
  obtain ⟨-, rfl⟩ := ofRecords_eq_ok.1 hd'
  have hflows : pair.select (ofOrdered t (moved offset rs)).flows =
      pair.select (ofOrdered t (moved offset rs')).flows := by
    rw [select_flows, select_flows, select_moved, select_moved, h]
  exact congrArg m.total hflows

end Selecting

namespace Comparison

variable {pair : SubnetPair} {s : Settings} {c c' : Comparison}
  {candidate candidate' reference reference' : List Record}

/-- What a rule says about the traffic between two networks depends on it alone. -/
theorem outcome_eq_of_select_eq (hc : pair.select candidate = pair.select candidate')
    (hr : pair.select reference = pair.select reference')
    (h : ofRecords s candidate reference = .ok c) (h' : ofRecords s candidate' reference' = .ok c')
    (metric : Metric) :
    c.outcome (some (.subnet pair)) metric = c'.outcome (some (.subnet pair)) metric := by
  obtain ⟨-, d, e, hd, he, rfl⟩ := ofRecords_eq_ok.1 h
  obtain ⟨-, d', e', hd', he', rfl⟩ := ofRecords_eq_ok.1 h'
  simp only [outcome, Dataset.total_eq_of_select_eq hc hd hd',
    Dataset.total_eq_of_select_eq hr he he']

/-- The outcomes of a report over one segment answer the requests for it. -/
theorem filter_outcomes (c : Comparison) (segment : Option Segment) (rules : List Rule) :
    ((requests rules).map fun q => c.outcome q.1 q.2).filter (fun o => o.segment = segment) =
      ((requests rules).filter fun q => q.1 = segment).map fun q => c.outcome segment q.2 := by
  rw [List.filter_map]
  refine List.map_congr_left fun q hq => ?_
  have hsegment : q.1 = segment := by simpa [outcome] using (List.mem_filter.1 hq).2
  rw [hsegment]

end Comparison

/-- **Pairs of networks are isolated.** The flows between two networks are, one
for one and in order, those that the records between them give by themselves. And
if two comparisons under the same settings have the same records between the
networks on either side, then whatever their other records are, every rule about
the networks has the same outcomes, and of any list of rules both find the same
one faulty, or report the same outcomes about the networks. -/
theorem select_subnet_isolated (pair : SubnetPair) :
    (∀ (t : Timeouts) (rs : List Record), (∀ r ∈ rs, r.isOrdered) →
      ∃ r r', reconcile t rs = .ok r ∧ reconcile t (pair.select rs) = .ok r' ∧
        pair.select r.flows = r'.flows) ∧
    ∀ (s : Settings) (candidate candidate' reference reference' : List Record)
      (c c' : Comparison),
      pair.select candidate = pair.select candidate' →
      pair.select reference = pair.select reference' →
      Comparison.ofRecords s candidate reference = .ok c →
      Comparison.ofRecords s candidate' reference' = .ok c' →
      (∀ rule : Rule, rule.segment = some (.subnet pair) → c.outcomes rule = c'.outcomes rule) ∧
      ∀ rules,
        (∀ fault, c.judge rules = .error fault → c'.judge rules = .error fault) ∧
        ∀ report, c.judge rules = .ok report → ∃ report', c'.judge rules = .ok report' ∧
          (report.outcomes.filter fun o => o.segment = some (.subnet pair)) =
            report'.outcomes.filter fun o => o.segment = some (.subnet pair) := by
  refine ⟨fun t rs hordered => ?_, fun s _ _ _ _ c c' hc hr h h' => ?_⟩
  · have hselected : ∀ r ∈ pair.select rs, r.isOrdered := fun r hr =>
      hordered r (List.mem_filter.1 hr).1
    exact ⟨_, _, reconcile_eq_ok.2 ⟨hordered, rfl⟩, reconcile_eq_ok.2 ⟨hselected, rfl⟩,
      select_flows pair t rs⟩
  · have houtcome := Comparison.outcome_eq_of_select_eq hc hr h h'
    refine ⟨fun rule hrule => ?_, fun rules => ⟨fun fault hfault => ?_, fun report hreport => ?_⟩⟩
    · rw [Comparison.outcomes, Comparison.outcomes, hrule]
      exact List.map_congr_left fun metric _ => houtcome metric
    · rw [Comparison.judge_eq_error] at hfault ⊢
      exact hfault
    · obtain ⟨hrules, rfl⟩ := Comparison.judge_eq_ok.1 hreport
      refine ⟨_, Comparison.judge_eq_ok.2 ⟨hrules, rfl⟩, ?_⟩
      rw [Comparison.filter_outcomes, Comparison.filter_outcomes]
      exact List.map_congr_left fun q _ => houtcome q.2

namespace Sample

/-- A record with the same times between two hosts of another network. -/
def foreign (start finish : Int) (packets : Nat) : Record where
  key := {
    source := ⟨⟨.v4, 3232235521, by decide⟩, 40000⟩
    target := ⟨⟨.v4, 3232235530, by decide⟩, 53⟩
    l3 := 4
    l4 := 17 }
  forward := traffic start finish packets
  reverse := none

/-- A flow in two pieces among the records of other networks. -/
def mixed (packets : Nat) : List Record :=
  [foreign 0 300000 packets, record 300010 310000 3, foreign 300000 300010 7, record 0 300000 2]

end Sample

/-- What other networks report is noticed neither in the flows of a pair of networks nor in its
outcomes. -/
theorem select_subnet_isolated_sample :
    (∃ r r', reconcile Sample.timeouts (Sample.mixed 1) = .ok r ∧
      reconcile Sample.timeouts (Sample.pair.select (Sample.mixed 1)) = .ok r' ∧
      Sample.pair.select r.flows = r'.flows) ∧
    ∃ c c', Comparison.ofRecords .default (Sample.mixed 1) (Sample.mixed 5) = .ok c ∧
      Comparison.ofRecords .default (Sample.mixed 1000).tail (Sample.mixed 0) = .ok c' ∧
      ∀ rule : Rule, rule.segment = some (.subnet Sample.pair) →
        c.outcomes rule = c'.outcomes rule := by
  refine ⟨(select_subnet_isolated Sample.pair).1 _ _ (by decide), ?_⟩
  have hok : ∃ c, Comparison.ofRecords .default (Sample.mixed 1) (Sample.mixed 5) = .ok c :=
    Comparison.exists_ofRecords_eq_ok.2 ⟨rfl, by decide, by decide⟩
  have hok' : ∃ c, Comparison.ofRecords .default (Sample.mixed 1000).tail (Sample.mixed 0) =
      .ok c :=
    Comparison.exists_ofRecords_eq_ok.2 ⟨rfl, by decide, by decide⟩
  obtain ⟨c, hc⟩ := hok
  obtain ⟨c', hc'⟩ := hok'
  have hcandidate : Sample.pair.select (Sample.mixed 1) =
      Sample.pair.select (Sample.mixed 1000).tail := by decide
  have hreference : Sample.pair.select (Sample.mixed 5) =
      Sample.pair.select (Sample.mixed 0) := by decide
  exact ⟨c, c', hc, hc', ((select_subnet_isolated Sample.pair).2 _ _ _ _ _ c c' hcandidate
    hreference hc hc').1⟩

end FlowParity
