import FlowParity.Proofs.Sweep
/-!
# Reconciliation in passes

Reconciliation can be done with two passes and nothing kept but what they need.
The first puts every record into the group of its key, where an index of the keys
says which group that is (`Table`). The second goes through the groups one after
the other, each sorted, with one output that grows: the open flow either absorbs
the next record or is put out, and the next record takes its place (`Output`).

Each step is one lemma on what the tables and outputs stand for: after any
records the index holds their keys in the order of first appearance and the groups
what came with each (`foldl_insert`), and a group adds the flows along it to the
output (`flows_add`). So the passes reconcile (`inPasses_eq`).
-/

namespace FlowParity

/-- An element of a list that is changed where it stands, found by the key it belongs to. -/
theorem modify_idxOf {α β : Type} [DecidableEq α] {f g : α → β} {c : β → β} {a : α} {l : List α}
    (hl : l.Nodup) (ha : g a = c (f a)) (hother : ∀ b ≠ a, g b = f b) :
    (l.map f).modify (l.idxOf a) c = l.map g := by
  induction l with
  | nil => rfl
  | cons b l ih =>
    obtain ⟨hb, hl⟩ := List.nodup_cons.1 hl
    by_cases hba : b = a
    · subst hba
      have hrest : l.map f = l.map g :=
        List.map_congr_left fun x hx => (hother x fun h => hb (h ▸ hx)).symm
      rw [List.idxOf_cons_self, List.map_cons, List.modify_zero_cons, List.map_cons, ha, hrest]
    · rw [List.idxOf_cons_ne l hba, List.map_cons, List.modify_succ_cons, List.map_cons,
        hother b hba, ih hl]

namespace Reconciliation

variable {t : Timeouts} {rs : List Record} {r : Record} {k : Key}

/-! ## Into groups -/

/-- Records in groups by key. -/
structure Table where
  /-- The different keys; the group of a key stands where the key does. -/
  index : List Key
  /-- The groups. -/
  groups : List (List Record)

/-- A table with one more record: at the end of the group of its key, or in a group of its own. -/
def Table.insert (table : Table) (r : Record) : Table :=
  let position := table.index.idxOf r.key
  if position = table.index.length then
    { index := table.index ++ [r.key], groups := table.groups ++ [[r]] }
  else { table with groups := table.groups.modify position (· ++ [r]) }

theorem keysOf_concat (rs : List Record) (r : Record) :
    keysOf (rs ++ [r]) = if r.key ∈ keysOf rs then keysOf rs else keysOf rs ++ [r.key] := by
  rw [keysOf, List.map_append, List.map_singleton, eraseDups_concat]
  simp only [keysOf, List.mem_eraseDups]

theorem ofKey_concat (rs : List Record) (r : Record) (k : Key) :
    ofKey (rs ++ [r]) k = if r.key = k then ofKey rs k ++ [r] else ofKey rs k := by
  rw [ofKey, List.filter_append]
  split <;> rename_i hr <;> simp [ofKey, hr]

/-- **One record more in the table.** -/
theorem insert_eq (rs : List Record) (r : Record) :
    Table.insert ⟨keysOf rs, (keysOf rs).map (ofKey rs)⟩ r =
      ⟨keysOf (rs ++ [r]), (keysOf (rs ++ [r])).map (ofKey (rs ++ [r]))⟩ := by
  have hother : ∀ k ≠ r.key, ofKey (rs ++ [r]) k = ofKey rs k := fun k hk => by
    rw [ofKey_concat, if_neg fun h => hk h.symm]
  have hself : ofKey (rs ++ [r]) r.key = ofKey rs r.key ++ [r] := by
    rw [ofKey_concat, if_pos rfl]
  by_cases hr : r.key ∈ keysOf rs
  · have hlt : (keysOf rs).idxOf r.key < (keysOf rs).length := List.idxOf_lt_length_of_mem hr
    rw [Table.insert, if_neg (Nat.ne_of_lt hlt), keysOf_concat, if_pos hr,
      modify_idxOf (nodup_keysOf rs) hself hother]
  · have hnone : ofKey rs r.key = [] := List.eq_nil_iff_forall_not_mem.2 fun q hq =>
      hr (mem_keysOf.2 ⟨q, mem_ofKey.1 hq⟩)
    have hrest : (keysOf rs).map (ofKey (rs ++ [r])) = (keysOf rs).map (ofKey rs) :=
      List.map_congr_left fun k hk => hother k fun h => hr (h ▸ hk)
    rw [Table.insert, if_pos (List.idxOf_eq_length hr), keysOf_concat, if_neg hr, List.map_append,
      hrest, List.map_singleton, hself, hnone, List.nil_append]

/-- **The table of all records** holds their keys in order and what came with each. -/
theorem foldl_insert (rs : List Record) :
    rs.foldl Table.insert ⟨[], []⟩ = ⟨keysOf rs, (keysOf rs).map (ofKey rs)⟩ := by
  induction rs using List.reverseRecOn with
  | nil => rfl
  | append_singleton rs r ih =>
    rw [List.foldl_append, ih, List.foldl_cons, List.foldl_nil, insert_eq]

/-! ## Out of groups -/

/-- What has been put out, with the flow that is still open. -/
structure Open where
  /-- The flows that are complete. -/
  done : List Record
  /-- The records absorbed so far. -/
  merges : Nat
  /-- The open flow. -/
  current : Record
  /-- The record taken in last. -/
  last : Record

/-- The next record goes into the open flow, or that is put out and a new one opened. -/
def Open.take (t : Timeouts) (s : Open) (next : Record) : Open :=
  if continues t s.last next then
    { s with current := s.current.absorb next, merges := s.merges + 1, last := next }
  else { s with done := s.done ++ [s.current], current := next, last := next }

/-- What has been put out. -/
structure Output where
  /-- The flows. -/
  flows : List Record
  /-- The records absorbed. -/
  merges : Nat

/-- The output with one more group, sorted and swept. -/
def Output.add (t : Timeouts) (out : Output) (group : List Record) : Output :=
  match group.mergeSort spanLe with
  | [] => out
  | first :: rest =>
    let s := rest.foldl (Open.take t) ⟨out.flows, out.merges, first, first⟩
    ⟨s.done ++ [s.current], s.merges⟩

/-- The flows of a swept group come after those that are complete. -/
theorem done_foldl_take (s : Open) (rest : List Record) :
    (rest.foldl (Open.take t) s).done ++ [(rest.foldl (Open.take t) s).current] =
      s.done ++ flowsFrom (adjacent t) s.last s.current rest := by
  induction rest generalizing s with
  | nil => rfl
  | cons next rest ih =>
    rw [List.foldl_cons, ih]
    cases hnext : continues t s.last next with
    | true => rw [Open.take, if_pos hnext, flowsFrom_cons_of_true hnext]
    | false =>
      rw [Open.take, if_neg (by simp [hnext]), flowsFrom_cons_of_false hnext, List.append_assoc,
        List.singleton_append]

/-- Every record is absorbed or completes the flow before it. -/
theorem merges_foldl_take (s : Open) (rest : List Record) :
    (rest.foldl (Open.take t) s).merges + (rest.foldl (Open.take t) s).done.length =
      s.merges + s.done.length + rest.length := by
  induction rest generalizing s with
  | nil => rfl
  | cons next rest ih =>
    rw [List.foldl_cons, ih, List.length_cons]
    cases hnext : continues t s.last next with
    | true =>
      simp only [Open.take, hnext, if_true]
      omega
    | false =>
      simp only [Open.take, hnext, Bool.false_eq_true, if_false, List.length_append,
        List.length_singleton]
      omega

/-- **A group adds the flows along it.** -/
theorem flows_add (out : Output) (group : List Record) :
    (out.add t group).flows = out.flows ++ flowsAlong t (group.mergeSort spanLe) := by
  rw [Output.add, ← sweep_adjacent]
  cases group.mergeSort spanLe with
  | nil => exact (List.append_nil _).symm
  | cons first rest => exact done_foldl_take ⟨out.flows, out.merges, first, first⟩ rest

/-- A group adds as many flows and merges as it has records. -/
theorem merges_add (out : Output) (group : List Record) :
    (out.add t group).merges + (out.add t group).flows.length =
      out.merges + out.flows.length + group.length := by
  rw [← (List.mergeSort_perm group spanLe).length_eq, Output.add]
  cases group.mergeSort spanLe with
  | nil => rfl
  | cons first rest =>
    have hrest := merges_foldl_take (t := t) ⟨out.flows, out.merges, first, first⟩ rest
    simp only [List.length_append, List.length_cons, List.length_nil]
    simp only at hrest
    omega

theorem flows_foldl_add (out : Output) (groups : List (List Record)) :
    (groups.foldl (Output.add t) out).flows =
      out.flows ++ groups.flatMap fun group => flowsAlong t (group.mergeSort spanLe) := by
  induction groups generalizing out with
  | nil => exact (List.append_nil _).symm
  | cons group groups ih =>
    rw [List.foldl_cons, ih, flows_add, List.flatMap_cons, List.append_assoc]

theorem merges_foldl_add (out : Output) (groups : List (List Record)) :
    (groups.foldl (Output.add t) out).merges + (groups.foldl (Output.add t) out).flows.length =
      out.merges + out.flows.length + groups.flatten.length := by
  induction groups generalizing out with
  | nil => rfl
  | cons group groups ih =>
    rw [List.foldl_cons, ih, merges_add, List.flatten_cons, List.length_append, Nat.add_assoc]

/-! ## Both passes -/

/-- **Reconciliation in passes**: look for a record that ends before it starts, fill the table,
go through the groups. -/
def inPasses (t : Timeouts) (rs : List Record) : Except ReversedRecord Reconciliation :=
  match firstReversed? rs with
  | some fault => .error fault
  | none =>
    let table := rs.foldl Table.insert ⟨[], []⟩
    let out := table.groups.foldl (Output.add t) ⟨[], 0⟩
    .ok {
      flows := out.flows
      statistics := {
        recordsIn := rs.length
        flowsOut := out.flows.length
        merges := out.merges
        keys := table.groups.length
        conversations := (table.index.map Key.normalized).eraseDups.length } }

/-- **The passes reconcile.** -/
theorem inPasses_eq (t : Timeouts) (rs : List Record) : inPasses t rs = reconcile t rs := by
  rw [inPasses, reconcile]
  cases firstReversed? rs with
  | some fault => rfl
  | none =>
    have hflows : (((keysOf rs).map (ofKey rs)).foldl (Output.add t) ⟨[], 0⟩).flows =
        (ofOrdered t rs).flows := by
      rw [flows_foldl_add, List.nil_append, List.flatMap_map, flows_ofOrdered]
      rfl
    have hmerges : (((keysOf rs).map (ofKey rs)).foldl (Output.add t) ⟨[], 0⟩).merges =
        (ofOrdered t rs).statistics.merges := by
      have hadd := merges_foldl_add (t := t) ⟨[], 0⟩ ((keysOf rs).map (ofKey rs))
      have hgroups : ((keysOf rs).map (ofKey rs)).flatten.length = rs.length := by
        rw [← List.flatMap_def]
        exact (flatMap_filter_perm Record.key (nodup_keysOf rs) fun r hr =>
          mem_keysOf.2 ⟨r, hr, rfl⟩).length_eq
      have hall := merges_add_length_flows t rs
      rw [hflows, hgroups] at hadd
      simp only [List.length_nil] at hadd
      omega
    simp only [foldl_insert, hflows, hmerges, List.length_map]
    rfl

end Reconciliation

end FlowParity
