import FlowParity.Proofs.RowOrder
/-!
# Ties that disagree

The condition under which the order of the records cannot tell is not only
sufficient. As long as the total of the records stays below the largest counter,
ties agree on packets or bytes if and only if every order of the records has the
same total in every window of time (`tiesAgree_iff`).

To see a tie broken, one of the tied records is promoted to the head of the list.
The sort keeps it before the others, so it is the one that completes the chain,
and in the window that opens with it everything from then on is counted but this
record (`sum_late_promote`). So two records that take its place in turn differ in
the total by what they bring.
-/

namespace FlowParity

open Reconciliation

section Promotion

variable {rs : List Record} {x : Record}

/-- The records with one of them first, then those with its key, then the others. -/
def promote (x : Record) (rs : List Record) : List Record :=
  x :: ((ofKey rs x.key).erase x ++ rs.filter fun r => !decide (r.key = x.key))

theorem promote_perm (hx : x ∈ rs) : (promote x rs).Perm rs := by
  have hkey : x ∈ ofKey rs x.key := mem_ofKey.2 ⟨hx, rfl⟩
  have hfront := (List.perm_cons_erase hkey).symm.append_right
    (rs.filter fun r => !decide (r.key = x.key))
  exact hfront.trans (List.filter_append_perm _ rs)

theorem ofKey_promote_self : ofKey (promote x rs) x.key = x :: (ofKey rs x.key).erase x := by
  have hkeys : ∀ r ∈ (ofKey rs x.key).erase x, r.key = x.key := fun r hr =>
    (mem_ofKey.1 (List.mem_of_mem_erase hr)).2
  rw [promote, ofKey, List.filter_cons_of_pos (by simp), List.filter_append,
    List.filter_eq_self.2 fun r hr => by simp [hkeys r hr], List.filter_filter]
  simp

theorem ofKey_promote_of_ne {k : Key} (hk : k ≠ x.key) : ofKey (promote x rs) k = ofKey rs k := by
  have hkeys : ∀ r ∈ (ofKey rs x.key).erase x, r.key = x.key := fun r hr =>
    (mem_ofKey.1 (List.mem_of_mem_erase hr)).2
  rw [promote, ofKey, List.filter_cons_of_neg (by simpa using hk.symm), List.filter_append,
    List.filter_eq_nil_iff.2 fun r hr => by simp [hkeys r hr, hk.symm], List.nil_append,
    List.filter_filter]
  refine List.filter_congr fun r _ => ?_
  by_cases hr : r.key = k <;> simp [hr, hk]

/-- **The sort keeps a promoted record before all that tie with it.** -/
theorem exists_pieces_promote (x : Record) (rs : List Record) :
    ∃ l v, pieces (promote x rs) x.key = l ++ x :: v ∧ l.Pairwise (fun a b => spanLe a b) ∧
      (∀ q ∈ l, ¬ spanLe x q) ∧ ∀ q ∈ v, spanLe x q := by
  obtain ⟨l, v, hsort, -, hl⟩ :=
    List.mergeSort_cons spanLe_trans spanLe_total x ((ofKey rs x.key).erase x)
  have hpieces : pieces (promote x rs) x.key = l ++ x :: v := by
    rw [← hsort, ← ofKey_promote_self]
    rfl
  have hsorted := pieces_pairwise (promote x rs) x.key
  rw [hpieces] at hsorted
  obtain ⟨hsortedl, hsortedv, -⟩ := List.pairwise_append.1 hsorted
  exact ⟨l, v, hpieces, hsortedl, fun q hq => by simpa using hl q hq,
    (List.pairwise_cons.1 hsortedv).1⟩

/-- The record right before a promoted one has the span of those that precede it. -/
theorem exists_last_promote {p : Record} (hp : p ∈ rs) (hx : x ∈ rs) (hpre : Precedes rs p x)
    (hxp : ¬ spanLe x p) :
    ∃ u q v, pieces (promote x rs) x.key = (u ++ [q, x]) ++ v ∧ q.span = p.span ∧
      (∀ r ∈ u, spanLe r p) ∧ ∀ r ∈ v, spanLe x r := by
  obtain ⟨hkey, -, hbetween⟩ := hpre
  obtain ⟨l, v, hpieces, hsorted, hl, hv⟩ := exists_pieces_promote x rs
  have hmem : ∀ r, r ∈ l ++ x :: v ↔ r ∈ rs ∧ r.key = x.key := fun r => by
    rw [← hpieces, mem_pieces, (promote_perm hx).mem_iff]
  have hlp : ∀ r ∈ l, spanLe r p := fun r hr => by
    obtain ⟨hrs, hrk⟩ := (hmem r).1 (List.mem_append_left _ hr)
    exact (hbetween r hrs hrk).resolve_right (hl r hr)
  have hpl : p ∈ l := by
    rcases List.mem_append.1 ((hmem p).2 ⟨hp, hkey⟩) with h | h
    · exact h
    · rcases List.mem_cons.1 h with rfl | h
      · exact absurd (Span.le_refl p.span) hxp
      · exact absurd (hv p h) hxp
  obtain ⟨u, q, rfl⟩ := (List.eq_nil_or_concat' l).resolve_left (List.ne_nil_of_mem hpl)
  refine ⟨u, q, v, by simp [hpieces], ?_, fun r hr => hlp r (List.mem_append_left _ hr), hv⟩
  refine Span.le_antisymm (hlp q (List.mem_append_right _ (List.mem_singleton.2 rfl))) ?_
  rcases List.mem_append.1 hpl with h | h
  · exact (List.pairwise_append.1 hsorted).2.2 p h q (List.mem_singleton.2 rfl)
  · rw [List.mem_singleton.1 h]
    exact Span.le_refl q.span

end Promotion

section Windows

variable {t : Timeouts} {s : Timestamp}

/-- A flow that the last record completes has started with those before it. -/
theorem spanStart_flowsAlong_lt {l : List Record} {q x : Record}
    (hl : ∀ r ∈ l, r.spanStart.ms < s.ms) (hq : q.spanStart.ms < s.ms) (hqx : continues t q x) :
    ∀ f ∈ flowsAlong t (l ++ [q, x]), f.spanStart.ms < s.ms := by
  have habsorb : ∀ a f : Record, a.spanStart.ms < s.ms → (a.absorb f).spanStart.ms < s.ms := by
    intro a f ha
    rw [Record.spanStart_absorb, Millis.ms_min]
    exact min_lt_of_left_lt ha
  induction l with
  | nil =>
    rw [List.nil_append, flowsAlong_cons_of_true hqx (flowsAlong_singleton x)]
    simpa using habsorb q x hq
  | cons a l ih =>
    obtain ⟨ha, hl⟩ := List.forall_mem_cons.1 hl
    have ih := ih hl
    obtain ⟨b, m, hbm⟩ := List.exists_cons_of_ne_nil (List.append_ne_nil_of_right_ne_nil l
      (List.cons_ne_nil q [x]))
    rw [List.cons_append, hbm]
    rw [hbm] at ih
    cases hab : continues t a b with
    | false =>
      rw [flowsAlong_cons_of_false hab]
      exact List.forall_mem_cons.2 ⟨ha, ih⟩
    | true =>
      obtain ⟨f, fs, hf⟩ := exists_flowsAlong_cons t b m
      rw [hf] at ih
      rw [flowsAlong_cons_of_true hab hf]
      exact List.forall_mem_cons.2 ⟨habsorb a f ha, (List.forall_mem_cons.1 ih).2⟩

end Windows

section Breaking

variable {t : Timeouts} {m : Measure} {rs : List Record} {p x : Record}

/-- What a record adds to a measure from an instant on. -/
def lateValue (m : Measure) (s : Timestamp) (r : Record) : Counter :=
  if s ≤ r.spanStart then m.value r else 0

/-- And before. -/
def earlyValue (m : Measure) (s : Timestamp) (r : Record) : Counter :=
  if s ≤ r.spanStart then 0 else m.value r

theorem lateValue_add_earlyValue (m : Measure) (s : Timestamp) (r : Record) :
    lateValue m s r + earlyValue m s r = m.value r := by
  rw [lateValue, earlyValue]
  split
  · exact add_zero _
  · exact zero_add _

theorem sum_lateValue {l : List Record} {s : Timestamp} (hl : ∀ r ∈ l, s.ms ≤ r.spanStart.ms) :
    (l.map (lateValue m s)).sum = (l.map m.value).sum :=
  congrArg List.sum (List.map_congr_left fun r hr => if_pos (hl r hr))

theorem sum_lateValue_eq_zero {l : List Record} {s : Timestamp}
    (hl : ∀ r ∈ l, r.spanStart.ms < s.ms) : (l.map (lateValue m s)).sum = 0 := by
  refine List.sum_eq_zero fun c hc => ?_
  obtain ⟨r, hr, rfl⟩ := List.mem_map.1 hc
  have hlt := hl r hr
  exact if_neg fun hle => by
    rw [Millis.le_def] at hle
    omega

/-- A record that is too short to be continued continues only what starts earlier. -/
theorem spanStart_lt_of_continues (hp : p.isOrdered) (hle : spanLe p x) (hpx : continues t p x)
    (hshort : ¬ t.Reaches x.span) : p.spanStart.ms < x.spanStart.ms := by
  rw [continues_eq, Timeouts.joins_iff (Record.forward_span hp)] at hpx
  rw [spanLe_eq, Span.le_iff] at hle
  simp only [Timeouts.Reaches, Record.start_span, Record.finish_span] at hle hpx hshort
  omega

/-- Where a promoted record stands: the one before it is continued by it, what
comes before starts earlier and what comes after does not. -/
theorem exists_pieces_promote_continues (hordered : ∀ r ∈ rs, r.isOrdered) (hp : p ∈ rs)
    (hx : x ∈ rs) (hpre : Precedes rs p x) (hpx : continues t p x) (hshort : ¬ t.Reaches x.span) :
    ∃ u q v, pieces (promote x rs) x.key = (u ++ [q, x]) ++ v ∧
      (∀ r ∈ u, r.spanStart.ms < x.spanStart.ms) ∧ q.spanStart.ms < x.spanStart.ms ∧
      continues t q x ∧ ∀ r ∈ v, x.spanStart.ms ≤ r.spanStart.ms := by
  have hlt := spanStart_lt_of_continues (hordered p hp) hpre.2.1 hpx hshort
  have hle : ∀ a b : Record, spanLe a b → a.spanStart.ms ≤ b.spanStart.ms := fun a b hab => by
    rw [spanLe_eq, Span.le_iff] at hab
    simp only [Record.start_span] at hab
    omega
  obtain ⟨u, q, v, hpieces, hspan, hu, hv⟩ := exists_last_promote hp hx hpre fun hxp => by
    have hstart := hle x p hxp
    omega
  have hqp : q.spanStart = p.spanStart := congrArg Span.start hspan
  refine ⟨u, q, v, hpieces, fun r hr => (hle r p (hu r hr)).trans_lt hlt, hqp ▸ hlt, ?_,
    fun r hr => hle x r (hv r hr)⟩
  rwa [continues_eq, hspan, ← continues_eq]

/-- **A promoted record is missing from the window that opens with it**, if it
completes a chain and nothing continues it. -/
theorem sum_late_promote (hm : m ≠ .flows) (hordered : ∀ r ∈ rs, r.isOrdered) (hp : p ∈ rs)
    (hx : x ∈ rs) (hpre : Precedes rs p x) (hpx : continues t p x) (hshort : ¬ t.Reaches x.span) :
    ((flowsOf t (promote x rs) x.key).map (lateValue m x.spanStart)).sum + m.value x =
      ((ofKey rs x.key).map (lateValue m x.spanStart)).sum := by
  obtain ⟨u, q, v, hpieces, hu, hq, hqx, hv⟩ :=
    exists_pieces_promote_continues hordered hp hx hpre hpx hshort
  have hkeys : ∀ r ∈ v, r.key = x.key := fun r hr =>
    (mem_pieces.1 (hpieces ▸ List.mem_append_right _ hr)).2
  -- the promoted record ends the flow it is in, and that starts before the window opens
  have hcut : ∀ y ∈ (u ++ [q, x]).getLast?, ∀ z ∈ v.head?, continues t y z = false := by
    intro y hy z _
    have hyx : x = y := by simpa using hy
    rw [← hyx, continues_eq, Bool.eq_false_iff, ne_eq,
      Timeouts.joins_iff (Record.forward_span (hordered x hx))]
    exact fun h => hshort h.1
  have hflows : ((flowsOf t (promote x rs) x.key).map (lateValue m x.spanStart)).sum =
      (v.map m.value).sum := by
    rw [flowsOf_eq, hpieces, flowsAlong_append hcut, List.map_append, List.sum_append,
      sum_lateValue_eq_zero (spanStart_flowsAlong_lt hu hq hqx),
      sum_lateValue (le_spanStart_flowsAlong hv),
      sum_flowsAlong (fun a b _ => Measure.value_absorb hm a b) hkeys, zero_add]
  have hrecords : ((ofKey rs x.key).map (lateValue m x.spanStart)).sum =
      m.value x + (v.map m.value).sum := by
    have hperm : (ofKey rs x.key).Perm ((u ++ [q]) ++ x :: v) := by
      have hpromote : (pieces (promote x rs) x.key).Perm (ofKey rs x.key) :=
        (pieces_perm _ _).trans ((promote_perm hx).filter _)
      rw [hpieces] at hpromote
      simpa using hpromote.symm
    have hearly : ∀ r ∈ u ++ [q], r.spanStart.ms < x.spanStart.ms := fun r hr => by
      rcases List.mem_append.1 hr with h | h
      · exact hu r h
      · rwa [List.mem_singleton.1 h]
    have hlate : ∀ r ∈ x :: v, x.spanStart.ms ≤ r.spanStart.ms :=
      List.forall_mem_cons.2 ⟨le_refl _, hv⟩
    rw [(hperm.map _).sum_eq, List.map_append, List.sum_append, sum_lateValue_eq_zero hearly,
      sum_lateValue hlate, zero_add, List.map_cons, List.sum_cons]
  rw [hflows, hrecords, add_comm]

/-- The window that opens at an instant and never closes. -/
def windowFrom (s : Timestamp) : TimeWindow := ⟨some s, none⟩

theorem total_windowFrom (m : Measure) (s : Timestamp) (rs : List Record) :
    m.total (Segment.select (some (.time (windowFrom s))) rs) = (rs.map (lateValue m s)).sum := by
  rw [total_select]
  simp only [Option.all_some, Segment.matchesRecord, TimeWindow.matchesRecord, windowFrom,
    Option.all_none, Bool.and_true, decide_eq_true_eq]
  rfl

/-- What the records with a key and the flows of the other keys bring from an instant on. -/
def lateSum (t : Timeouts) (m : Measure) (rs : List Record) (k : Key) (s : Timestamp) : Counter :=
  ((ofKey rs k).map (lateValue m s)).sum +
    (((keysOf rs).erase k).map fun x => ((flowsOf t rs x).map (lateValue m s)).sum).sum

/-- **The window that opens with a promoted record lacks it and nothing else.** -/
theorem total_promote (hm : m ≠ .flows) (hordered : ∀ r ∈ rs, r.isOrdered) (hp : p ∈ rs)
    (hx : x ∈ rs) (hpre : Precedes rs p x) (hpx : continues t p x) (hshort : ¬ t.Reaches x.span) :
    m.total (Segment.select (some (.time (windowFrom x.spanStart)))
        (ofOrdered t (promote x rs)).flows) + m.value x = lateSum t m rs x.key x.spanStart := by
  have hkeys : (keysOf (promote x rs)).Perm (x.key :: (keysOf rs).erase x.key) :=
    (keysOf_perm (promote_perm hx)).trans (List.perm_cons_erase (mem_keysOf.2 ⟨x, hx, rfl⟩))
  have hothers : ∀ k ∈ (keysOf rs).erase x.key, flowsOf t (promote x rs) k = flowsOf t rs k := by
    intro k hk
    have hne : k ≠ x.key := ((nodup_keysOf rs).mem_erase_iff.1 hk).1
    exact congrArg (fun l => flowsAlong t (l.mergeSort spanLe)) (ofKey_promote_of_ne hne)
  rw [total_windowFrom, sum_flows_eq_add _ t hkeys, add_right_comm,
    sum_late_promote hm hordered hp hx hpre hpx hshort, lateSum]
  refine congrArg _ (congrArg List.sum (List.map_congr_left fun k hk => ?_))
  rw [hothers k hk]

/-- What comes late is a part of the total. -/
theorem exists_lateSum_add (hm : m ≠ .flows) (hx : x ∈ rs) (s : Timestamp) :
    ∃ c, lateSum t m rs x.key s + c = m.total rs := by
  have hadd : ∀ l : List Record,
      (l.map (lateValue m s)).sum + (l.map (earlyValue m s)).sum = (l.map m.value).sum := by
    intro l
    rw [← List.sum_map_add]
    simp only [lateValue_add_earlyValue]
  have hkeys := List.perm_cons_erase (mem_keysOf.2 ⟨x, hx, rfl⟩)
  have htotal : m.total rs = ((ofKey rs x.key).map m.value).sum +
      (((keysOf rs).erase x.key).map fun k => ((flowsOf t rs k).map m.value).sum).sum := by
    have hkey : ((flowsOf t rs x.key).map m.value).sum = ((ofKey rs x.key).map m.value).sum := by
      rw [flowsOf_eq, sum_flowsAlong (fun a b _ => Measure.value_absorb hm a b) fun r hr =>
        (mem_pieces.1 hr).2]
      exact ((pieces_perm rs x.key).map _).sum_eq
    rw [Measure.total_eq_sum, ← sum_flows (fun a b _ => Measure.value_absorb hm a b) t rs,
      sum_flows_eq_add _ t hkeys, hkey]
  refine ⟨((ofKey rs x.key).map (earlyValue m s)).sum +
    (((keysOf rs).erase x.key).map fun k => ((flowsOf t rs k).map (earlyValue m s)).sum).sum, ?_⟩
  rw [htotal, lateSum, add_add_add_comm, hadd, ← List.sum_map_add]
  simp only [hadd]

/-- **Ties agree if and only if no order of the records can be told by a window of
time**, as long as the total of the records stays below the largest counter. -/
theorem tiesAgree_iff (hm : m ≠ .flows) (hordered : ∀ r ∈ rs, r.isOrdered)
    (hfit : (m.total rs).toNat < Counter.maximum) :
    TiesAgree t m rs ↔ ∀ rs', rs.Perm rs' → ∀ w : TimeWindow,
      m.total (Segment.select (some (.time w)) (ofOrdered t rs').flows) =
        m.total (Segment.select (some (.time w)) (ofOrdered t rs).flows) := by
  constructor
  · intro hties rs' h w
    have hfree : OrderFree t rs m (some (.time w)) := Or.inr hties
    exact (total_select_perm hordered h hfree).symm
  · intro h p hp a ha b hb hpre hpa hshort hkey hspan
    have hpb : continues t p b := by rwa [continues_eq, hspan, ← continues_eq]
    have hta := total_promote hm hordered hp ha hpre hpa hshort
    have htb := total_promote hm hordered hp hb (hpre.congr hkey hspan) hpb (hspan ▸ hshort)
    have hstart : b.spanStart = a.spanStart := congrArg Span.start hspan
    -- both promotions leave the same total, and it lacks what the promoted record brings
    rw [h _ (promote_perm ha).symm] at hta
    rw [h _ (promote_perm hb).symm, hstart, hkey] at htb
    obtain ⟨c, hc⟩ := exists_lateSum_add (t := t) hm ha a.spanStart
    have hlate : (lateSum t m rs a.key a.spanStart).toNat < Counter.maximum := by
      rw [← hc] at hfit
      have hexact := Counter.toNat_add_of_lt hfit
      omega
    have hva := Counter.toNat_add_of_lt (hta.symm ▸ hlate)
    have hvb := Counter.toNat_add_of_lt (htb.symm ▸ hlate)
    rw [hta] at hva
    rw [htb] at hvb
    exact Counter.ext (by omega)

end Breaking

end FlowParity
