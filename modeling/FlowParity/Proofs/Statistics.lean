import FlowParity.Proofs.Chaining
import Mathlib.Algebra.Order.BigOperators.Group.Finset
import Mathlib.Data.List.Triplewise
/-!
# What the counts of a reconciliation count

A reconciliation comes with five counts, each of them kept in its own way. This file says
what they count (`Statistics.Describes`): records and flows, the records that are no flow of
their own, and the different keys, which are the same before and after. The last one counts
**conversations**, the classes of keys that are equal or opposite. It is taken from the
normalized keys, so it is right because the normalized key is a representative of its class
(`Key.normalized_eq_normalized_iff`): of the two ends of a flow the order of endpoints always
puts one first, also where they have one address or are of different families.

The flows themselves are as well-formed as the records were, and they come key by key in the
order of their starts (`InSequence`).
-/

namespace FlowParity

open Reconciliation

/-! ## Conversations -/

namespace Endpoint

variable {a b : Endpoint}

/-- The order of endpoints has no ties. -/
theorem eq_of_le_of_le (hab : a.le b) (hba : b.le a) : a = b := by
  obtain ⟨aaddress, aport⟩ := a
  obtain ⟨baddress, bport⟩ := b
  by_cases haddress : aaddress = baddress
  · subst haddress
    simp only [le, if_true, decide_eq_true_eq] at hab hba
    rw [UInt16.toNat_inj.1 (Nat.le_antisymm hab hba)]
  · simp only [le, if_neg haddress, if_neg (Ne.symm haddress)] at hab hba
    exact absurd (Address.eq_of_le_of_le hab hba) haddress

/-- And leaves no two of them apart. -/
theorem le_total (a b : Endpoint) : a.le b ∨ b.le a := by
  by_cases haddress : a.address = b.address
  · simp only [le, if_pos haddress, if_pos haddress.symm, decide_eq_true_eq]
    exact Nat.le_total _ _
  · simp only [le, if_neg haddress, if_neg (Ne.symm haddress)]
    exact Address.le_total _ _

end Endpoint

namespace Key

variable {a b : Key}

@[simp] theorem opposite_opposite (k : Key) : k.opposite.opposite = k := rfl

theorem normalized_of_le {k : Key} (h : k.source.le k.target) : k.normalized = k := if_pos h

theorem normalized_of_not_le {k : Key} (h : ¬ k.source.le k.target) :
    k.normalized = k.opposite := if_neg h

theorem normalized_eq_or (k : Key) : k.normalized = k ∨ k.normalized = k.opposite := by
  by_cases h : k.source.le k.target
  · exact .inl (normalized_of_le h)
  · exact .inr (normalized_of_not_le h)

/-- **Both directions are normalized to one key.** -/
theorem normalized_opposite (k : Key) : k.opposite.normalized = k.normalized := by
  by_cases hst : k.source.le k.target <;> by_cases hts : k.target.le k.source
  · -- the ends are the same, so the key is its own opposite
    have hends : k.source = k.target := Endpoint.eq_of_le_of_le hst hts
    have hself : k.opposite = k := by
      obtain ⟨source, target, l3, l4⟩ := k
      obtain rfl : source = target := hends
      rfl
    rw [hself]
  · have hopposite : ¬ k.opposite.source.le k.opposite.target := hts
    rw [normalized_of_le hst, normalized_of_not_le hopposite, opposite_opposite]
  · have hopposite : k.opposite.source.le k.opposite.target := hts
    rw [normalized_of_not_le hst, normalized_of_le hopposite]
  · exact absurd (Endpoint.le_total k.source k.target) (not_or.2 ⟨hst, hts⟩)

/-- **The normalized key is the same for a key and its opposite and for no others.** -/
theorem normalized_eq_normalized_iff : a.normalized = b.normalized ↔ a = b ∨ a = b.opposite := by
  constructor
  · intro h
    rcases normalized_eq_or a with ha | ha <;> rcases normalized_eq_or b with hb | hb <;>
      rw [ha, hb] at h
    · exact .inl h
    · exact .inr h
    · exact .inr (congrArg opposite h)
    · exact .inl (congrArg opposite h)
  · rintro (rfl | rfl)
    · rfl
    · exact normalized_opposite b

/-- Two keys are of one conversation if they are equal or opposite. -/
instance conversations : Setoid Key where
  r a b := a = b ∨ a = b.opposite
  iseqv :=
    { refl := fun _ => .inl rfl
      symm := fun h => h.imp Eq.symm fun h => by rw [h, opposite_opposite]
      trans := by
        rintro a b c (rfl | rfl) (rfl | rfl)
        · exact .inl rfl
        · exact .inr rfl
        · exact .inr rfl
        · exact .inl rfl }

instance (a b : Key) : Decidable (a ≈ b) :=
  inferInstanceAs (Decidable (a = b ∨ a = b.opposite))

/-- **The conversation of a key**: what it is when nobody asks who sends and who receives. -/
def conversation (k : Key) : Quotient conversations := Quotient.mk _ k

theorem conversation_eq_iff : a.conversation = b.conversation ↔ a = b ∨ a = b.opposite :=
  Quotient.eq

end Key

/-! ## Counting -/

/-- What is left of a list without duplicates is as long as there are different elements. -/
theorem length_eraseDups {α : Type} [DecidableEq α] (l : List α) :
    l.eraseDups.length = l.toFinset.card := by
  have hset : l.eraseDups.toFinset = l.toFinset := by
    ext a
    rw [List.mem_toFinset, List.mem_toFinset, List.mem_eraseDups]
  rw [← hset, List.toFinset_card_of_nodup (nodup_eraseDups l)]

/-- The conversations of some keys are as many as their normalized keys. -/
theorem card_image_conversation (ks : Finset Key) :
    (ks.image Key.conversation).card = (ks.image Key.normalized).card := by
  have hlift : ∀ a b : Key, a ≈ b → a.normalized = b.normalized := fun a b hab =>
    Key.normalized_eq_normalized_iff.2 hab
  have hinjective : Function.Injective (Quotient.lift Key.normalized hlift) := by
    intro c d
    induction c, d using Quotient.inductionOn₂ with
    | h a b => exact fun h => Quotient.sound (Key.normalized_eq_normalized_iff.1 h)
  have hnormalized : Key.normalized = Quotient.lift Key.normalized hlift ∘ Key.conversation := rfl
  rw [hnormalized, ← Finset.image_image, Finset.card_image_of_injective _ hinjective]

/-- **A conversation has at most two keys.** -/
theorem card_le_two_mul_conversations (ks : Finset Key) :
    ks.card ≤ 2 * (ks.image Key.conversation).card := by
  refine Finset.card_le_mul_card_image _ _ fun c hc => ?_
  obtain ⟨k, -, rfl⟩ := Finset.mem_image.1 hc
  have hsub : (ks.filter fun a => a.conversation = k.conversation) ⊆ {k, k.opposite} := by
    intro a ha
    rw [Finset.mem_insert, Finset.mem_singleton]
    exact Key.conversation_eq_iff.1 (Finset.mem_filter.1 ha).2
  exact (Finset.card_le_card hsub).trans Finset.card_le_two

/-! ## Flows -/

/-- Merging ordered traffic gives ordered traffic. -/
theorem Traffic.isOrdered_merge {a b : Traffic} (ha : a.isOrdered) (hb : b.isOrdered) :
    (a.merge b).isOrdered := by
  simp only [isOrdered, decide_eq_true_eq, Millis.le_def] at ha hb
  simp only [isOrdered, merge, decide_eq_true_eq, Millis.le_def, Millis.ms_min, Millis.ms_max]
  omega

/-- **Two ordered pieces are an ordered record**, with a reverse side or without. -/
theorem Record.isOrdered_absorb {a b : Record} (ha : a.isOrdered) (hb : b.isOrdered) :
    (a.absorb b).isOrdered := by
  simp only [isOrdered, Bool.and_eq_true, Option.all_eq_true] at ha hb ⊢
  refine ⟨Traffic.isOrdered_merge ha.1 hb.1, fun back hback => ?_⟩
  rw [absorb] at hback
  cases hra : a.reverse with
  | none =>
    rw [hra] at hback
    exact hb.2 back hback
  | some s =>
    cases hrb : b.reverse with
    | none =>
      rw [hra, hrb] at hback
      exact ha.2 back (hra.trans hback)
    | some t =>
      rw [hra, hrb] at hback
      cases hback
      exact Traffic.isOrdered_merge (ha.2 s hra) (hb.2 t hrb)

/-- **Flows in sequence**: those of one key stand together, in the order of their starts. -/
structure InSequence (flows : List Record) : Prop where
  /-- What stands between two flows of one key is a flow of that key. -/
  together : flows.Triplewise fun f g h => f.key = h.key → g.key = f.key
  /-- Of two flows of one key the later one starts no earlier. -/
  starts : flows.Pairwise fun f g => f.key = g.key → f.spanStart ≤ g.spanStart

/-- Groups that are put after each other stand together. -/
theorem triplewise_flatMap {α β : Type} {key : α → β} {group : β → List α} {ks : List β}
    (hn : ks.Nodup) (hkey : ∀ k ∈ ks, ∀ a ∈ group k, key a = k) :
    (ks.flatMap group).Triplewise fun a b c => key a = key c → key b = key a := by
  induction ks with
  | nil => exact .nil
  | cons k ks ih =>
    obtain ⟨hk, hn⟩ := List.nodup_cons.1 hn
    obtain ⟨hfirst, hlater⟩ := List.forall_mem_cons.1 hkey
    have hother : ∀ c ∈ ks.flatMap group, key c ≠ k := by
      intro c hc hck
      obtain ⟨k', hk', hc⟩ := List.mem_flatMap.1 hc
      exact hk (hck ▸ hlater k' hk' c hc ▸ hk')
    rw [List.flatMap_cons, List.triplewise_append]
    refine ⟨?_, ih hn hlater, fun a ha => ?_, fun c _ => ?_⟩
    · rw [List.triplewise_iff_getElem]
      intro i j l hij hjl hl _
      rw [hfirst _ (List.getElem_mem _), hfirst _ (List.getElem_mem _)]
    · refine List.pairwise_of_forall_mem_list fun b _ c hc hac => ?_
      exact absurd (hac.symm.trans (hfirst a ha)) (hother c hc)
    · refine List.pairwise_of_forall_mem_list fun a ha b hb _ => ?_
      rw [hfirst a ha, hfirst b hb]

namespace Reconciliation

variable {t : Timeouts} {rs : List Record} {k : Key}

/-- The flows along a list that is in the order of starts are in that order as well. -/
theorem pairwise_spanStart_flowsAlong {l : List Record}
    (hl : l.Pairwise fun a b => a.spanStart ≤ b.spanStart) :
    (flowsAlong t l).Pairwise fun f g => f.spanStart ≤ g.spanStart := by
  induction l with
  | nil => exact .nil
  | cons a l ih =>
    obtain ⟨ha, hl⟩ := List.pairwise_cons.1 hl
    have ih := ih hl
    cases l with
    | nil => exact List.pairwise_singleton _ _
    | cons b l =>
      have hstart : ∀ f ∈ flowsAlong t (b :: l), a.spanStart ≤ f.spanStart :=
        le_spanStart_flowsAlong ha
      cases hab : continues t a b with
      | false =>
        rw [flowsAlong_cons_of_false hab]
        exact List.pairwise_cons.2 ⟨hstart, ih⟩
      | true =>
        -- the first flow starts earlier than before, if at all it changes
        obtain ⟨f, fs, hf⟩ := exists_flowsAlong_cons t b l
        rw [hf] at hstart ih
        rw [flowsAlong_cons_of_true hab hf]
        refine List.pairwise_cons.2 ⟨fun g hg => ?_, (List.pairwise_cons.1 ih).2⟩
        have hag := hstart g (List.mem_cons_of_mem f hg)
        rw [Millis.le_def] at hag
        rw [Millis.le_def, Record.spanStart_absorb, Millis.ms_min]
        exact (min_le_left _ _).trans hag

theorem pairwise_spanStart_flowsOf (t : Timeouts) (rs : List Record) (k : Key) :
    (flowsOf t rs k).Pairwise fun f g => f.spanStart ≤ g.spanStart := by
  rw [flowsOf_eq]
  refine pairwise_spanStart_flowsAlong ((pieces_pairwise rs k).imp fun {a b} hab => ?_)
  have hstart := Span.le_iff.1 hab
  rw [Record.start_span, Record.start_span] at hstart
  rw [Millis.le_def]
  omega

/-- **The flows come key by key, those of one key by start.** -/
theorem inSequence_flows (t : Timeouts) (rs : List Record) : InSequence (ofOrdered t rs).flows where
  together := by
    rw [flows_ofOrdered]
    exact triplewise_flatMap (nodup_keysOf rs) fun k _ f hf => key_of_mem_flowsOf hf
  starts := by
    rw [flows_ofOrdered, List.pairwise_flatMap]
    refine ⟨fun k _ => ?_, (nodup_keysOf rs).imp fun {a b} hab f hf g hg hkey => ?_⟩
    · exact (pairwise_spanStart_flowsOf t rs k).imp fun {f g} hfg (_ : f.key = g.key) => hfg
    · rw [key_of_mem_flowsOf hf, key_of_mem_flowsOf hg] at hkey
      exact absurd hkey hab

/-- The flows of ordered records are ordered. -/
theorem isOrdered_of_mem_flows (h : ∀ r ∈ rs, r.isOrdered) :
    ∀ f ∈ (ofOrdered t rs).flows, f.isOrdered := by
  intro f hf
  obtain ⟨chain, hchain, hflow⟩ := List.mem_filterMap.1 hf
  have hmem : ∀ r ∈ chain, r.isOrdered := fun r hr =>
    h r ((flatten_allChains_perm t rs).mem_iff.1 (List.mem_flatten.2 ⟨chain, hchain, hr⟩))
  revert hmem
  refine flow?_induction (P := fun chain f => (∀ r ∈ chain, r.isOrdered) → f.isOrdered)
    (fun r hr => hr r (by simp)) (fun a chain f _ ih hmem => ?_) hflow
  obtain ⟨ha, hrest⟩ := List.forall_mem_cons.1 hmem
  exact Record.isOrdered_absorb ha (ih hrest)

/-- Every key has a flow. -/
theorem flowsOf_ne_nil (hk : k ∈ keysOf rs) : flowsOf t rs k ≠ [] := by
  obtain ⟨r, hr, hrk⟩ := mem_keysOf.1 hk
  obtain ⟨b, l, hbl⟩ := List.exists_cons_of_ne_nil (List.ne_nil_of_mem (mem_pieces.2 ⟨hr, hrk⟩))
  obtain ⟨f, fs, hf⟩ := exists_flowsAlong_cons t b l
  rw [flowsOf_eq, hbl, hf]
  exact List.cons_ne_nil f fs

/-- The different keys of some records. -/
def keySet (rs : List Record) : Finset Key := (rs.map Record.key).toFinset

theorem mem_keySet : k ∈ keySet rs ↔ ∃ r ∈ rs, r.key = k := by
  rw [keySet, List.mem_toFinset, List.mem_map]

theorem toFinset_keysOf (rs : List Record) : (keysOf rs).toFinset = keySet rs := by
  ext k
  rw [List.mem_toFinset, mem_keysOf, mem_keySet]

/-- **No key is lost and none is new**: the flows have the keys of the records. -/
theorem keySet_flows (t : Timeouts) (rs : List Record) :
    keySet (ofOrdered t rs).flows = keySet rs := by
  ext k
  rw [← toFinset_keysOf rs, List.mem_toFinset, mem_keySet, flows_ofOrdered]
  constructor
  · rintro ⟨f, hf, rfl⟩
    obtain ⟨k, hk, hf⟩ := List.mem_flatMap.1 hf
    rwa [key_of_mem_flowsOf hf]
  · intro hk
    obtain ⟨f, fs, hf⟩ := List.exists_cons_of_ne_nil (flowsOf_ne_nil (t := t) hk)
    have hmem : f ∈ flowsOf t rs k := hf ▸ List.mem_cons_self
    exact ⟨f, List.mem_flatMap.2 ⟨k, hk, hmem⟩, key_of_mem_flowsOf hmem⟩

end Reconciliation

/-! ## Statistics -/

/-- **What the counts count**, of the records that are taken in and the flows that are given out. -/
structure Statistics.Describes (s : Statistics) (rs flows : List Record) : Prop where
  /-- The records. -/
  recordsIn : s.recordsIn = rs.length
  /-- The flows. -/
  flowsOut : s.flowsOut = flows.length
  /-- The records that are no flow of their own. -/
  merges : s.recordsIn = s.flowsOut + s.merges
  /-- The different keys of the records. -/
  keys : s.keys = (keySet rs).card
  /-- Which are as many as those of the flows. -/
  keys_flows : s.keys = (keySet flows).card
  /-- The conversations that the keys of the records are of. -/
  conversations : s.conversations = ((keySet rs).image Key.conversation).card

namespace Statistics.Describes

variable {s : Statistics} {rs flows : List Record}

/-- A key is of one conversation, and a conversation has one key or two. -/
theorem conversations_le_keys (h : s.Describes rs flows) :
    s.conversations ≤ s.keys ∧ s.keys ≤ 2 * s.conversations := by
  rw [h.conversations, h.keys]
  exact ⟨Finset.card_image_le, card_le_two_mul_conversations _⟩

/-- There are no more keys than flows. -/
theorem keys_le_flowsOut (h : s.Describes rs flows) : s.keys ≤ s.flowsOut := by
  rw [h.keys_flows, h.flowsOut, ← List.length_map Record.key]
  exact List.toFinset_card_le _

end Statistics.Describes

/-- **The statistics of a reconciliation describe it.** -/
theorem Reconciliation.describes_statistics (t : Timeouts) (rs : List Record) :
    (ofOrdered t rs).statistics.Describes rs (ofOrdered t rs).flows where
  recordsIn := rfl
  flowsOut := rfl
  merges := by
    rw [Nat.add_comm]
    exact (merges_add_length_flows t rs).symm
  keys := length_eraseDups _
  keys_flows := by
    rw [keySet_flows]
    exact length_eraseDups _
  conversations := by
    have hcount : (ofOrdered t rs).statistics.conversations =
        ((keysOf rs).map Key.normalized).eraseDups.length := rfl
    have himage : ((keysOf rs).map Key.normalized).toFinset =
        (keysOf rs).toFinset.image Key.normalized :=
      Multiset.toFinset_map Key.normalized (keysOf rs)
    rw [hcount, length_eraseDups, himage, toFinset_keysOf, card_image_conversation]

/-- **What every reconciliation keeps to.** Where it succeeds, its flows are ordered in every
direction they have and come key by key in the order of their starts; its statistics say how many
records and flows there are, how many of the records are no flow of their own, and of how many keys
and conversations the records are, the keys being those of the flows as well; so there are no more
conversations than keys, no more than two keys to a conversation, and no more keys than flows. Two
keys are normalized to the same if and only if they are equal or opposite. -/
theorem reconcile_describes {t : Timeouts} {rs : List Record} {r : Reconciliation}
    (h : reconcile t rs = .ok r) :
    (∀ f ∈ r.flows, f.isOrdered) ∧ InSequence r.flows ∧ keySet r.flows = keySet rs ∧
      r.statistics.Describes rs r.flows ∧
      r.statistics.conversations ≤ r.statistics.keys ∧
      r.statistics.keys ≤ 2 * r.statistics.conversations ∧
      r.statistics.keys ≤ r.statistics.flowsOut ∧
      ∀ a b : Key, a.normalized = b.normalized ↔ a = b ∨ a = b.opposite := by
  obtain ⟨hordered, rfl⟩ := reconcile_eq_ok.1 h
  have hdescribes := describes_statistics t rs
  obtain ⟨hconversations, hkeys⟩ := hdescribes.conversations_le_keys
  exact ⟨isOrdered_of_mem_flows hordered, inSequence_flows t rs, keySet_flows t rs, hdescribes,
    hconversations, hkeys, hdescribes.keys_le_flowsOut,
    fun _ _ => Key.normalized_eq_normalized_iff⟩

namespace Sample

/-- A query in two pieces with the answer to it between them. -/
def exchange : List Record :=
  [record 0 300000 2, ⟨key.opposite, traffic 10 20 1, none⟩, record 300010 310000 3]

end Sample

/-- A query and its answer have two keys, and are one conversation. -/
theorem reconcile_describes_sample :
    ∃ r, reconcile Sample.timeouts Sample.exchange = .ok r ∧ (∀ f ∈ r.flows, f.isOrdered) ∧
      InSequence r.flows ∧ r.statistics.recordsIn = 3 ∧ r.statistics.keys = 2 ∧
      r.statistics.conversations = 1 ∧ r.statistics.keys ≤ r.statistics.flowsOut := by
  have hr := reconcile_eq_ok (t := Sample.timeouts).2
    ⟨(by decide : ∀ r ∈ Sample.exchange, r.isOrdered), rfl⟩
  obtain ⟨hordered, hsequence, -, hdescribes, -, -, hflows, -⟩ := reconcile_describes hr
  have hkeys : (keySet Sample.exchange).card = 2 := by decide
  have hconversations : ((keySet Sample.exchange).image Key.conversation).card = 1 := by decide
  exact ⟨_, hr, hordered, hsequence, hdescribes.recordsIn, hdescribes.keys.trans hkeys,
    hdescribes.conversations.trans hconversations, hflows⟩

end FlowParity
