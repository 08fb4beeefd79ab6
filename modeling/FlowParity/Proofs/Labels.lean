import FlowParity.Compare.Segment
import FlowParity.Proofs.AddressReading
import FlowParity.Proofs.Dates
import FlowParity.Proofs.FieldText
/-!
# Labels

The label of a segment tells what the segment covers. It is three words without blanks in them
(`Segment.split_toText`): two networks or two instants, and an arrow. Networks can be told from
their texts, and so can instants; a network has a slash in it and an instant has none. So the only
word that says as much of a network as of an instant is the one for neither, and `ANY -> ANY` is
the only label of two segments, which both cover everything (`Segment.toText_eq_iff`).
-/

namespace FlowParity

open Text

/-! ## The characters of words -/

/-- A visible ASCII character: no blank, no control character. -/
def IsVisible (c : Char) : Prop :=
  '!' ≤ c ∧ c ≤ '~'

instance : DecidablePred IsVisible := fun _ => inferInstanceAs (Decidable (_ ∧ _))

/-- What is true of the characters of a given text can be looked up one by one. -/
theorem forall_mem_of_all {p : Char → Prop} [DecidablePred p] {s : List Char}
    (h : s.all (fun c => p c) = true) : ∀ c ∈ s, p c :=
  fun c hc => of_decide_eq_true (List.all_eq_true.1 h c hc)

/-- The characters of instants. -/
def instantLetters : List Char := "0123456789+-:.TZ".toList

/-- The characters of networks. -/
def networkLetters : List Char := "0123456789abcdef:./".toList

theorem isVisible_of_mem_instantLetters : ∀ c ∈ instantLetters, IsVisible c :=
  forall_mem_of_all (by decide)

theorem isVisible_of_mem_networkLetters : ∀ c ∈ networkLetters, IsVisible c :=
  forall_mem_of_all (by decide)

theorem mem_instantLetters_of_mem_toDigits {n : Nat} :
    ∀ c ∈ Nat.toDigits 10 n, c ∈ instantLetters := by
  have hdigit : ∀ d < 10, Nat.digitChar d ∈ instantLetters := by decide
  intro c hc
  obtain ⟨d, hd, rfl⟩ := exists_of_mem_toDigits (by decide) hc
  exact hdigit d hd

theorem mem_instantLetters_of_mem_padded {w n : Nat} :
    ∀ c ∈ (padded w n).toList, c ∈ instantLetters := by
  rw [toList_padded, List.forall_mem_append]
  refine ⟨fun c hc => ?_, mem_instantLetters_of_mem_toDigits⟩
  rw [List.eq_of_mem_replicate hc]
  decide

theorem Address.IsAddressChar.mem_networkLetters {c : Char} (h : IsAddressChar c) :
    c ∈ networkLetters ∧ c ≠ '/' := by
  have hdigit : ∀ d < 16, Nat.digitChar d ∈ networkLetters ∧ Nat.digitChar d ≠ '/' := by decide
  rcases h with rfl | rfl | ⟨d, hd, rfl⟩
  · decide
  · decide
  · exact hdigit d hd

namespace Timestamp

theorem mem_instantLetters_of_mem_yearText (year : Int) :
    ∀ c ∈ (DateTime.yearText year).toList, c ∈ instantLetters := by
  rw [DateTime.toList_yearText]
  split
  · exact mem_instantLetters_of_mem_padded
  · rw [List.forall_mem_cons]
    refine ⟨?_, mem_instantLetters_of_mem_padded⟩
    split <;> decide

theorem mem_instantLetters_of_mem_format (t : Timestamp) :
    ∀ c ∈ t.format.toList, c ∈ instantLetters := by
  by_cases h : DateTime.hasDate (t.ms / 1000) = true
  · have hdash : '-' ∈ instantLetters := by decide
    have hcolon : ':' ∈ instantLetters := by decide
    have hT : 'T' ∈ instantLetters := by decide
    have hpoint : '.' ∈ instantLetters := by decide
    have hend : ∀ c ∈ ['Z'], c ∈ instantLetters := List.forall_mem_singleton.2 (by decide)
    rw [toList_format_of_hasDate h, List.forall_mem_append]
    refine ⟨mem_instantLetters_of_mem_yearText _, ?_⟩
    simp only [afterYear, List.forall_mem_cons, List.forall_mem_append] at hend ⊢
    exact ⟨hdash, mem_instantLetters_of_mem_padded, hdash, mem_instantLetters_of_mem_padded, hT,
      mem_instantLetters_of_mem_padded, hcolon, mem_instantLetters_of_mem_padded, hcolon,
      mem_instantLetters_of_mem_padded, hpoint, mem_instantLetters_of_mem_padded, hend⟩
  · rw [format, if_neg h, Millis.toList_toText]
    split
    · rw [List.forall_mem_cons]
      exact ⟨by decide, mem_instantLetters_of_mem_toDigits⟩
    · exact mem_instantLetters_of_mem_toDigits

end Timestamp

/-! ## Networks -/

namespace Network

variable {m n : Network}

theorem toList_toText (n : Network) :
    n.toText.toList = n.base.toText.toList ++ '/' :: Nat.toDigits 10 n.length := by
  rw [toText, String.toList_append, String.toList_append, toList_toString, List.append_assoc]
  rfl

theorem mem_networkLetters_of_mem_toText (n : Network) :
    ∀ c ∈ n.toText.toList, c ∈ networkLetters := by
  rw [toList_toText, List.forall_mem_append, List.forall_mem_cons]
  exact ⟨fun c hc => (Address.isAddressChar_of_mem_toText c hc).mem_networkLetters.1, by decide,
    fun c hc => (Address.isAddressChar_of_mem_toDigits (by decide) (by decide)
      hc).mem_networkLetters.1⟩

theorem slash_mem_toText (n : Network) : '/' ∈ n.toText.toList := by
  simp [toList_toText]

/-- **A network is told by its text**: an address and a number, apart by a slash. -/
theorem split_toText (n : Network) :
    split '/' n.toText.toList = [n.base.toText.toList, Nat.toDigits 10 n.length] := by
  rw [toList_toText, split_append_cons, split_of_not_mem]
  · exact fun h => (Address.isAddressChar_of_mem_toDigits (by decide) (by decide)
      h).mem_networkLetters.2 rfl
  · exact fun h => (Address.isAddressChar_of_mem_toText _ h).mem_networkLetters.2 rfl

/-- **Networks can be told from their texts.** -/
theorem toText_injective : Function.Injective toText := by
  intro m n h
  have hparts : split '/' m.toText.toList = split '/' n.toText.toList := by rw [h]
  rw [split_toText, split_toText, List.cons.injEq, List.cons.injEq] at hparts
  obtain ⟨haddress, hdigits, -⟩ := hparts
  have hbase : m.base = n.base := by
    have hread := Address.parseChars?_toText m.base
    rw [haddress, Address.parseChars?_toText] at hread
    exact (Option.some.inj hread).symm
  have hlength : m.length = n.length := by
    rw [← digitsValue_toDigits m.length, hdigits, digitsValue_toDigits]
  cases m
  cases n
  simp_all only

end Network

/-! ## Words -/

namespace SubnetPair

theorem isVisible_of_mem_sideText (side : Option Network) :
    ∀ c ∈ (sideText side).toList, IsVisible c := by
  cases side with
  | none => exact forall_mem_of_all (by decide)
  | some n => exact fun c hc =>
      isVisible_of_mem_networkLetters c (n.mem_networkLetters_of_mem_toText c hc)

/-- A network has a slash in it. -/
theorem slash_mem_sideText {side : Option Network} :
    '/' ∈ (sideText side).toList ↔ side ≠ none := by
  cases side with
  | none => decide
  | some n => exact iff_of_true n.slash_mem_toText (Option.some_ne_none n)

theorem sideText_injective : Function.Injective sideText := by
  intro a b h
  have hslash : a ≠ none ↔ b ≠ none := by rw [← slash_mem_sideText, h, slash_mem_sideText]
  cases a with
  | none => exact (not_not.1 (mt hslash.2 (not_not.2 rfl))).symm
  | some m =>
    obtain ⟨n, rfl⟩ := Option.ne_none_iff_exists'.1 (hslash.1 (Option.some_ne_none m))
    exact congrArg some (Network.toText_injective h)

end SubnetPair

namespace TimeWindow

theorem isVisible_of_mem_boundText (bound : Option Timestamp) :
    ∀ c ∈ (boundText bound).toList, IsVisible c := by
  cases bound with
  | none => exact forall_mem_of_all (by decide)
  | some t => exact fun c hc =>
      isVisible_of_mem_instantLetters c (t.mem_instantLetters_of_mem_format c hc)

/-- An instant has no slash in it. -/
theorem slash_not_mem_boundText (bound : Option Timestamp) : '/' ∉ (boundText bound).toList := by
  cases bound with
  | none => decide
  | some t => exact fun h => absurd (t.mem_instantLetters_of_mem_format _ h) (by decide)

/-- No instant is written like the absence of one. -/
theorem boundText_eq_any {bound : Option Timestamp} : boundText bound = "ANY" ↔ bound = none := by
  cases bound with
  | none => exact iff_of_true rfl rfl
  | some t =>
    refine iff_of_false (fun h => ?_) (Option.some_ne_none t)
    have hA : 'A' ∈ t.format.toList := by
      rw [show t.format = "ANY" from h]
      decide
    exact absurd (t.mem_instantLetters_of_mem_format _ hA) (by decide)

theorem boundText_injective : Function.Injective boundText := by
  intro a b h
  cases a with
  | none => exact (boundText_eq_any.1 h.symm).symm
  | some t =>
    cases b with
    | none => exact boundText_eq_any.1 h
    | some u => exact congrArg some (Timestamp.format_injective h)

end TimeWindow

/-- **A network is not written like an instant**, but the absence of either is. -/
theorem sideText_eq_boundText {side : Option Network} {bound : Option Timestamp}
    (h : SubnetPair.sideText side = TimeWindow.boundText bound) : side = none ∧ bound = none := by
  have hside : side = none := by
    refine not_not.1 fun hne => TimeWindow.slash_not_mem_boundText bound ?_
    rw [← h]
    exact SubnetPair.slash_mem_sideText.2 hne
  subst hside
  exact ⟨rfl, TimeWindow.boundText_eq_any.1 h.symm⟩

/-! ## Segments -/

namespace Segment

variable {s t : Segment}

/-- The word between two networks or instants. -/
def arrow (bothWays : Bool) : List Char :=
  if bothWays then ['<', '-', '>'] else ['-', '>']

theorem isVisible_of_mem_arrow (bothWays : Bool) : ∀ c ∈ arrow bothWays, IsVisible c := by
  cases bothWays <;> exact forall_mem_of_all (by decide)

theorem arrow_inj : ∀ {a b}, arrow a = arrow b → a = b := by
  decide

/-- The words of a label. -/
def words : Segment → List (List Char)
  | subnet p => [(SubnetPair.sideText p.source).toList, arrow p.bothWays,
      (SubnetPair.sideText p.target).toList]
  | time w => [(TimeWindow.boundText w.start).toList, arrow false,
      (TimeWindow.boundText w.finish).toList]

theorem isVisible_of_mem_words (s : Segment) : ∀ word ∈ s.words, ∀ c ∈ word, IsVisible c := by
  cases s with
  | subnet p =>
    simp only [words, List.forall_mem_cons]
    exact ⟨SubnetPair.isVisible_of_mem_sideText _, isVisible_of_mem_arrow _,
      SubnetPair.isVisible_of_mem_sideText _, List.forall_mem_nil _⟩
  | time w =>
    simp only [words, List.forall_mem_cons]
    exact ⟨TimeWindow.isVisible_of_mem_boundText _, isVisible_of_mem_arrow _,
      TimeWindow.isVisible_of_mem_boundText _, List.forall_mem_nil _⟩

theorem toList_toText (s : Segment) : s.toText.toList = join ' ' s.words := by
  cases s with
  | subnet p =>
    rw [toText, SubnetPair.toText, words]
    cases p.bothWays <;> simp [join, arrow]
  | time w => simp [toText, TimeWindow.toText, words, join, arrow]

/-- **A label is three words.** -/
theorem split_toText (s : Segment) : split ' ' s.toText.toList = s.words := by
  have hne : s.words ≠ [] := by cases s <;> exact List.cons_ne_nil _ _
  have hblank : ∀ word ∈ s.words, ' ' ∉ word := fun word hword h =>
    absurd (s.isVisible_of_mem_words word hword ' ' h) (by decide)
  rw [toList_toText, split_join hne hblank]

theorem words_eq_of_toText_eq (h : s.toText = t.toText) : s.words = t.words := by
  rw [← split_toText, h, split_toText]

/-- The two segments that restrict nothing and are labelled alike. -/
def unrestricted : List Segment := [.subnet ⟨none, none, false⟩, .time ⟨none, none⟩]

theorem toText_of_mem_unrestricted (h : s ∈ unrestricted) : s.toText = "ANY -> ANY" := by
  simp only [unrestricted, List.mem_cons, List.not_mem_nil, or_false] at h
  rcases h with rfl | rfl <;> rfl

theorem matchesRecord_of_mem_unrestricted (h : s ∈ unrestricted) (r : Record) :
    s.matchesRecord r = true := by
  simp only [unrestricted, List.mem_cons, List.not_mem_nil, or_false] at h
  rcases h with rfl | rfl <;> rfl

/-- A pair of networks and a window with the same label restrict nothing. -/
theorem mem_unrestricted_of_toText_eq {p : SubnetPair} {w : TimeWindow}
    (h : (subnet p).toText = (time w).toText) :
    subnet p ∈ unrestricted ∧ time w ∈ unrestricted := by
  have hwords := words_eq_of_toText_eq h
  simp only [words, List.cons.injEq, and_true, String.toList_inj] at hwords
  obtain ⟨hstart, harrow, hfinish⟩ := hwords
  obtain ⟨source, target, bothWays⟩ := p
  obtain ⟨start, finish⟩ := w
  obtain ⟨rfl, rfl⟩ := sideText_eq_boundText hstart
  obtain ⟨rfl, rfl⟩ := sideText_eq_boundText hfinish
  obtain rfl := arrow_inj harrow
  exact ⟨List.mem_cons_self, List.mem_cons_of_mem _ List.mem_cons_self⟩

theorem eq_or_mem_unrestricted_of_toText_eq (h : s.toText = t.toText) :
    s = t ∨ s ∈ unrestricted ∧ t ∈ unrestricted := by
  cases s with
  | subnet p =>
    cases t with
    | subnet q =>
      have hwords := words_eq_of_toText_eq h
      simp only [words, List.cons.injEq, and_true, String.toList_inj] at hwords
      obtain ⟨hsource, harrow, htarget⟩ := hwords
      obtain ⟨source, target, bothWays⟩ := p
      obtain ⟨source', target', bothWays'⟩ := q
      obtain rfl := SubnetPair.sideText_injective hsource
      obtain rfl := SubnetPair.sideText_injective htarget
      obtain rfl := arrow_inj harrow
      exact .inl rfl
    | time w => exact .inr (mem_unrestricted_of_toText_eq h)
  | time v =>
    cases t with
    | subnet q => exact .inr (mem_unrestricted_of_toText_eq h.symm).symm
    | time w =>
      have hwords := words_eq_of_toText_eq h
      simp only [words, List.cons.injEq, and_true, true_and, String.toList_inj] at hwords
      obtain ⟨start, finish⟩ := v
      obtain ⟨start', finish'⟩ := w
      obtain rfl := TimeWindow.boundText_injective hwords.1
      obtain rfl := TimeWindow.boundText_injective hwords.2
      exact .inl rfl

/-- **Segments with the same label** are the same, or restrict nothing. -/
theorem toText_eq_iff :
    s.toText = t.toText ↔ s = t ∨ s ∈ unrestricted ∧ t ∈ unrestricted := by
  constructor
  · exact eq_or_mem_unrestricted_of_toText_eq
  · rintro (rfl | ⟨hs, ht⟩)
    · rfl
    · rw [toText_of_mem_unrestricted hs, toText_of_mem_unrestricted ht]

/-- **A label tells what it covers.** Any two segments with the same label match the same records,
however they were built; they are the same segment, or each of them is one of the two that restrict
nothing. An instant can be told from its text, whether it has a date or not, and so can a network
of either family. -/
theorem matchesRecord_eq_of_toText_eq :
    (∀ s t : Segment, s.toText = t.toText →
      (∀ r, s.matchesRecord r = t.matchesRecord r) ∧
        (s = t ∨ s ∈ unrestricted ∧ t ∈ unrestricted)) ∧
    Function.Injective Timestamp.format ∧ Function.Injective Network.toText := by
  refine ⟨fun s t h => ?_, Timestamp.format_injective, Network.toText_injective⟩
  obtain rfl | ⟨hs, ht⟩ := toText_eq_iff.1 h
  · exact ⟨fun _ => rfl, .inl rfl⟩
  · refine ⟨fun r => ?_, .inr ⟨hs, ht⟩⟩
    rw [matchesRecord_of_mem_unrestricted hs, matchesRecord_of_mem_unrestricted ht]

/-- What passes between any networks and what lies in any window of time have one label, and are the
same traffic. -/
theorem matchesRecord_eq_of_toText_eq_sample :
    (subnet ⟨none, none, false⟩).toText = (time ⟨none, none⟩).toText ∧
      ∀ r, (subnet ⟨none, none, false⟩).matchesRecord r = (time ⟨none, none⟩).matchesRecord r := by
  have hlabel : (subnet ⟨none, none, false⟩).toText = (time ⟨none, none⟩).toText := rfl
  exact ⟨hlabel, (matchesRecord_eq_of_toText_eq.1 _ _ hlabel).1⟩

end Segment

end FlowParity
