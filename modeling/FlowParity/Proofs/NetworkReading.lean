import FlowParity.Compare.Segment
import FlowParity.Proofs.AddressSpellings
import FlowParity.Proofs.Labels
import FlowParity.Proofs.Results
/-!
# Reading networks

Addresses are told apart by their bits from the front (`Address.bit`), and a network is what
agrees with its base on the first of them. That is the arithmetic of the definitions: two addresses
have the same quotient by the size of a block exactly if they agree so far
(`Address.div_blockSize_eq_iff`). So it does not matter which of its addresses a network is
written with, and a network is read back from its own text (`Network.parse_toText`).
-/

namespace FlowParity

open Text

namespace Address

variable {a b : Address} {length : Nat}

/-- The bit at a place, from the most significant one on. -/
def bit (a : Address) (i : Nat) : Bool := a.value.testBit (a.family.width - 1 - i)

/-- **Agreement on the first bits.** -/
def AgreesOn (length : Nat) (a b : Address) : Prop := ∀ i < length, a.bit i = b.bit i

instance : Decidable (AgreesOn length a b) :=
  Nat.decidableBallLT length fun i _ => a.bit i = b.bit i

/-- The bits of an address are those of its value and no others. -/
theorem testBit_value_of_le {i : Nat} (h : a.family.width ≤ i) : a.value.testBit i = false :=
  Nat.testBit_lt_two_pow (a.value_lt.trans_le (Nat.pow_le_pow_right Nat.two_pos h))

/-- **Addresses of one block** are those that agree on the bits the block shares. -/
theorem div_blockSize_eq_iff (hf : a.family = b.family) (hl : length ≤ a.family.width) :
    a.value / a.family.blockSize length = b.value / a.family.blockSize length ↔
      a.AgreesOn length b := by
  constructor
  · intro h i hi
    have hbit := congrArg (Nat.testBit · (length - 1 - i)) h
    simp only [Family.blockSize, Nat.pow_eq, Nat.testBit_div_two_pow] at hbit
    have hplace : length - 1 - i + (a.family.width - length) = a.family.width - 1 - i := by omega
    rw [hplace] at hbit
    rw [bit, bit, ← hf]
    exact hbit
  · intro h
    refine Nat.eq_of_testBit_eq fun j => ?_
    simp only [Family.blockSize, Nat.pow_eq, Nat.testBit_div_two_pow]
    by_cases hj : j < length
    · have hbit := h (length - 1 - j) (by omega)
      have hplace : a.family.width - 1 - (length - 1 - j) = j + (a.family.width - length) := by
        omega
      rw [bit, bit, ← hf, hplace] at hbit
      exact hbit
    · have hw : b.family.width = a.family.width := by rw [hf]
      rw [testBit_value_of_le (by omega), testBit_value_of_le (by omega)]

end Address

namespace Network

variable {a b : Address} {length : Nat} {n : Network} {s x : List Char}

/-! ## Bits -/

/-- **Membership is agreement with the base** on the shared bits. -/
theorem contains_iff (n : Network) (a : Address) :
    n.contains a ↔ a.family = n.base.family ∧ a.AgreesOn n.length n.base := by
  rw [contains, Bool.and_eq_true, decide_eq_true_eq, decide_eq_true_eq]
  refine and_congr_right fun hf => ?_
  rw [← hf]
  exact Address.div_blockSize_eq_iff hf (hf ▸ n.length_le)

/-- The base has no bits after those that are shared. -/
theorem bit_base_eq_false (n : Network) {i : Nat} (hi : n.length ≤ i)
    (hw : i < n.base.family.width) : n.base.bit i = false := by
  have hbit := congrArg (Nat.testBit · (n.base.family.width - 1 - i)) n.hostBits
  simp only [Family.blockSize, Nat.pow_eq, Nat.testBit_mod_two_pow, Nat.zero_testBit] at hbit
  have hplace : n.base.family.width - 1 - i < n.base.family.width - n.length := by omega
  rw [Address.bit]
  simpa [hplace] using hbit

theorem blockSize_pos (f : Family) (length : Nat) : 0 < f.blockSize length :=
  Nat.two_pow_pos _

/-- An address is in the network around it. -/
theorem contains_of (a : Address) (h : length ≤ a.family.width) : (of a length h).contains a := by
  rw [contains, Bool.and_eq_true, decide_eq_true_eq, decide_eq_true_eq]
  exact ⟨rfl, (Nat.mul_div_cancel _ (blockSize_pos _ _)).symm⟩

/-- **Networks of one length are equal** if they are around addresses that agree so far. -/
theorem of_eq_of_iff (hf : a.family = b.family) (ha : length ≤ a.family.width)
    (hb : length ≤ b.family.width) : of a length ha = of b length hb ↔ a.AgreesOn length b := by
  rw [← Address.div_blockSize_eq_iff hf ha]
  simp only [of, Network.mk.injEq, Address.mk.injEq, and_true, hf, true_and]
  exact Nat.mul_right_cancel_iff (blockSize_pos _ _)

/-- A network is the one around its base. -/
theorem of_base (n : Network) : of n.base n.length n.length_le = n := by
  have hvalue : n.base.value / n.base.family.blockSize n.length *
      n.base.family.blockSize n.length = n.base.value :=
    Nat.div_mul_cancel (Nat.dvd_of_mod_eq_zero n.hostBits)
  obtain ⟨⟨family, value, hlt⟩, length, hle, hhost⟩ := n
  simp only [of, Network.mk.injEq, Address.mk.injEq, and_true, true_and]
  exact hvalue

/-! ## An address with a length -/

/-- The number of digits that the length of a network may have. -/
def lengthDigits : Family → Nat
  | .v4 => 2
  | .v6 => 3

/-- **A text that is an address and the length of a network**, with a slash between them. -/
def Spells (s : List Char) (a : Address) (length : Nat) : Prop :=
  ∃ x l, s = x ++ '/' :: l ∧ Address.read? .withLength x = some a ∧
    length? (lengthDigits a.family) l = some length

theorem withLength?_slash (hx : Address.read? .withLength x = some a) (l : List Char) :
    withLength? (x ++ '/' :: l) = (length? (lengthDigits a.family) l).bind (of? a) := by
  rw [withLength?, Address.v4?_append_slash, Address.v6?_append_slash]
  rcases Address.read?_eq_some.1 hx with ⟨value, hvalue, rfl⟩ | ⟨hnone, value, hvalue, rfl⟩
  · rw [hvalue]
    rfl
  · rw [hnone, hvalue]
    rfl

/-- No address that stands alone has a slash in it. -/
theorem read?_slash (x l : List Char) (spelling : Spelling) :
    Address.read? spelling (x ++ '/' :: l) = none := by
  rw [Address.read?, Address.v4?_append_slash, Address.v6?_append_slash]
  cases Address.v4? spelling x with
  | some found => exact if_neg (by simp)
  | none =>
    cases Address.v6? spelling x with
    | some found => exact if_neg (by simp)
    | none => rfl

/-- **An address and a length** name the network around the address, if it can be that long. -/
theorem parseChars?_of_spells (h : Spells s a length) : parseChars? s = of? a length := by
  obtain ⟨x, l, rfl, hx, hl⟩ := h
  rw [parseChars?, withLength?_slash hx, hl, Option.bind_some, Address.parseChars?_eq_read?,
    read?_slash]
  cases of? a length <;> rfl

/-- A text without a slash is no address with a length. -/
theorem withLength?_eq_none (hs : Address.read? .withLength s = some a) : withLength? s = none := by
  rw [withLength?]
  rcases Address.read?_eq_some.1 hs with ⟨value, hvalue, -⟩ | ⟨hnone, value, hvalue, -⟩
  · rw [hvalue]
    rfl
  · rw [hnone, hvalue]
    rfl

/-- **An address that stands alone** names the network of itself. -/
theorem parseChars?_of_address (h : Address.parseChars? s = some a) :
    parseChars? s = some (host a) := by
  have hread : Address.read? .withLength s = some a := Address.read?_withLength h
  rw [parseChars?, withLength?_eq_none hread, h]
  rfl

/-- A length that fits the family is read back. -/
theorem length?_toDigits {f : Family} (h : length ≤ f.width) :
    length? (lengthDigits f) (Nat.toDigits 10 length) = some length := by
  have hcount : (Nat.toDigits 10 length).length ≤ lengthDigits f := by
    have hlt : length < 10 ^ lengthDigits f := by
      cases f <;> exact Nat.lt_of_le_of_lt h (by decide)
    have hpos : 0 < lengthDigits f := by cases f <;> decide
    exact (Nat.length_toDigits_le_iff (by decide) hpos).2 hlt
  have hdigits : (Nat.toDigits 10 length).all isDigit = true :=
    List.all_eq_true.2 fun c hc => Address.isDigit_of_mem_toDigits hc
  have hne : (Nat.toDigits 10 length).isEmpty = false := by simp
  rw [length?, hne, hdigits, decide_eq_true hcount, digitsValue_toDigits]
  rfl

theorem spells_toDigits (hx : Address.read? .withLength x = some a)
    (h : length ≤ a.family.width) : Spells (x ++ '/' :: Nat.toDigits 10 length) a length :=
  ⟨x, _, rfl, hx, length?_toDigits h⟩

/-- The trimmed text decides. -/
theorem parse_eq_ok {text : String} :
    parse text = .ok n ↔ parseChars? (trim text.toList) = some n := by
  rw [parse]
  cases parseChars? (trim text.toList) <;> simp

theorem parse_of_spells {text : String} (h : Spells (trim text.toList) a length)
    (hl : length ≤ a.family.width) : parse text = .ok (of a length hl) :=
  parse_eq_ok.2 ((parseChars?_of_spells h).trans (dif_pos hl))

theorem parse_of_address {text : String} (h : Address.parseChars? (trim text.toList) = some a) :
    parse text = .ok (host a) :=
  parse_eq_ok.2 (parseChars?_of_address h)

/-- **A network is read back** from its text. -/
theorem parse_toText (n : Network) : parse n.toText = .ok n := by
  have hblank : ∀ c ∈ networkLetters, isBlank c = false := forall_mem_of_all (by decide)
  have htrim : trim n.toText.toList = n.toText.toList :=
    strip_of_forall fun c hc => hblank c (n.mem_networkLetters_of_mem_toText c hc)
  have hbase : Address.read? .withLength n.base.toText.toList = some n.base :=
    Address.read?_withLength (Address.parseChars?_toText n.base)
  have hspells : Spells (trim n.toText.toList) n.base n.length := by
    rw [htrim, toList_toText]
    exact spells_toDigits hbase n.length_le
  rw [parse_of_spells hspells n.length_le, of_base]

/-- An address that stands alone, with the whole width put behind it. -/
theorem parse_append_width {text : String}
    (h : Address.parseChars? (trim text.toList) = some a) :
    parse (String.ofList (trim text.toList ++ '/' :: Nat.toDigits 10 a.family.width)) =
      .ok (host a) := by
  have hne : trim text.toList ≠ [] := by
    intro hnil
    rw [hnil] at h
    cases h
  have hwidth : ∀ c ∈ '/' :: Nat.toDigits 10 a.family.width, isBlank c = false := by
    cases a.family <;> exact forall_mem_of_all (by decide)
  have hread : Address.read? .withLength (trim text.toList) = some a := Address.read?_withLength h
  refine parse_of_spells ?_ (Nat.le_refl _)
  rw [String.toList_ofList, trim_trim_append hne (List.cons_ne_nil _ _) hwidth]
  exact spells_toDigits hread (Nat.le_refl _)

end Network

/-! ## Segments -/

namespace SubnetPair

variable {text text' : String} {m n : Network} {source target source' target' : Option String}
  {bothWays : Bool} {p q : SubnetPair}

/-- A pair of networks is read side by side. -/
theorem parse_eq_ok : parse source target bothWays = .ok p ↔
    side? source = .ok p.source ∧ side? target = .ok p.target ∧ bothWays = p.bothWays := by
  simp only [parse, bind_eq_ok, pure, Except.pure, Except.ok.injEq]
  constructor
  · rintro ⟨a, ha, b, hb, rfl⟩
    exact ⟨ha, hb, rfl⟩
  · rintro ⟨ha, hb, rfl⟩
    exact ⟨_, ha, _, hb, rfl⟩

/-- **Pairs are equal** if both of their sides are read alike. -/
theorem eq_iff_of_parse (hp : parse source target bothWays = .ok p)
    (hq : parse source' target' bothWays = .ok q) :
    p = q ↔ side? source = side? source' ∧ side? target = side? target' := by
  obtain ⟨psource, ptarget, pbothWays⟩ := p
  obtain ⟨qsource, qtarget, qbothWays⟩ := q
  obtain ⟨hps, hpt, rfl⟩ := parse_eq_ok.1 hp
  obtain ⟨hqs, hqt, rfl⟩ := parse_eq_ok.1 hq
  rw [hps, hpt, hqs, hqt]
  simp

theorem side?_eq_iff (h : Network.parse text = .ok m) (h' : Network.parse text' = .ok n) :
    side? (some text) = side? (some text') ↔ m = n := by
  rw [side?, side?, h, h']
  simp

end SubnetPair

/-! ## Canonical networks -/

namespace Network

/-- **What a network is**, bit by bit, and in its own words. -/
structure IsCanonical (n : Network) : Prop where
  /-- After the shared bits the base has none. -/
  clear : ∀ i, n.length ≤ i → i < n.base.family.width → n.base.bit i = false
  /-- The text of the network names it. -/
  reread : parse n.toText = .ok n
  /-- It holds the addresses of its family that agree with the base on the shared bits. -/
  holds : ∀ a, n.contains a ↔ a.family = n.base.family ∧ a.AgreesOn n.length n.base

theorem isCanonical (n : Network) : n.IsCanonical where
  clear _ hi hw := n.bit_base_eq_false hi hw
  reread := n.parse_toText
  holds := n.contains_iff

/-- **A text is read as the network it names.** Every network that is read has no bits after the
shared ones, is read back from its own text, and holds just the addresses of its family that agree
with it on the shared bits. A text that is an address and a length is read if the family has such
a length, as the network of that length around the address; so for one length and one family two
texts give the same network, and the same segment with whatever else, exactly if the addresses
agree so far. And an address that stands alone gives the network of the full width. -/
theorem parse_canonical :
    (∀ text n, parse text = .ok n → n.IsCanonical) ∧
    (∀ text text' a b length, Spells (trim text.toList) a length →
      Spells (trim text'.toList) b length → a.family = b.family →
      if length ≤ a.family.width then
        ∃ m n, parse text = .ok m ∧ parse text' = .ok n ∧ m.length = length ∧ m.contains a ∧
          (m = n ↔ a.AgreesOn length b) ∧
          ∀ other bothWays p q,
            SubnetPair.parse (some text) other bothWays = .ok p ∧
                SubnetPair.parse (some text') other bothWays = .ok q ∨
              SubnetPair.parse other (some text) bothWays = .ok p ∧
                SubnetPair.parse other (some text') bothWays = .ok q →
            (Segment.subnet p = Segment.subnet q ↔ a.AgreesOn length b)
      else ∀ n, parse text ≠ .ok n ∧ parse text' ≠ .ok n) ∧
    ∀ text a, Address.parseChars? (trim text.toList) = some a →
      parse text = .ok (host a) ∧
      parse (String.ofList (trim text.toList ++ '/' :: Nat.toDigits 10 a.family.width)) =
        .ok (host a) := by
  refine ⟨fun _ n _ => n.isCanonical, fun text text' a b length ha hb hf => ?_,
    fun text a h => ⟨parse_of_address h, parse_append_width h⟩⟩
  split
  · rename_i hl
    have hl' : length ≤ b.family.width := hf ▸ hl
    have hm := parse_of_spells ha hl
    have hn := parse_of_spells hb hl'
    have heq := of_eq_of_iff hf hl hl'
    have hside := (SubnetPair.side?_eq_iff hm hn).trans heq
    refine ⟨_, _, hm, hn, rfl, contains_of a hl, heq, fun _ _ _ _ h => ?_⟩
    rw [Segment.subnet.injEq, ← hside]
    rcases h with ⟨hp, hq⟩ | ⟨hp, hq⟩
    · rw [SubnetPair.eq_iff_of_parse hp hq, and_iff_left rfl]
    · rw [SubnetPair.eq_iff_of_parse hp hq, and_iff_right rfl]
  · rename_i hl
    have hl' : ¬ length ≤ b.family.width := hf ▸ hl
    refine fun n => ⟨fun h => ?_, fun h => ?_⟩
    · rw [parse_eq_ok, parseChars?_of_spells ha, of?, dif_neg hl] at h
      cases h
    · rw [parse_eq_ok, parseChars?_of_spells hb, of?, dif_neg hl'] at h
      cases h

/-- Two hosts of one network, blanks and a leading zero aside, and one IPv6 address in upper case
with and without its width. -/
theorem parse_canonical_sample :
    (∃ m n, parse "10.1.2.3/8" = .ok m ∧ parse " 10.200.0.0/08 " = .ok n ∧ m = n ∧
      m.IsCanonical) ∧
    parse "2001:DB8::1" = parse "2001:DB8::1/128" := by
  have hspells : Spells (trim "10.1.2.3/8".toList) (.ofNat .v4 0x0A010203) 8 :=
    ⟨"10.1.2.3".toList, ['8'], by decide, by decide, by decide⟩
  have hspells' : Spells (trim " 10.200.0.0/08 ".toList) (.ofNat .v4 0x0AC80000) 8 :=
    ⟨"10.200.0.0".toList, ['0', '8'], by decide, by decide, by decide⟩
  have hpair := parse_canonical.2.1 _ _ _ _ 8 hspells hspells' rfl
  rw [if_pos (by decide)] at hpair
  obtain ⟨m, n, hm, hn, -, -, heq, -⟩ := hpair
  have haddress : Address.parseChars? (trim "2001:DB8::1".toList) =
      some (.ofNat .v6 0x20010DB8000000000000000000000001) := by decide
  obtain ⟨hbare, hwidth⟩ := parse_canonical.2.2 "2001:DB8::1" _ haddress
  have htext : String.ofList (trim "2001:DB8::1".toList ++ '/' :: Nat.toDigits 10 128) =
      "2001:DB8::1/128" := by decide
  exact ⟨⟨m, n, hm, hn, heq.2 (by decide), parse_canonical.1 _ m hm⟩,
    hbare.trans (hwidth.symm.trans (congrArg parse htext))⟩

end Network

end FlowParity
