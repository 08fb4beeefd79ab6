import FlowParity.Net.AddressText
import FlowParity.Text.Blank
/-!
# Networks

A network is the set of addresses of one family that share their first bits with
its base address. The base has no bits after those: `Network.of` clears them, so
two texts that name the same set give the same network.
-/

namespace FlowParity

/-- The fault of a text that names no network, kept without the blanks around it. -/
structure NetworkFault where
  /-- The text. -/
  text : String
  deriving DecidableEq, Repr

/-- The text of a network fault. -/
def NetworkFault.message (fault : NetworkFault) : String :=
  let text := fault.text
  s!"'{text}' is not a CIDR block or IP address"

/-- A network in CIDR form. -/
structure Network where
  /-- The first address. -/
  base : Address
  /-- The number of shared bits. -/
  length : Nat
  /-- The length fits the family. -/
  length_le : length ≤ base.family.width
  /-- The bits that are not shared are zero in the base. -/
  hostBits : base.value % base.family.blockSize length = 0
  deriving DecidableEq

namespace Network

/-- The network of the addresses that agree with `a` on the first `length` bits. -/
def of (a : Address) (length : Nat) (h : length ≤ a.family.width) : Network where
  base :=
    { family := a.family
      value := a.value / a.family.blockSize length * a.family.blockSize length
      value_lt := Nat.lt_of_le_of_lt (Nat.div_mul_le_self _ _) a.value_lt }
  length := length
  length_le := h
  hostBits := Nat.mul_mod_left _ _

/-- The network of one address. -/
def host (a : Address) : Network :=
  of a a.family.width (Nat.le_refl _)

/-- The network around an address, if the length fits the family. -/
def of? (a : Address) (length : Nat) : Option Network :=
  if h : length ≤ a.family.width then some (of a length h) else none

/-- **Membership**: the same family, and the same first bits. -/
def contains (n : Network) (a : Address) : Bool :=
  a.family = n.base.family &&
    a.value / n.base.family.blockSize n.length = n.base.value / n.base.family.blockSize n.length

open Text

/-- A prefix length of at most `digits` digits that fills the text. -/
def length? (digits : Nat) (s : List Char) : Option Nat :=
  if !s.isEmpty && s.length ≤ digits && s.all isDigit then some (digitsValue s) else none

/-- The network of an address and a prefix length with a slash between them. -/
def withLength? (s : List Char) : Option Network :=
  match Address.v4? .withLength s with
  | some (value, rest) => do
    let rest ← Address.after? '/' rest
    let length ← length? 2 rest
    of? (.ofNat .v4 value) length
  | none => do
    let (value, rest) ← Address.v6? .withLength s
    let rest ← Address.after? '/' rest
    let length ← length? 3 rest
    of? (.ofNat .v6 value) length

/-- The network of a text without blanks around it; a bare address is the network of itself. -/
def parseChars? (s : List Char) : Option Network :=
  match withLength? s with
  | some n => some n
  | none => (Address.parseChars? s).map host

/-- **The network that a text names**, blanks around it aside. -/
def parse (text : String) : Except NetworkFault Network :=
  let s := trim text.toList
  match parseChars? s with
  | some n => .ok n
  | none => .error ⟨String.ofList s⟩

/-- **The text of a network.** -/
def toText (n : Network) : String :=
  n.base.toText ++ "/" ++ toString n.length

end Network

end FlowParity
