import Mathlib.Tactic

/-!
# IPv4 addresses and networks

Addresses are numbers below `2 ^ 32`. A network keeps the address it was written with, host bits
included, next to its mask length; the range it covers is derived from both. The reader and the
printer of dotted text follow the usual grammar: four decimal octets, a slash and a mask length.
-/

namespace Syfrah

abbrev Ipv4Addr := Fin (2 ^ 32)

instance neZero_addr : NeZero (2 ^ 32) := ⟨by decide⟩

instance neZero_octet : NeZero 256 := ⟨by decide⟩

instance neZero_mask : NeZero 33 := ⟨by decide⟩

namespace Ipv4Addr

def ofOctets (a b c d : Fin 256) : Ipv4Addr :=
  ⟨((a * 256 + b) * 256 + c) * 256 + d, by omega⟩

/-- The octets of an address, from the most significant. -/
def octet (ip : Ipv4Addr) (i : ℕ) : Fin 256 := ⟨ip / 256 ^ (3 - i) % 256, by omega⟩

def display (ip : Ipv4Addr) : String :=
  toString (ip.octet 0).val ++ "." ++ toString (ip.octet 1).val ++ "." ++
    toString (ip.octet 2).val ++ "." ++ toString (ip.octet 3).val

end Ipv4Addr

/-- A network: an address in it and the length of its mask. -/
structure Ipv4Net where
  addr : Ipv4Addr
  prefixLen : Fin 33
deriving DecidableEq

namespace Ipv4Net

def size (n : Ipv4Net) : ℕ := 2 ^ (32 - n.prefixLen.val)

theorem size_pos (n : Ipv4Net) : 0 < n.size := Nat.two_pow_pos _

def network (n : Ipv4Net) : Ipv4Addr :=
  ⟨n.addr / n.size * n.size, lt_of_le_of_lt (Nat.div_mul_le_self _ _) n.addr.isLt⟩

theorem network_add_size_le (n : Ipv4Net) : n.network.val + n.size ≤ 2 ^ 32 := by
  have hsize : n.size ∣ 2 ^ 32 := Nat.pow_dvd_pow 2 (by omega)
  obtain ⟨q, hq⟩ := hsize
  have hlt : n.addr.val / n.size < q := by
    rw [Nat.div_lt_iff_lt_mul n.size_pos, Nat.mul_comm, ← hq]
    exact n.addr.isLt
  calc n.network.val + n.size = (n.addr.val / n.size + 1) * n.size := by
        rw [network]; ring
    _ ≤ q * n.size := Nat.mul_le_mul_right _ hlt
    _ = 2 ^ 32 := by rw [hq, Nat.mul_comm]

def broadcast (n : Ipv4Net) : Ipv4Addr :=
  ⟨n.network + (n.size - 1), by have h := n.network_add_size_le; have := n.size_pos; omega⟩

def contains (n : Ipv4Net) (ip : Ipv4Addr) : Bool := n.network ≤ ip && ip ≤ n.broadcast

theorem contains_iff {n : Ipv4Net} {ip : Ipv4Addr} :
    n.contains ip = true ↔ ip.val / n.size = n.addr.val / n.size := by
  have hsize := n.size_pos
  simp only [contains, network, broadcast, Fin.le_def, Bool.and_eq_true, decide_eq_true_eq]
  rw [Nat.div_eq_iff hsize, Nat.add_sub_assoc hsize]

theorem contains_network {m n : Ipv4Net} {ip : Ipv4Addr} (hle : m.prefixLen ≤ n.prefixLen)
    (hm : m.contains ip = true) (hn : n.contains ip = true) : m.contains n.network = true := by
  rw [contains_iff] at hm hn ⊢
  have hsize : m.size = n.size * 2 ^ (n.prefixLen.val - m.prefixLen.val) := by
    rw [size, size, ← Nat.pow_add]
    congr 1
    omega
  have hnetwork : n.network.val = ip.val / n.size * n.size := by rw [hn, network]
  rw [← hm, hnetwork, hsize, ← Nat.div_div_eq_div_mul, ← Nat.div_div_eq_div_mul,
    Nat.mul_div_cancel _ n.size_pos]

structure Encloses (m n : Ipv4Net) : Prop where
  network : m.contains n.network = true
  broadcast : m.contains n.broadcast = true

theorem Encloses.contains {m n : Ipv4Net} (h : m.Encloses n) {ip : Ipv4Addr}
    (hip : n.contains ip = true) : m.contains ip = true := by
  obtain ⟨hnetwork, hbroadcast⟩ := h
  simp only [Ipv4Net.contains, Bool.and_eq_true, decide_eq_true_eq] at hnetwork hbroadcast hip ⊢
  exact ⟨hnetwork.1.trans hip.1, hip.2.trans hbroadcast.2⟩

/-- Text of a network: the address as given and the mask length. -/
def display (n : Ipv4Net) : String := n.addr.display ++ "/" ++ toString n.prefixLen.val

end Ipv4Net

/-! ### Reading -/

namespace Ipv4Parser

def digit (c : Char) : Option ℕ :=
  if c.isDigit then some (c.toNat - '0'.toNat) else none

/-- Read a decimal number: at most `maxDigits` digits and every prefix below `upto`. -/
def readNumber (maxDigits upto : ℕ) : List Char → (r count : ℕ) → Option (ℕ × List Char)
  | [], r, count => if count = 0 then none else some (r, [])
  | c :: cs, r, count =>
    match digit c with
    | none => if count = 0 then none else some (r, c :: cs)
    | some d =>
      if count + 1 > maxDigits || r * 10 + d ≥ upto then none
      else readNumber maxDigits upto cs (r * 10 + d) (count + 1)

def readGivenChar (c : Char) : List Char → Option (List Char)
  | [] => none
  | d :: cs => if d = c then some cs else none

def readOctet (cs : List Char) : Option (Fin 256 × List Char) := do
  let (n, cs) ← readNumber 3 256 cs 0 0
  if h : n < 256 then some (⟨n, h⟩, cs) else none

def readAddr (cs : List Char) : Option (Ipv4Addr × List Char) := do
  let (a, cs) ← readOctet cs
  let cs ← readGivenChar '.' cs
  let (b, cs) ← readOctet cs
  let cs ← readGivenChar '.' cs
  let (c, cs) ← readOctet cs
  let cs ← readGivenChar '.' cs
  let (d, cs) ← readOctet cs
  return (Ipv4Addr.ofOctets a b c d, cs)

/-- Read an address, a slash and a mask length, and nothing after it. -/
def readNet (cs : List Char) : Option Ipv4Net := do
  let (addr, cs) ← readAddr cs
  let cs ← readGivenChar '/' cs
  let (p, cs) ← readNumber 2 33 cs 0 0
  if h : p < 33 then if cs.isEmpty then some ⟨addr, ⟨p, h⟩⟩ else none else none

end Ipv4Parser

def Ipv4Net.parse (s : String) : Option Ipv4Net := Ipv4Parser.readNet s.toList

/-- The address a text denotes; an octet has no zero in front. -/
def Ipv4Addr.parse (s : String) : Option Ipv4Addr := do
  let (ip, rest) ← Ipv4Parser.readAddr s.toList
  if rest.isEmpty && ip.display == s then some ip else none

end Syfrah
