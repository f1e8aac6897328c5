import Syfrah.Org.Error

/-!
# Validation of names and address ranges
-/

namespace Syfrah

def isNameChar (c : Char) : Bool := c.isLower || c.isDigit || c == '-'

/-- Names of orgs, projects, environments and network resources: 3 to 63 bytes, lower-case letters,
digits and hyphens, with no hyphen at either end. -/
def validateName (name context : String) : Except OrgError Unit :=
  let len := name.utf8ByteSize
  if !(3 ≤ len && len ≤ 63) then
    .error (.invalidName context s!"name must be 3-63 characters, got {len}")
  else if !name.toList.all isNameChar then
    .error (.invalidName context
      "name must contain only lowercase alphanumeric characters and hyphens")
  else if name.toList.head? == some '-' || name.toList.getLast? == some '-' then
    .error (.invalidName context "name must not start or end with a hyphen")
  else .ok ()

theorem notMem_of_validateName {name context : String} (h : validateName name context = .ok ())
    {c : Char} (hc : isNameChar c = false) : c ∉ name.toList := by
  unfold validateName at h
  dsimp only at h
  split_ifs at h with _ hchars
  rw [Bool.not_eq_true', Bool.not_eq_false] at hchars
  intro hmem
  rw [List.all_eq_true.mp hchars c hmem] at hc
  cases hc

def privateRanges : List Ipv4Net :=
  [⟨.ofOctets 10 0 0 0, 8⟩, ⟨.ofOctets 172 16 0 0, 12⟩, ⟨.ofOctets 192 168 0 0, 16⟩]

def minPrefixLen : ℕ := 8

def maxPrefixLen : ℕ := 28

/-- Whether a network lies entirely in a private range. -/
def isPrivateRange (net : Ipv4Net) : Bool :=
  privateRanges.any fun range => range.contains net.network && range.contains net.broadcast

/-- Two networks overlap when one contains the first address of the other. -/
def cidrsOverlap (a b : Ipv4Net) : Bool := a.contains b.network || b.contains a.network

/-- Parse the CIDR of a VPC: a mask of 8 to 28 bits, no host bits, in a private range. -/
def parseAndValidateCidr (cidr : String) : Except OrgError Ipv4Net :=
  match Ipv4Net.parse cidr with
  | none => .error (.invalidCidr s!"'{cidr}': invalid CIDR format")
  | some net =>
    let len := net.prefixLen.val
    if !(minPrefixLen ≤ len && len ≤ maxPrefixLen) then
      .error (.invalidCidr (s!"'{cidr}': prefix length must be between {minPrefixLen} and " ++
        s!"{maxPrefixLen}, got {len}"))
    else if net.addr ≠ net.network then
      .error (.invalidCidr (s!"'{cidr}': address has host bits set; did you mean " ++
        (Ipv4Net.mk net.network net.prefixLen).display ++ "?"))
    else if !isPrivateRange net then
      .error (.invalidCidr (s!"'{cidr}': CIDR must be within a private range " ++
        "(10.0.0.0/8, 172.16.0.0/12, or 192.168.0.0/16)"))
    else .ok net

end Syfrah
