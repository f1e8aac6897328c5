import Syfrah.Lib.Ipv4Text
import Syfrah.Lib.Text
import Syfrah.Org.Validation

/-!
# Masquerading for NAT gateways

A NAT gateway adds one masquerade rule for each subnet of its VPC to a chain of the firewall. Each rule
carries the name of the VPC in its comment, and is found again by that text in the listing of the chain.
-/

namespace Syfrah

/-- The name of a network interface: the kernel admits no colon and no white space in it, and the
firewall reads it between quotes. -/
structure IfName where
  name : String
  plain : name.toList.all (fun c => c != ':' && c != Text.quote && !c.isWhitespace) = true
deriving DecidableEq

/-- A rule that masquerades what comes from a network and leaves by an interface. -/
structure NatRule where
  saddr : Ipv4Net
  oifname : IfName
  comment : String
  handle : ℕ
deriving DecidableEq

/-- The chain `postrouting` of the table `ip syfrah_nat`, and the next handle of the table. -/
structure NatChain where
  rules : List NatRule
  nextHandle : ℕ
deriving DecidableEq

/-! ### The firewall -/

inductive NatCommand
  | addTable
  | addChain
  | addRule (saddr : String) (oifname : IfName) (comment : String)
  | deleteRule (handle : ℕ)

/-- A source as the firewall reads it: a network, or a single address. -/
def readSaddr (s : String) : Option Ipv4Net :=
  match Ipv4Net.parse s with
  | some net => some net
  | none => (Ipv4Addr.parse s).map fun ip => ⟨ip, 32⟩

/-- Carry out one command, or say why not. A table without the chain counts as no chain. -/
def NatCommand.exec : NatCommand → Option NatChain → Except String (Option NatChain)
  | addTable, st => .ok st
  | addChain, some chain => .ok (some chain)
  -- the chain itself has the first handle
  | addChain, none => .ok (some ⟨[], 2⟩)
  | addRule saddr oifname comment, some chain =>
    match readSaddr saddr with
    | none => .error "syntax error"
    | some net =>
      if comment.toList.contains Text.quote then .error "syntax error"
      else if 2 ^ 64 ≤ chain.nextHandle then .error "Numerical result out of range"
      else .ok (some ⟨chain.rules ++ [⟨net, oifname, comment, chain.nextHandle⟩], chain.nextHandle + 1⟩)
  | deleteRule handle, some chain =>
    if chain.rules.any fun rule => rule.handle == handle then
      .ok (some { chain with rules := chain.rules.filter fun rule => rule.handle != handle })
    else .error "No such file or directory"
  | addRule .., none => .error "No such file or directory"
  | deleteRule _, none => .error "No such file or directory"

/-- Carry out a ruleset as a whole, or nothing of it. -/
def applyNftRuleset (ruleset : List NatCommand) (st : Option NatChain) :
    Except String (Option NatChain) :=
  (ruleset.foldlM (fun st (cmd : NatCommand) => cmd.exec st) st).mapError fun stderr => s!"nft failed: {stderr}"

def NatRule.line (rule : NatRule) : String :=
  s!"\t\tip saddr {rule.saddr.display} oifname \"{rule.oifname.name}\" masquerade comment \"" ++
    s!"{rule.comment}\" # handle {rule.handle}"

/-- The lines of `nft -a list chain ip syfrah_nat postrouting`. -/
def NatChain.listing (chain : NatChain) : List String :=
  ["table ip syfrah_nat \x7b", "\tchain postrouting \x7b # handle 1",
      "\t\ttype nat hook postrouting priority srcnat; policy accept;"] ++
    chain.rules.map NatRule.line ++ ["\t\x7d", "\x7d"]

/-! ### Gateways -/

def natGwTag (vpcName : String) : String := s!"nat-gw:{vpcName}"

/-- Masquerade the subnets of a VPC, when there is an interface to the outside. -/
def applyNatGwNftables (publicIface : Option IfName) (vpcName : String) (subnetCidrs : List String)
    (st : Option NatChain) : Except String (Option NatChain) :=
  match publicIface with
  | none => .error "cannot detect public interface for NAT masquerade"
  | some iface =>
    applyNftRuleset ([.addTable, .addChain] ++
      subnetCidrs.map fun cidr => .addRule cidr iface (natGwTag vpcName)) st

/-- The handle at the end of a line that has the tag somewhere. -/
def taggedHandle (tag line : String) : Option ℕ :=
  if Text.contains line tag then
    Text.parseUnsigned (2 ^ 64) (Text.trim (Text.rsplitLast "# handle " line))
  else none

def removeNatGwNftables (vpcName : String) (st : Option NatChain) :
    Except String (Option NatChain) :=
  match st with
  | none => .ok none
  | some chain =>
    let deleteCmds := (chain.listing.filterMap (taggedHandle (natGwTag vpcName))).map .deleteRule
    if deleteCmds.isEmpty then .ok st else applyNftRuleset deleteCmds st

end Syfrah
