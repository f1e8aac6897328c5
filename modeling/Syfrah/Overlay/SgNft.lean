import Mathlib.Data.List.Sort
import Syfrah.Lib.Ipv4Text
import Syfrah.Lib.PacketFilter
import Syfrah.Lib.SipHash
import Syfrah.Lib.Text
import Syfrah.Org.Types

/-!
# Security groups as firewall rules

The rules of the groups of a network interface become two chains of the firewall, one for the traffic
to the VM and one for the traffic from it, in a table with one base chain. The source builds the
script as text; here it is a list of commands.
-/

namespace Syfrah

namespace Overlay

/-! ### Rules of the overlay -/

inductive TrafficSource
  | cidr (cidr : String)
  | securityGroup (name : String)
deriving DecidableEq

structure SecurityGroupRule where
  id : String
  sgId : String
  direction : Direction
  protocol : Protocol
  portRange : Option PortRange
  source : TrafficSource
  priority : ℕ
  description : String
  createdAt : ℕ
deriving DecidableEq

/-- A rule of the organisation layer as a rule of the overlay. -/
def convertOrgRuleToOverlay (r : Syfrah.SecurityGroupRule) : SecurityGroupRule where
  id := r.id
  sgId := r.sgId
  direction := r.direction
  protocol := r.protocol
  portRange := r.portRange
  source := match r.source with
    | .cidr cidr => .cidr cidr
    | .securityGroup sgId => .securityGroup sgId
  priority := r.priority
  description := r.description.getD ""
  createdAt := 0

structure NetworkInterface where
  id : String
  vmId : String
  privateIp : Ipv4Addr
  mac : String
  securityGroups : List String
  ifaceName : String
deriving DecidableEq

/-! ### Statements of the firewall -/

inductive CtState
  | new
  | established
  | related
  | invalid
deriving DecidableEq

def CtState.name : CtState → String
  | new => "new"
  | established => "established"
  | related => "related"
  | invalid => "invalid"

inductive PortExpr
  | port (n : ℕ)
  | range (low high : ℕ)
deriving DecidableEq

inductive NftMatch
  | etherTypeArp
  | ctState (states : List CtState)
  | oifname (name : String)
  | oifnameNot (name : String)
  | iifname (name : String)
  | iifnameNot (name : String)
  | ipSaddr (cidr : String)
  | ipSaddrSet (set : String)
  | ipDaddr (cidr : String)
  | ipDaddrSet (set : String)
  | tcpDport (ports : PortExpr)
  | udpDport (ports : PortExpr)
  | icmpEchoRequest
deriving DecidableEq

def quoted (name : String) : String := "\"" ++ name ++ "\""

abbrev NftRule := PacketFilter.Rule String NftMatch

/-! ### Names -/

def shortHash (input : String) : String :=
  Text.hexPad 8 ((SipHash.hash (SipHash.textBytes input)).toNat % 2 ^ 32)

def ingressChainName (vmId : String) : String := "vm_" ++ shortHash vmId ++ "_in"

def egressChainName (vmId : String) : String := "vm_" ++ shortHash vmId ++ "_out"

def sgSetName (sgName : String) : String := "sg_" ++ shortHash sgName ++ "_ips"

/-! ### The chains of a VM -/

def portExpr : Option PortRange → PortExpr
  | some pr => if pr.fromPort = pr.toPort then .port pr.fromPort else .range pr.fromPort pr.toPort
  | none => .range 0 65535

def protocolFilter (rule : SecurityGroupRule) : List NftMatch :=
  match rule.protocol with
  | .tcp => [.tcpDport (portExpr rule.portRange)]
  | .udp => [.udpDport (portExpr rule.portRange)]
  | .icmp => [.icmpEchoRequest]
  | .all => []

def addressFilter (cidr set : String → NftMatch) : TrafficSource → List NftMatch
  | .cidr text => if text = "0.0.0.0/0" then [] else [cidr text]
  | .securityGroup name => [set (sgSetName name)]

def translateRule (rule : SecurityGroupRule) : Option NftRule :=
  if rule.direction = .ingress then
    some ⟨addressFilter .ipSaddr .ipSaddrSet rule.source ++ protocolFilter rule, .accept⟩
  else none

/-- As for traffic to the VM, with the source read as the destination. -/
def translateEgressRule (rule : SecurityGroupRule) : Option NftRule :=
  if rule.direction = .egress then
    some ⟨addressFilter .ipDaddr .ipDaddrSet rule.source ++ protocolFilter rule, .accept⟩
  else none

def ofDirection (dir : Direction) (rules : List SecurityGroupRule) : List SecurityGroupRule :=
  (rules.filter (·.direction == dir)).insertionSort fun a b => a.priority ≤ b.priority

def generateIngressChain (_nic : NetworkInterface) (rules : List SecurityGroupRule) :
    List NftRule :=
  (ofDirection .ingress rules).filterMap translateRule ++ [⟨[], .drop⟩]

def generateEgressChain (_nic : NetworkInterface) (rules : List SecurityGroupRule) :
    List NftRule :=
  let egress := ofDirection .egress rules
  if egress.isEmpty then [⟨[], .accept⟩]
  else egress.filterMap translateEgressRule ++ [⟨[], .drop⟩]

/-! ### The script -/

/-- A command of a script; the elements of a set are texts. -/
abbrev NftCommand := PacketFilter.Command String NftMatch String String

def forwardChain : String := "forward"

def ingressDispatchChain : String := "dispatch_ingress"

def egressDispatchChain : String := "dispatch_egress"

/-- The rules of the base chain: traffic is sent on by the interface it leaves through, then by the
one it came in on. -/
def forwardRules : List NftRule :=
  [⟨[.etherTypeArp], .accept⟩,
   ⟨[.ctState [.established, .related]], .accept⟩,
   ⟨[.ctState [.invalid]], .drop⟩,
   ⟨[.oifnameNot "lo"], .goto ingressDispatchChain⟩,
   ⟨[.iifnameNot "lo"], .goto egressDispatchChain⟩]

def buildSgBaseChain : List NftCommand :=
  [.addTable, .addChain ingressDispatchChain, .addChain egressDispatchChain,
    .addBaseChain forwardChain .drop] ++ forwardRules.map (.addRule forwardChain)

def generateNamedSetInTable (sgName : String) (ips : List String) : List NftCommand :=
  .addSet (sgSetName sgName) :: if ips.isEmpty then [] else [.addElement (sgSetName sgName) ips]

/-- The script for the groups of a network interface. The map of the addresses of each group is given
in the order in which it is iterated. -/
def buildSgRuleset (nic : NetworkInterface) (rules : List SecurityGroupRule)
    (sgIpMap : List (String × List String)) : List NftCommand :=
  let inChain := ingressChainName nic.vmId
  let outChain := egressChainName nic.vmId
  buildSgBaseChain ++
  sgIpMap.flatMap (fun entry => generateNamedSetInTable entry.1 entry.2) ++
  [.addChain inChain, .flushChain inChain] ++
  (generateIngressChain nic rules).map (.addRule inChain) ++
  [.addChain outChain, .flushChain outChain] ++
  (generateEgressChain nic rules).map (.addRule outChain) ++
  [.addRule ingressDispatchChain ⟨[.oifname nic.ifaceName], .jump inChain⟩,
    .addRule egressDispatchChain ⟨[.iifname nic.ifaceName], .jump outChain⟩]

end Overlay

end Syfrah
