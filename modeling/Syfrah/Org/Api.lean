import Mathlib.Data.List.Sort
import Syfrah.Lib.Ipv4
import Syfrah.Lib.Text
import Syfrah.Org.Types

/-!
# Ports and addresses of the organisation API

How the API reads a port text, and how it answers the question whether traffic to a VM would be let
through by a list of security group rules.
-/

namespace Syfrah

namespace OrgApi

def parsePortRange (s : String) : Except String PortRange :=
  match Text.splitOnce '-' s with
  | some (fromS, toS) =>
    match Text.parseUnsigned (2 ^ 16) fromS, Text.parseUnsigned (2 ^ 16) toS with
    | some fromPort, some toPort =>
      if toPort < fromPort then
        .error s!"from port ({fromPort}) must be <= to port ({toPort})"
      else .ok ⟨fromPort, toPort⟩
    | _, _ => .error s!"invalid port range: {s}"
  | none =>
    match Text.parseUnsigned (2 ^ 16) s with
    | some port => .ok ⟨port, port⟩
    | none => .error s!"invalid port: {s}"

/-- Whether an address is in a network, both as texts. A text that does not parse contains
nothing. -/
def cidrContains (cidr ip : String) : Bool :=
  match Text.splitOnce '/' cidr with
  | none => false
  | some (netText, lenText) =>
    -- a second slash would make a third part
    if lenText.toList.contains '/' then false
    else
      match Ipv4Addr.parse netText, Text.parseUnsigned (2 ^ 32) lenText, Ipv4Addr.parse ip with
      | some net, some prefixLen, some check =>
        if prefixLen = 0 then true
        else if h : prefixLen < 33 then
          (⟨net, ⟨prefixLen, h⟩⟩ : Ipv4Net).network == (⟨check, ⟨prefixLen, h⟩⟩ : Ipv4Net).network
        else false
      | _, _, _ => false

/-- Whether a rule matches traffic; the members of a source group are not looked up. -/
def ruleMatches (rule : SecurityGroupRule) (port : ℕ) (protocol : Protocol) (sourceIp : String) :
    Bool :=
  (rule.protocol == .all || rule.protocol == protocol) &&
  (match rule.portRange with
    | some pr => pr.fromPort ≤ port && port ≤ pr.toPort
    | none => true) &&
  match rule.source with
  | .cidr cidr => cidr == "0.0.0.0/0" || cidrContains cidr sourceIp
  | .securityGroup _ => true

/-- The verdict on incoming traffic, with the reason. -/
def evaluateRules (rules : List SecurityGroupRule) (port : ℕ) (protocol : Protocol)
    (sourceIp : String) : String × String :=
  let ingress := (rules.filter (·.direction == .ingress)).insertionSort
    fun a b => a.priority ≤ b.priority
  match ingress.find? fun rule => ruleMatches rule port protocol sourceIp with
  | some rule =>
    let desc := rule.description.getD ""
    let reason :=
      if desc == "" then s!"rule {rule.id} (priority {rule.priority})"
      else s!"rule {rule.id} — {desc} (priority {rule.priority})"
    ("ALLOWED", reason)
  | none => ("DENIED", "no matching ingress rule")

end OrgApi

end Syfrah
