import Syfrah.Org.Types

/-!
# Errors of the organisation layer

The constructors and the texts of the error type of the source, as far as a modelled operation
returns them.
-/

namespace Syfrah

inductive OrgError
  | alreadyExists (name : String)
  | notFound (name : String)
  | orgHasProjects (name : String)
  | orgHasVpcs (org : String) (count : ℕ)
  | projectAlreadyExists (org project : String)
  | projectNotFound (org project : String)
  | projectHasEnvironments (org project : String)
  | envAlreadyExists (name : String)
  | envNotFound (name : String)
  | envProtected (name : String)
  | vpcAlreadyExists (name : String)
  | vpcNotFound (name : String)
  | invalidName (context reason : String)
  | invalidCidr (reason : String)
  | cidrOverlap (newCidr existingCidr : String)
  | vpcHasPeerings (name : String) (count : ℕ)
  | vpcNotShared (name : String)
  | vpcAlreadyAttached (vpc project : String)
  | vpcNotAttached (vpc project : String)
  | peeringAlreadyExists (vpcA vpcB : String)
  | peeringNotFound (vpcA vpcB : String)
  | selfPeeringRejected (name : String)
  | subnetAlreadyExists (vpc subnet : String)
  | subnetNotFound (vpc subnet : String)
  | subnetCidrOutOfRange (cidr vpcCidr : String)
  | subnetCidrOverlap (newCidr existingCidr : String)
  | subnetCidrExhausted (vpcCidr : String)
  | cidrExhausted
  | ipExhausted (subnet : String)
  | ipNotFound (subnet ip : String)
  | ipAlreadyAssigned (subnet ip : String)
  | routeTableAlreadyExists (name : String)
  | routeTableNotFound (name : String)
  | cannotDeleteDefaultRouteTable
  | routeTableHasSubnets (name : String) (count : ℕ)
  | routeAlreadyExists (destination : String)
  | routeNotFound (destination : String)
  | cannotDeleteSystemRoute
  | cannotDeletePropagatedRoute
  | natGwAlreadyExists (name : String)
  | natGwNotFound (name : String)
  | sgAlreadyExists (name : String)
  | sgNotFound (name : String)
  | sgIsDefault (name : String)
  | ruleAlreadyExists (id : String)
  | ruleNotFound (id : String)
  | invalidPortRange (reason : String)
  | nicAlreadyExists (id : String)
  | nicNotFound (id : String)
  | sgNotAttached (nic sg : String)
  | ambiguous (text : String)
  | cannotDelete (text : String)
  | invalidStateTransition (fromState toState : String)
  | sgAlreadyAttached (sg nic : String)
  | sgVpcMismatch (sg sgVpc nicVpc : String)
  | lastSgDetach (nic : String)
deriving DecidableEq, Repr

namespace OrgError

def display : OrgError → String
  | alreadyExists name => s!"org already exists: {name}"
  | notFound name => s!"org not found: {name}"
  | orgHasProjects name => s!"org has projects and cannot be deleted: {name}"
  | orgHasVpcs org count => s!"org has {count} VPC(s) — delete them first: {org}"
  | projectAlreadyExists org project => s!"project already exists: {project} in org {org}"
  | projectNotFound org project => s!"project not found: {project} in org {org}"
  | projectHasEnvironments org project =>
      s!"project has environments and cannot be deleted: {project} in org {org}"
  | envAlreadyExists name => s!"environment already exists: {name}"
  | envNotFound name => s!"environment not found: {name}"
  | envProtected name => s!"environment is protected from deletion: {name}"
  | vpcAlreadyExists name => s!"vpc already exists: {name}"
  | vpcNotFound name => s!"vpc not found: {name}"
  | invalidName context reason => s!"invalid {context} name: {reason}"
  | invalidCidr reason => s!"invalid CIDR: {reason}"
  | cidrOverlap newCidr existingCidr =>
      s!"CIDR overlap: {newCidr} overlaps with existing {existingCidr}"
  | vpcHasPeerings name count => s!"cannot delete vpc '{name}': has {count} active peering(s)"
  | vpcNotShared name => s!"vpc is not shared: {name}"
  | vpcAlreadyAttached vpc project => s!"project '{project}' is already attached to vpc '{vpc}'"
  | vpcNotAttached vpc project => s!"project '{project}' is not attached to vpc '{vpc}'"
  | peeringAlreadyExists vpcA vpcB => s!"peering already exists between '{vpcA}' and '{vpcB}'"
  | peeringNotFound vpcA vpcB => s!"peering not found between '{vpcA}' and '{vpcB}'"
  | selfPeeringRejected name => s!"cannot peer a VPC with itself: {name}"
  | subnetAlreadyExists vpc subnet => s!"subnet already exists: {vpc}/{subnet}"
  | subnetNotFound vpc subnet => s!"subnet not found: {vpc}/{subnet}"
  | subnetCidrOutOfRange cidr vpcCidr => s!"subnet CIDR {cidr} is outside VPC range {vpcCidr}"
  | subnetCidrOverlap newCidr existingCidr =>
      s!"subnet CIDR {newCidr} overlaps with existing subnet {existingCidr}"
  | subnetCidrExhausted vpcCidr => s!"no available /24 block in VPC CIDR {vpcCidr}"
  | cidrExhausted => "no available CIDR block in the auto-allocation range"
  | ipExhausted subnet => s!"no available IP in subnet: {subnet}"
  | ipNotFound subnet ip => s!"IP allocation not found: {ip} in subnet {subnet}"
  | ipAlreadyAssigned subnet ip => s!"IP already assigned: {ip} in subnet {subnet}"
  | routeTableAlreadyExists name => s!"route table already exists: {name}"
  | routeTableNotFound name => s!"route table not found: {name}"
  | cannotDeleteDefaultRouteTable => "cannot delete the default route table"
  | routeTableHasSubnets name count =>
      s!"route table '{name}' is associated with {count} subnet(s) — disassociate them first"
  | routeAlreadyExists destination => s!"route already exists for destination: {destination}"
  | routeNotFound destination => s!"route not found for destination: {destination}"
  | cannotDeleteSystemRoute => "cannot delete system-managed route"
  | cannotDeletePropagatedRoute => "cannot delete propagated route — remove the peering instead"
  | natGwAlreadyExists name => s!"nat-gw already exists: {name}"
  | natGwNotFound name => s!"nat-gw not found: {name}"
  | sgAlreadyExists name => s!"security group already exists: {name}"
  | sgNotFound name => s!"security group not found: {name}"
  | sgIsDefault name => s!"cannot delete default security group: {name}"
  | ruleAlreadyExists id => s!"security group rule already exists: {id}"
  | ruleNotFound id => s!"security group rule not found: {id}"
  | invalidPortRange reason => s!"invalid port range: {reason}"
  | nicAlreadyExists id => s!"nic already exists: {id}"
  | nicNotFound id => s!"nic not found: {id}"
  | sgNotAttached nic sg => s!"security group '{sg}' is not attached to nic '{nic}'"
  | ambiguous text => text
  | cannotDelete text => text
  | invalidStateTransition fromState toState =>
      s!"invalid state transition: {fromState} → {toState}"
  | sgAlreadyAttached sg nic => s!"security group '{sg}' is already attached to NIC '{nic}'"
  | sgVpcMismatch sg sgVpc nicVpc =>
      s!"security group '{sg}' is not in the same VPC as VM's subnet " ++
        s!"(sg vpc: {sgVpc}, nic vpc: {nicVpc})"
  | lastSgDetach nic =>
      s!"cannot detach the last security group from NIC '{nic}' " ++
        "— a NIC must always have at least one SG"

end OrgError

end Syfrah
