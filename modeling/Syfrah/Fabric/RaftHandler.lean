import Syfrah.ControlPlane.Commands

/-!
# From requests to replicated commands

Requests of operators that change the organisation store are turned into commands and submitted to
the log. A request without a command is answered by the local handler, or is resolved against the
store first.
-/

namespace Syfrah

/-- A request that changes the organisation store. -/
inductive OrgRequest
  | orgCreate (name : String)
  | orgDelete (name : String)
  | projectCreate (name org : String)
  | projectDelete (name org : String)
  | envCreate (name project org : String) (ttl : Option ℕ) (deletionProtection : Bool)
      (labels : Labels)
  | envDestroy (name project org : String)
  | envExtend (name project org : String) (ttlSeconds : ℕ)
  | envUpdate (name project org : String) (deletionProtection : Option Bool)
  | vpcCreate (name org : String) (project : Option String) (shared : Bool) (cidr : Option String)
  | vpcDelete (name : String)
  | vpcAttach (vpc project : String)
  | vpcDetach (vpc project : String)
  | vpcPeer (source target : String)
  | vpcUnpeer (source target : String)
  | subnetCreate (name env project org : String) (vpc cidr : Option String)
  | subnetDelete (name : String) (vpc : Option String)
  | sgCreate (name vpc description : String)
  | sgDelete (name : String) (vpc : Option String)
  | sgAttach (sg : String) (vm nic : Option String)
  | sgDetach (sg : String) (vm nic : Option String)
  | sgAddRule (sg direction protocol : String) (port source sourceSg : Option String)
      (description : String) (priority : ℕ)
  | sgRemoveRule (sg ruleId : String)
  | natGwCreate (name vpc subnet : String)
  | natGwDelete (name : String)
  | routeTableCreate (name vpc : String)
  | routeTableDelete (name : String) (vpc : Option String)
  | routeTableAssociate (table subnet : String)
  | routeTableDisassociate (subnet : String)
  | routeAdd (vpc : String) (table : Option String) (destination target : String)
      (priority : Option ℕ)
  | routeDelete (vpc : String) (table : Option String) (destination : String)

/-- The command for a new VPC, with its owner as text and a default network. -/
def vpcCreateCommand (name org : String) (project : Option String) (shared : Bool)
    (cidr : Option String) : Option Command :=
  let owner := if shared then some org else project.map fun p => s!"{org}/{p}"
  let cidrStr := cidr.getD (if shared then "10.100.0.0/16" else "10.1.0.0/16")
  owner.map fun owner => .createVpc name cidrStr owner shared

/-- The command of a request, for those that need no lookup first. -/
def toRaftCommand : OrgRequest → Option Command
  | .orgCreate name => some (.createOrg name)
  | .orgDelete name => some (.deleteOrg name)
  | .projectCreate name org => some (.createProject name org)
  | .projectDelete name org => some (.deleteProject name org)
  | .envCreate name project org ttl deletionProtection labels =>
      some (.createEnv name project org ttl deletionProtection labels)
  | .envDestroy name project org => some (.deleteEnv name project org)
  | .envExtend name project org ttlSeconds => some (.extendEnv name project org ttlSeconds)
  | .envUpdate name project org deletionProtection =>
      some (.updateEnv name project org deletionProtection)
  | .vpcCreate name org project shared cidr => vpcCreateCommand name org project shared cidr
  | .vpcDelete name => some (.deleteVpc name)
  | .vpcAttach vpc project => some (.attachVpc vpc project)
  | .vpcDetach vpc project => some (.detachVpc vpc project)
  | .vpcPeer source target => some (.peerVpc source target)
  | .vpcUnpeer source target => some (.unpeerVpc source target)
  | .subnetCreate .. => none
  | .subnetDelete name vpc => vpc.map fun vpc => .deleteSubnet name vpc
  | .sgCreate name vpc _ => some (.createSg name vpc)
  | .sgDelete name _ => some (.deleteSg name)
  | .sgAttach .. | .sgDetach .. => none
  -- the group the traffic comes from, the description and the priority are not passed on
  | .sgAddRule sg direction protocol port source _ _ _ =>
      some (.addSgRule sg direction protocol port (source.getD "0.0.0.0/0"))
  | .sgRemoveRule sg ruleId => some (.removeSgRule sg ruleId)
  | .natGwCreate name vpc subnet => some (.createNatGw name vpc subnet)
  | .natGwDelete name => some (.deleteNatGw name)
  | .routeTableCreate name vpc => some (.createRouteTable name vpc)
  | .routeTableDelete name vpc => some (.deleteRouteTable name vpc)
  | .routeTableAssociate table subnet => some (.associateRouteTable table subnet)
  | .routeTableDisassociate subnet => some (.disassociateRouteTable subnet)
  | .routeAdd vpc table destination target priority =>
      some (.addRoute vpc table destination target priority)
  | .routeDelete vpc table destination => some (.deleteRoute vpc table destination)

end Syfrah
