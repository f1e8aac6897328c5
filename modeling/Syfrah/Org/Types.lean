import Syfrah.State.LayerDb
import Syfrah.Lib.Ipv4

/-!
# Records of the organisation layer

Identifiers are wrappers around strings in the source and stay strings here. Timestamps are seconds
since the epoch.
-/

namespace Syfrah

abbrev OrgId := String
abbrev ProjectId := String
abbrev EnvironmentId := String
abbrev VpcId := String
abbrev SubnetId := String
abbrev PeeringId := String
abbrev SecurityGroupId := String
abbrev NicId := String
abbrev RuleId := String
abbrev RouteTableId := String
abbrev RouteId := String
abbrev NatGatewayId := String
abbrev HypervisorId := String

/-- String labels; the source keeps them in a hash map and never iterates it. -/
abbrev Labels := Table String

inductive ResourceState
  | pending
  | active
  | failed
  | deleting
  | deleted
deriving DecidableEq, Repr

structure Org where
  id : OrgId
  name : String
  createdAt : ℕ
deriving DecidableEq

structure Project where
  id : ProjectId
  name : String
  orgId : OrgId
  createdAt : ℕ
deriving DecidableEq

structure Environment where
  id : EnvironmentId
  name : String
  projectId : ProjectId
  ttl : Option ℕ
  deletionProtection : Bool
  labels : Labels
  createdAt : ℕ
  expiresAt : Option ℕ
deriving DecidableEq

/-- The owner of a VPC: a project, or an org for a shared VPC. -/
inductive VpcOwner
  | project (id : ProjectId)
  | org (id : OrgId)
deriving DecidableEq

structure Vpc where
  id : VpcId
  name : String
  cidr : String
  vni : ℕ
  owner : VpcOwner
  shared : Bool
  createdAt : ℕ
deriving DecidableEq

structure VpcAttachment where
  vpcId : VpcId
  projectId : ProjectId
  attachedAt : ℕ
deriving DecidableEq

structure Subnet where
  id : SubnetId
  name : String
  vpcId : VpcId
  envId : EnvironmentId
  cidr : String
  gateway : String
  createdAt : ℕ
deriving DecidableEq

inductive PeeringStatus
  | active
  | pending
  | deleted
deriving DecidableEq

structure VpcPeering where
  id : PeeringId
  vpcA : VpcId
  vpcB : VpcId
  status : PeeringStatus
  createdAt : ℕ
deriving DecidableEq

structure SecurityGroup where
  id : SecurityGroupId
  name : String
  vpcId : VpcId
  description : Option String
  isDefault : Bool
  state : ResourceState
  createdAt : ℕ
deriving DecidableEq

structure NetworkInterface where
  id : NicId
  name : String
  vmId : Option String
  subnetId : SubnetId
  vpcId : VpcId
  privateIp : String
  mac : String
  securityGroups : List SecurityGroupId
  state : ResourceState
  createdAt : ℕ
deriving DecidableEq

inductive Direction
  | ingress
  | egress
deriving DecidableEq

inductive Protocol
  | tcp
  | udp
  | icmp
  | all
deriving DecidableEq

structure PortRange where
  fromPort : ℕ
  toPort : ℕ
deriving DecidableEq

inductive RuleSource
  | cidr (cidr : String)
  | securityGroup (sg : SecurityGroupId)
deriving DecidableEq

structure SecurityGroupRule where
  id : RuleId
  sgId : SecurityGroupId
  direction : Direction
  protocol : Protocol
  portRange : Option PortRange
  source : RuleSource
  priority : ℕ
  description : Option String
deriving DecidableEq

structure RouteTable where
  id : RouteTableId
  name : String
  vpcId : VpcId
  isDefault : Bool
  state : ResourceState
  createdAt : ℕ
deriving DecidableEq

inductive RouteTarget
  | localNet
  | natGateway (id : NatGatewayId)
  | vpcPeering (id : PeeringId)
  | blackhole
deriving DecidableEq

inductive RouteOrigin
  | system
  | user
  | propagated
deriving DecidableEq

inductive RouteStatus
  | active
  | blackhole
deriving DecidableEq

structure Route where
  id : RouteId
  routeTableId : RouteTableId
  destination : String
  target : RouteTarget
  origin : RouteOrigin
  status : RouteStatus
  priority : ℕ
  createdAt : ℕ
deriving DecidableEq

structure NatGateway where
  id : NatGatewayId
  name : String
  vpcId : VpcId
  subnetId : SubnetId
  publicIp : String
  state : ResourceState
  createdAt : ℕ
deriving DecidableEq

inductive PlacementAction
  | add
  | remove
deriving DecidableEq

/-- Which hypervisor a VM runs on, with its network coordinates. -/
structure VmPlacement where
  vpcId : VpcId
  vmId : String
  vmMac : String
  vmIp : String
  subnetId : SubnetId
  hypervisorId : String
  action : PlacementAction
  createdAt : ℕ
  placementGeneration : ℕ
deriving DecidableEq

inductive HypervisorState
  | registering
  | notReady
  | available
  | draining
  | maintenance
  | decommissioned
deriving DecidableEq

def HypervisorState.display : HypervisorState → String
  | .registering => "Registering"
  | .notReady => "NotReady"
  | .available => "Available"
  | .draining => "Draining"
  | .maintenance => "Maintenance"
  | .decommissioned => "Decommissioned"

inductive TaintEffect
  | noSchedule
  | noExecute
deriving DecidableEq

structure Taint where
  key : String
  value : Option String
  effect : TaintEffect
deriving DecidableEq

structure AllocatableCapacity where
  allocatableVcpus : ℕ := 0
  allocatableMemoryMb : ℕ := 0
  usedVcpus : ℕ := 0
  usedMemoryMb : ℕ := 0
  availableVcpus : ℕ := 0
  availableMemoryMb : ℕ := 0
deriving DecidableEq

structure Hypervisor where
  id : HypervisorId
  name : String
  region : String
  zone : String
  state : HypervisorState
  fabricNodeId : String
  publicIp : String
  fabricIpv6 : String
  capacity : AllocatableCapacity
  labels : Labels
  taints : List Taint
  createdAt : ℕ
deriving DecidableEq

end Syfrah
