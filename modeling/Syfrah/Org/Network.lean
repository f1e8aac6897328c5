import Syfrah.Org.Store

/-!
# The organisation store: VPCs, subnets, peerings, security groups, routes and interfaces
-/

namespace Syfrah

namespace OrgStore

/-! ### Lookups of VPCs -/

/-- The VPC of the first index entry that ends with the name, in key order. -/
def getVpc (db : OrgDb) (name : String) : Option Vpc :=
  match (db.list .vpcNameIndex).find? fun entry => Text.endsWith entry.1 s!"/{name}" with
  | some (_, vpcId) => db.get .vpcs vpcId
  | none => none

def getVpcById (db : OrgDb) (vpcId : VpcId) : Option Vpc := db.get .vpcs vpcId

/-! ### Security groups -/

def sgNameKey (vpcId : VpcId) (name : String) : String := s!"{vpcId}/{name}"

def createSg (name : String) (vpcId : VpcId) (description : Option String) :
    OrgM SecurityGroup := do
  check (validateName name "security group")
  let nameKey := sgNameKey vpcId name
  Tx.rejectIf (← dbExists .sgNameIndex nameKey) (.sgAlreadyExists name)
  let now ← nowSecs
  let id ← generateId "sg"
  let sg : SecurityGroup :=
    { id := id
      name := name
      vpcId := vpcId
      description := description
      isDefault := false
      state := .active
      createdAt := now }
  dbSet .securityGroups id sg
  dbSet .sgNameIndex nameKey id
  return sg

def createDefaultSg (vpc : Vpc) : OrgM SecurityGroup := do
  let now ← nowSecs
  let id ← generateId "sg"
  let sg : SecurityGroup :=
    { id := id
      name := "default"
      vpcId := vpc.id
      description := some s!"Default security group for VPC {vpc.name}"
      isDefault := true
      state := .active
      createdAt := now }
  dbSet .securityGroups id sg
  dbSet .sgNameIndex (sgNameKey vpc.id "default") id
  return sg

def getSg (db : OrgDb) (vpcId : VpcId) (name : String) : Option SecurityGroup :=
  match db.get .sgNameIndex (sgNameKey vpcId name) with
  | some id => db.get .securityGroups id
  | none => none

def listSgs (db : OrgDb) : List SecurityGroup := (db.list .securityGroups).map Prod.snd

def deleteSg (vpcId : VpcId) (name : String) : OrgM Unit := do
  let nameKey := sgNameKey vpcId name
  let sgId ← Tx.orThrow (← dbGet .sgNameIndex nameKey) (.sgNotFound name)
  let sg : SecurityGroup ← Tx.orThrow (← dbGet .securityGroups sgId) (.sgNotFound name)
  Tx.rejectIf sg.isDefault (.sgIsDefault name)
  let _ ← dbDelete .sgNameIndex nameKey
  let _ ← dbDelete .securityGroups sgId

/-- Create a security group in the VPC with the given name. -/
def createSecurityGroup (name vpcName description : String) : OrgM SecurityGroup := do
  let vpc ← Tx.orThrow (← query fun db => getVpc db vpcName) (.notFound s!"VPC '{vpcName}'")
  createSg name vpc.id (some description)

/-- The security group with a name, in one VPC or in all of them. -/
def getSecurityGroup (name : String) (vpcName : Option String) : OrgM (Option SecurityGroup) :=
  match vpcName with
  | some vname => do
      let vpc ← Tx.orThrow (← query fun db => getVpc db vname) (.notFound s!"VPC '{vname}'")
      query fun db => getSg db vpc.id name
  | none => do
      match ← query fun db => (listSgs db).filter fun sg => sg.name == name with
      | [] => return none
      | [sg] => return some sg
      | _ =>
        throw (.ambiguous s!"security group '{name}' exists in multiple VPCs — specify --vpc")

def deleteSecurityGroup (name : String) (vpcName : Option String) : OrgM Unit := do
  let sg ← Tx.orThrow (← getSecurityGroup name vpcName) (.notFound s!"security group '{name}'")
  Tx.rejectIf sg.isDefault (.cannotDelete "cannot delete the default security group")
  deleteSg sg.vpcId name

/-- The first security group with the name, across all VPCs. -/
def findSgByName (db : OrgDb) (name : String) : Option SecurityGroup :=
  ((listSgs db).filter fun sg => sg.name == name).head?

/-! ### Route tables and routes -/

def routeTableNameKey (vpcId : VpcId) (name : String) : String := s!"{vpcId}/{name}"

def routeKey (tableId : RouteTableId) (destination : String) : String := s!"{tableId}/{destination}"

def insertRoute (tableId : RouteTableId) (destination : String) (target : RouteTarget)
    (origin : RouteOrigin) (priority : ℕ) : OrgM Route := do
  let now ← nowSecs
  let id ← generateId "rt"
  let route : Route :=
    { id := id
      routeTableId := tableId
      destination := destination
      target := target
      origin := origin
      status := .active
      priority := priority
      createdAt := now }
  dbSet .routes (routeKey tableId destination) route
  return route

def addSystemRoute (table : RouteTable) (destination : String) : OrgM Route :=
  insertRoute table.id destination .localNet .system 0

def addRoute (tableId : RouteTableId) (destination : String) (target : RouteTarget)
    (priority : Option ℕ) : OrgM Route := do
  Tx.rejectIf (← dbExists .routes (routeKey tableId destination)) (.routeAlreadyExists destination)
  insertRoute tableId destination target .user (priority.getD 100)

def insertRouteTable (name : String) (vpcId : VpcId) (isDefault : Bool) : OrgM RouteTable := do
  let now ← nowSecs
  let id ← generateId "rtb"
  let table : RouteTable :=
    { id := id
      name := name
      vpcId := vpcId
      isDefault := isDefault
      state := .active
      createdAt := now }
  dbSet .routeTables id table
  dbSet .routeTableNameIndex (routeTableNameKey vpcId name) id
  return table

def createDefaultRouteTable (vpc : Vpc) : OrgM RouteTable := do
  let table ← insertRouteTable "default" vpc.id true
  let _ ← addSystemRoute table vpc.cidr
  return table

def createRouteTable (name : String) (vpcId : VpcId) : OrgM RouteTable := do
  check (validateName name "route table")
  Tx.rejectIf (← dbExists .routeTableNameIndex (routeTableNameKey vpcId name))
    (.routeTableAlreadyExists name)
  insertRouteTable name vpcId false

def getRouteTable (db : OrgDb) (vpcId : VpcId) (name : String) : Option RouteTable :=
  match db.get .routeTableNameIndex (routeTableNameKey vpcId name) with
  | some id => db.get .routeTables id
  | none => none

def getDefaultRouteTable (db : OrgDb) (vpcId : VpcId) : Option RouteTable :=
  getRouteTable db vpcId "default"

def listRouteTables (db : OrgDb) : List RouteTable := (db.list .routeTables).map Prod.snd

def listRoutesByTable (db : OrgDb) (tableId : RouteTableId) : List Route :=
  ((db.list .routes).filter fun entry => Text.startsWith entry.1 s!"{tableId}/").map Prod.snd

def countSubnetsForRouteTable (db : OrgDb) (tableId : RouteTableId) : ℕ :=
  ((db.list .subnetRouteAssoc).filter fun entry => entry.2 == tableId).length

def deleteRouteTable (vpcId : VpcId) (name : String) : OrgM Unit := do
  let nameKey := routeTableNameKey vpcId name
  let tableId ← Tx.orThrow (← dbGet .routeTableNameIndex nameKey) (.routeTableNotFound name)
  let table : RouteTable ← Tx.orThrow (← dbGet .routeTables tableId) (.routeTableNotFound name)
  Tx.rejectIf table.isDefault .cannotDeleteDefaultRouteTable
  let assocCount ← query fun db => countSubnetsForRouteTable db table.id
  Tx.rejectIf (0 < assocCount) (.routeTableHasSubnets name assocCount)
  let routes ← query fun db => listRoutesByTable db table.id
  Tx.each (fun route : Route => do
    let _ ← dbDelete .routes (routeKey table.id route.destination)) routes
  let _ ← dbDelete .routeTableNameIndex nameKey
  let _ ← dbDelete .routeTables tableId

def deleteRouteTableByVpcName (vpcName tableName : String) : OrgM Unit := do
  let vpc ← Tx.orThrow (← query fun db => getVpc db vpcName) (.vpcNotFound vpcName)
  deleteRouteTable vpc.id tableName

def createRouteTableByVpcName (name vpcName : String) : OrgM RouteTable := do
  let vpc ← Tx.orThrow (← query fun db => getVpc db vpcName) (.vpcNotFound vpcName)
  createRouteTable name vpc.id

def removeRoute (tableId : RouteTableId) (destination : String) : OrgM Unit := do
  let key := routeKey tableId destination
  let route : Route ← Tx.orThrow (← dbGet .routes key) (.routeNotFound destination)
  match route.origin with
  | .system => throw .cannotDeleteSystemRoute
  | .propagated => throw .cannotDeletePropagatedRoute
  | .user => do
      let _ ← dbDelete .routes key

def removeRouteForce (tableId : RouteTableId) (destination : String) : OrgM Unit := do
  let _ ← dbDelete .routes (routeKey tableId destination)

def associateSubnetRouteTable (subnetId : SubnetId) (tableId : RouteTableId) : OrgM Unit :=
  dbSet .subnetRouteAssoc subnetId tableId

def disassociateSubnetRouteTable (subnetId : SubnetId) : OrgM Unit := do
  let _ ← dbDelete .subnetRouteAssoc subnetId

/-! ### VPCs -/

def vniStart : ℕ := 100

/-- The next network identifier; the counter is stored after it. -/
def nextVni : OrgM ℕ := do
  let current := (← dbGet .vniCounter "counter").getD vniStart
  dbSet .vniCounter "counter" ((current + 1) % 2 ^ 32)
  return current

def resolveOwnerOrgId (owner : VpcOwner) : OrgM OrgId :=
  match owner with
  | .org orgId => pure orgId
  | .project projId => do
      match ← query fun db => getProjectById db projId with
      | some project => return project.orgId
      | none =>
        match Text.splitOnce '/' projId with
        | some (orgName, _) => resolveOrgId orgName
        | none => throw (.notFound projId)

/-- The org of a stored VPC, when its project still exists. -/
def vpcOrg (db : OrgDb) (vpc : Vpc) : Option OrgId :=
  match vpc.owner with
  | .org oid => some oid
  | .project pid => (getProjectById db pid).map (·.orgId)

def existingCidrsForOrg (owner : VpcOwner) : OrgM (List Ipv4Net) := do
  let orgId ← resolveOwnerOrgId owner
  query fun db =>
    ((listVpcs db).filter fun v => vpcOrg db v == some orgId).filterMap fun v =>
      Ipv4Net.parse v.cidr

def vpcOrgScope : VpcOwner → String
  | .org orgId => orgId
  | .project projId => Text.splitHead '/' projId

def vpcNameKey (owner : VpcOwner) (name : String) : String := s!"{vpcOrgScope owner}/{name}"

/-- The owner of a new VPC exists, under its identifier or under its name. -/
def checkOwner (owner : VpcOwner) : OrgM Unit :=
  match owner with
  | .org orgId => do
      match ← dbGet .orgs orgId with
      | some _ => return
      | none => Tx.rejectIf (← get orgId).isNone (.notFound orgId)
  | .project projId => do
      match ← query fun db => getProjectById db projId with
      | some _ => return
      | none =>
        match Text.splitOnce '/' projId with
        | none => throw (.notFound projId)
        | some (orgName, projectName) => do
            Tx.rejectIf (← get orgName).isNone (.notFound orgName)
            Tx.rejectIf (← getProject orgName projectName).isNone
              (.projectNotFound orgName projectName)

/-- Create a VPC with its default security group and its default route table. -/
def createVpc (name cidr : String) (owner : VpcOwner) (shared : Bool) : OrgM Vpc := do
  check (validateName name "vpc")
  let net ← check (parseAndValidateCidr cidr)
  checkOwner owner
  let nameKey := vpcNameKey owner name
  Tx.rejectIf (← dbExists .vpcNameIndex nameKey) (.vpcAlreadyExists name)
  let existing ← existingCidrsForOrg owner
  Tx.rejectSome (existing.find? (cidrsOverlap net)) fun existingCidr =>
    .cidrOverlap net.display existingCidr.display
  let vni ← nextVni
  let now ← nowSecs
  let id ← generateId "vpc"
  let vpc : Vpc :=
    { id := id
      name := name
      cidr := cidr
      vni := vni
      owner := owner
      shared := shared
      createdAt := now }
  dbSet .vpcs id vpc
  dbSet .vpcNameIndex nameKey id
  let _ ← createDefaultSg vpc
  let _ ← createDefaultRouteTable vpc
  return vpc

def listPeerings (db : OrgDb) : List VpcPeering := (db.list .peerings).map Prod.snd

def listPeeringsByVpcId (db : OrgDb) (vpcId : VpcId) : List VpcPeering :=
  (listPeerings db).filter fun p => p.vpcA == vpcId || p.vpcB == vpcId

def deleteVpc (name : String) : OrgM Unit := do
  let vpc ← Tx.orThrow (← query fun db => getVpc db name) (.vpcNotFound name)
  let peerings ← query fun db => listPeeringsByVpcId db vpc.id
  Tx.rejectIf (!peerings.isEmpty) (.vpcHasPeerings name peerings.length)
  let _ ← dbDelete .vpcNameIndex (vpcNameKey vpc.owner name)
  let _ ← dbDelete .vpcs vpc.id

def attachmentKey (vpcId : VpcId) (projectId : String) : String := s!"{vpcId}/{projectId}"

def attachVpc (vpcName projectId : String) : OrgM Unit := do
  let vpc ← Tx.orThrow (← query fun db => getVpc db vpcName) (.vpcNotFound vpcName)
  Tx.rejectIf (!vpc.shared) (.vpcNotShared vpcName)
  let key := attachmentKey vpc.id projectId
  Tx.rejectIf (← dbExists .vpcAttachments key) (.vpcAlreadyAttached vpcName projectId)
  let now ← nowSecs
  dbSet .vpcAttachments key { vpcId := vpc.id, projectId := projectId, attachedAt := now }

def detachVpc (vpcName projectId : String) : OrgM Unit := do
  let vpc ← Tx.orThrow (← query fun db => getVpc db vpcName) (.vpcNotFound vpcName)
  let key := attachmentKey vpc.id projectId
  Tx.rejectIf (!(← dbExists .vpcAttachments key)) (.vpcNotAttached vpcName projectId)
  let _ ← dbDelete .vpcAttachments key

/-! ### Subnets -/

def subnetNameKey (vpcId : VpcId) (subnetName : String) : String := s!"{vpcId}/{subnetName}"

/-- The address ending in .1 of the /24 the network starts in. -/
def computeGateway (cidr : Ipv4Net) : Ipv4Addr :=
  .ofOctets (cidr.network.octet 0) (cidr.network.octet 1) (cidr.network.octet 2) 1

/-- The first of `count` consecutive /24 blocks that passes a test. -/
def searchBlocks (ok : Ipv4Net → Bool) (start : ℕ) : ℕ → Option Ipv4Net
  | 0 => none
  | count + 1 =>
    let candidate : Ipv4Net := ⟨Fin.ofNat _ start, 24⟩
    if ok candidate then some candidate else searchBlocks ok (start + 256) count

/-- The next free /24 of a VPC. The source has one loop for a mask of 8 bits, one for 9 to 16 and one
for 17 to 24; smaller VPCs have no /24. -/
def autoAllocateSubnetCidr (vpcCidr : Ipv4Net) (existing : List Ipv4Net) :
    Except OrgError Ipv4Net :=
  let isFree (candidate : Ipv4Net) : Bool := !existing.any (cidrsOverlap candidate)
  let vpcPrefix := vpcCidr.prefixLen.val
  let netStart := vpcCidr.network.val
  let blocks := (vpcCidr.broadcast.val - netStart) / 256 + 1
  let found :=
    if vpcPrefix = 8 then
      -- second octet up to 255, and every third octet below it
      let second := (vpcCidr.network.octet 1).val
      searchBlocks isFree ((vpcCidr.network.octet 0).val * 2 ^ 24 + second * 2 ^ 16)
        ((256 - second) * 256)
    else if 9 ≤ vpcPrefix ∧ vpcPrefix ≤ 16 then
      searchBlocks (fun candidate => vpcCidr.contains candidate.network &&
        vpcCidr.contains candidate.broadcast && isFree candidate) netStart blocks
    else if 17 ≤ vpcPrefix ∧ vpcPrefix ≤ 24 then
      searchBlocks (fun candidate => candidate.broadcast ≤ vpcCidr.broadcast &&
        isFree candidate) netStart blocks
    else none
  match found with
  | some candidate => .ok candidate
  | none => .error (.subnetCidrExhausted vpcCidr.display)

def listSubnetsByVpcId (db : OrgDb) (vpcId : VpcId) : List Subnet :=
  ((db.list .subnets).filter fun entry => entry.2.vpcId == vpcId).map Prod.snd

def listSubnets (db : OrgDb) (vpcName : String) : List Subnet :=
  match getVpc db vpcName with
  | some vpc => listSubnetsByVpcId db vpc.id
  | none => []

/-- The network of a new subnet: the one asked for, inside the VPC and clear of its subnets, or the
next free /24. -/
def chooseSubnetCidr (vpcCidr : Ipv4Net) (existing : List Ipv4Net) (cidrOpt : Option String) :
    Except OrgError Ipv4Net :=
  match cidrOpt with
  | none => autoAllocateSubnetCidr vpcCidr existing
  | some cidr =>
    match Ipv4Net.parse cidr with
    | none => .error (.invalidCidr s!"'{cidr}': invalid CIDR format")
    | some net =>
      if !vpcCidr.contains net.network || !vpcCidr.contains net.broadcast then
        .error (.subnetCidrOutOfRange net.display vpcCidr.display)
      else
        match existing.find? (cidrsOverlap net) with
        | some other => .error (.subnetCidrOverlap net.display other.display)
        | none => .ok net

/-- The local route of a new subnet, when its VPC still has a default route table. -/
def addSubnetRoute (defaultRt : Option RouteTable) (cidr : String) : OrgM Unit :=
  match defaultRt with
  | some rt => do
      let _ ← addSystemRoute rt cidr
  | none => pure ()

def removeSubnetRoute (defaultRt : Option RouteTable) (cidr : String) : OrgM Unit :=
  match defaultRt with
  | some rt => removeRouteForce rt.id cidr
  | none => pure ()

def createSubnet (vpcName : String) (envId : EnvironmentId) (name : String)
    (cidrOpt : Option String) : OrgM Subnet := do
  check (validateName name "subnet")
  let vpc ← Tx.orThrow (← query fun db => getVpc db vpcName) (.vpcNotFound vpcName)
  Tx.rejectIf (!(← dbExists .environments envId)) (.envNotFound envId)
  let nameKey := subnetNameKey vpc.id name
  Tx.rejectIf (← dbExists .subnetNameIndex nameKey) (.subnetAlreadyExists vpcName name)
  let vpcCidr ← Tx.orThrow (Ipv4Net.parse vpc.cidr)
    (.invalidCidr s!"VPC CIDR is invalid: {vpc.cidr}")
  let existing ← query fun db => (listSubnets db vpcName).filterMap fun s => Ipv4Net.parse s.cidr
  let subnetCidr ← check (chooseSubnetCidr vpcCidr existing cidrOpt)
  let now ← nowSecs
  let id ← generateId "sub"
  let subnet : Subnet :=
    { id := id
      name := name
      vpcId := vpc.id
      envId := envId
      cidr := subnetCidr.display
      gateway := (computeGateway subnetCidr).display
      createdAt := now }
  dbSet .subnets id subnet
  dbSet .subnetNameIndex nameKey id
  addSubnetRoute (← query fun db => getDefaultRouteTable db vpc.id) subnet.cidr
  return subnet

def getSubnetById (db : OrgDb) (subnetId : String) : Option Subnet := db.get .subnets subnetId

/-- The subnets with a name, each with the name of its VPC. -/
def findSubnetsByName (db : OrgDb) (subnetName : String) : List (String × Subnet) :=
  (((db.list .subnets).map Prod.snd).filter fun s => s.name == subnetName).map fun s =>
    (((getVpcById db s.vpcId).map (·.name)).getD s.vpcId, s)

def deleteSubnet (vpcName subnetName : String) : OrgM Unit := do
  let vpc ← Tx.orThrow (← query fun db => getVpc db vpcName) (.vpcNotFound vpcName)
  let nameKey := subnetNameKey vpc.id subnetName
  let subnetId ← Tx.orThrow (← dbGet .subnetNameIndex nameKey)
    (.subnetNotFound vpcName subnetName)
  let subnet : Subnet ← Tx.orThrow (← dbGet .subnets subnetId)
    (.subnetNotFound vpcName subnetName)
  removeSubnetRoute (← query fun db => getDefaultRouteTable db subnet.vpcId) subnet.cidr
  disassociateSubnetRouteTable subnet.id
  let _ ← dbDelete .subnetNameIndex nameKey
  let _ ← dbDelete .subnets subnetId

/-! ### Peerings -/

/-- The key of a pair of VPCs, whatever their order, and the pair in order. -/
def peeringNameKey (vpcAId vpcBId : VpcId) : String × VpcId × VpcId :=
  if vpcAId ≤ vpcBId then (s!"{vpcAId}/{vpcBId}", vpcAId, vpcBId)
  else (s!"{vpcBId}/{vpcAId}", vpcBId, vpcAId)

/-- The first peering between two VPCs, in key order. -/
def findPeering (db : OrgDb) (nameKey : String) : Option VpcPeering :=
  (listPeerings db).find? fun p => (peeringNameKey p.vpcA p.vpcB).1 == nameKey

def createPeering (vpcA vpcB : String) : OrgM VpcPeering := do
  Tx.rejectIf (vpcA == vpcB) (.selfPeeringRejected vpcA)
  let vpcAObj ← Tx.orThrow (← query fun db => getVpc db vpcA) (.vpcNotFound vpcA)
  let vpcBObj ← Tx.orThrow (← query fun db => getVpc db vpcB) (.vpcNotFound vpcB)
  let (nameKey, aId, bId) := peeringNameKey vpcAObj.id vpcBObj.id
  Tx.rejectIf (← query fun db => findPeering db nameKey).isSome (.peeringAlreadyExists vpcA vpcB)
  let now ← nowSecs
  let id ← generateId "peer"
  let peering : VpcPeering :=
    { id := id
      vpcA := aId
      vpcB := bId
      status := .active
      createdAt := now }
  dbSet .peerings id peering
  return peering

def deletePeering (vpcA vpcB : String) : OrgM Unit := do
  let vpcAObj ← Tx.orThrow (← query fun db => getVpc db vpcA) (.vpcNotFound vpcA)
  let vpcBObj ← Tx.orThrow (← query fun db => getVpc db vpcB) (.vpcNotFound vpcB)
  let nameKey := (peeringNameKey vpcAObj.id vpcBObj.id).1
  let peering ← Tx.orThrow (← query fun db => findPeering db nameKey) (.peeringNotFound vpcA vpcB)
  let _ ← dbDelete .peerings peering.id

/-! ### NAT gateways -/

def natGwNameKey (vpcId : VpcId) (name : String) : String := s!"{vpcId}/{name}"

def createNatGw (name : String) (vpcId : VpcId) (subnetId : SubnetId) (publicIp : String) :
    OrgM NatGateway := do
  check (validateName name "nat-gw")
  let nameKey := natGwNameKey vpcId name
  Tx.rejectIf (← dbExists .natGwNameIndex nameKey) (.natGwAlreadyExists name)
  let now ← nowSecs
  let id ← generateId "nat"
  let gw : NatGateway :=
    { id := id
      name := name
      vpcId := vpcId
      subnetId := subnetId
      publicIp := publicIp
      state := .pending
      createdAt := now }
  dbSet .natGateways id gw
  dbSet .natGwNameIndex nameKey id
  return gw

def getNatGwByName (name : String) : OrgM (Option NatGateway) := do
  match ← query fun db => ((db.list .natGateways).map Prod.snd).filter fun g => g.name == name with
  | [] => return none
  | [gw] => return some gw
  | gws =>
    throw (.ambiguous s!"nat-gw name '{name}' exists in {gws.length} VPCs — specify --vpc")

def deleteNatGw (vpcId : VpcId) (name : String) : OrgM Unit := do
  let nameKey := natGwNameKey vpcId name
  let gwId ← Tx.orThrow (← dbGet .natGwNameIndex nameKey) (.natGwNotFound name)
  let _ ← dbDelete .natGwNameIndex nameKey
  let _ ← dbDelete .natGateways gwId

/-! ### Network interfaces -/

def createNic (nic : NetworkInterface) : OrgM Unit := do
  Tx.rejectIf (← dbExists .nics nic.id) (.nicAlreadyExists nic.id)
  dbSet .nics nic.id nic

def deleteNic (nicId : String) : OrgM Unit := do
  let existed ← dbDelete .nics nicId
  Tx.rejectIf (!existed) (.nicNotFound nicId)

/-- A security group by identifier, or by its key in the name index. -/
def resolveSgRef (db : OrgDb) (sgRef : String) : Option SecurityGroup :=
  match db.get .securityGroups sgRef with
  | some sg => some sg
  | none =>
    match db.get .sgNameIndex sgRef with
    | some sgId => db.get .securityGroups sgId
    | none => none

def attachSgToNic (sgRef nicId : String) : OrgM NetworkInterface := do
  let sg ← Tx.orThrow (← query fun db => resolveSgRef db sgRef) (.sgNotFound sgRef)
  let nic : NetworkInterface ← Tx.orThrow (← dbGet .nics nicId) (.nicNotFound nicId)
  Tx.rejectIf (sg.vpcId != nic.vpcId) (.sgVpcMismatch sg.name sg.vpcId nic.vpcId)
  Tx.rejectIf (nic.securityGroups.contains sg.id) (.sgAlreadyAttached sg.name nic.name)
  let nic := { nic with securityGroups := nic.securityGroups ++ [sg.id] }
  dbSet .nics nicId nic
  return nic

def detachSgFromNic (sgRef nicId : String) : OrgM NetworkInterface := do
  let sg ← Tx.orThrow (← query fun db => resolveSgRef db sgRef) (.sgNotFound sgRef)
  let nic : NetworkInterface ← Tx.orThrow (← dbGet .nics nicId) (.nicNotFound nicId)
  Tx.rejectIf (!nic.securityGroups.contains sg.id) (.sgNotAttached nic.name sg.name)
  Tx.rejectIf (nic.securityGroups.length ≤ 1) (.lastSgDetach nic.name)
  let nic := { nic with securityGroups := nic.securityGroups.filter fun id => id != sg.id }
  dbSet .nics nicId nic
  return nic

end OrgStore

end Syfrah
