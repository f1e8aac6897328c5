import Syfrah.Proof.Frame

/-!
# Which tables of the organisation store a command can touch

`orgTables` says which tables of the organisation store a command may write to. All other tables stay as
they were, whether the command succeeds or not.
-/

namespace Syfrah

open Replica Tx

def Writes (ts : List OrgTable) (s s' : OrgDb × Ambient) : Prop :=
  ∀ t, t ∉ ts → s'.1.table t = s.1.table t

variable {ts : List OrgTable} {α : Type}

instance : IsPreorder (OrgDb × Ambient) (Writes ts) where
  refl _ _ _ := rfl
  trans _ _ _ h h' t ht := (h' t ht).trans (h t ht)

namespace Writes

theorem mono {us : List OrgTable} {m : OrgM α} (hm : Steps (Writes us) m) (h : us ⊆ ts) :
    Steps (Writes ts) m :=
  hm.mono fun _ _ hs t ht => hs t fun hmem => ht (h hmem)

theorem set {t : OrgTable} (ht : t ∈ ts) {key : String} {value : t.Row} :
    Steps (Writes ts) (dbSet t key value : OrgM Unit) :=
  fun s u hu => s.1.table_set_of_ne (fun h : u = t => hu (h ▸ ht)) key value

theorem erase {t : OrgTable} (ht : t ∈ ts) {key : String} : Steps (Writes ts) (dbDelete t key : OrgM Bool) :=
  fun s u hu => s.1.table_delete_of_ne (fun h : u = t => hu (h ▸ ht)) key

theorem now : Steps (Writes ts) (nowSecs : OrgM ℕ) := fun _ _ _ => rfl

theorem draw {word : String} : Steps (Writes ts) (generateId word : OrgM String) := fun _ _ _ => rfl

theorem checked {x : Except OrgError α} : Steps (Writes ts) (OrgStore.check x : OrgM α) := by
  cases x with
  | ok a => exact .pure
  | error e => exact .throw

end Writes

namespace OrgStore

open Writes

/-! ### Orgs, projects and environments -/

theorem writes_create (name : String) : Steps (Writes [.orgs, .orgNameIdx]) (create name) :=
  .bind checked fun _ => .bind .read fun _ => .bind .rejectIf fun _ => .bind .read fun _ =>
    .bind .rejectIf fun _ => .bind now fun _ => .bind draw fun _ => .bind (set (by decide)) fun _ =>
    .bind (set (by decide)) fun _ => .pure

theorem writes_get (name : String) : Steps (Writes [.orgs, .orgNameIdx]) (get name) := by
  refine .bind .read fun found => ?_
  cases found with
  | some id => exact .read
  | none =>
      refine .bind .read fun legacy => ?_
      cases legacy with
      | none => exact .pure
      | some org =>
          exact .bind (.bind draw fun _ => .bind (set (by decide)) fun _ => .bind (set (by decide)) fun _ =>
            .bind (erase (by decide)) fun _ => .pure) fun _ => .pure

theorem writes_resolveOrgId (name : String) : Steps (Writes [.orgs, .orgNameIdx]) (resolveOrgId name) := by
  refine .bind .read fun found => ?_
  cases found with
  | some id => exact .pure
  | none =>
      refine .bind (writes_get name) fun org => ?_
      cases org with
      | some org => exact .pure
      | none => exact .throw

theorem writes_delete (name : String) : Steps (Writes [.orgs, .orgNameIdx]) (delete name) :=
  .bind (writes_get name) fun _ => .bind .orThrow fun _ => .bind .read fun _ => .bind .rejectIf fun _ =>
    .bind .read fun _ => .bind .rejectIf fun _ => .bind (erase (by decide)) fun _ =>
    .bind (erase (by decide)) fun _ => .pure

/-- The tables that operations on projects write to. -/
abbrev projectTables : List OrgTable := [.orgs, .orgNameIdx, .projects, .projectNameIdx]

theorem writes_createProject (org name : String) : Steps (Writes projectTables) (createProject org name) :=
  .bind checked fun _ => .bind (mono (writes_get org) (by decide)) fun _ => .bind .orThrow fun _ =>
    .bind .read fun _ => .bind .rejectIf fun _ => .bind .read fun _ => .bind .rejectIf fun _ =>
    .bind now fun _ => .bind draw fun _ => .bind (set (by decide)) fun _ => .bind (set (by decide)) fun _ => .pure

theorem writes_getProject (org name : String) : Steps (Writes projectTables) (getProject org name) := by
  refine .bind .read fun found => ?_
  cases found with
  | some id => exact .read
  | none =>
      refine .bind .read fun legacy => ?_
      cases legacy with
      | none => exact .pure
      | some project =>
          exact .bind (.bind draw fun _ => .bind (mono (writes_get org) (by decide)) fun _ =>
            .bind (set (by decide)) fun _ => .bind (set (by decide)) fun _ => .bind (erase (by decide)) fun _ =>
            .pure) fun _ => .pure

theorem writes_deleteProject (org name : String) : Steps (Writes projectTables) (deleteProject org name) :=
  .bind (writes_getProject org name) fun _ => .bind .orThrow fun _ => .bind .read fun _ => .bind .rejectIf fun _ =>
    .bind (erase (by decide)) fun _ => .bind (erase (by decide)) fun _ => .pure

/-- The tables that operations on environments write to. -/
abbrev envTables : List OrgTable := projectTables ++ [.environments, .envNameIdx]

theorem writes_createEnv (org project name : String) (ttl : Option ℕ) (deletionProtection : Bool) (labels : Labels) :
    Steps (Writes envTables) (createEnv org project name ttl deletionProtection labels) :=
  .bind checked fun _ => .bind (mono (writes_getProject org project) (by decide)) fun _ => .bind .orThrow fun _ =>
    .bind .read fun _ => .bind .rejectIf fun _ => .bind .read fun _ => .bind .rejectIf fun _ =>
    .bind now fun _ => .bind draw fun _ => .bind (set (by decide)) fun _ => .bind (set (by decide)) fun _ => .pure

theorem writes_getEnv (org project name : String) : Steps (Writes envTables) (getEnv org project name) := by
  refine .bind .read fun found => ?_
  cases found with
  | some id => exact .bind .read fun _ => .orThrow
  | none =>
      refine .bind .read fun legacy => ?_
      cases legacy with
      | none => exact .throw
      | some env =>
          exact .bind draw fun _ => .bind (mono (writes_getProject org project) (by decide)) fun _ =>
            .bind (set (by decide)) fun _ => .bind (set (by decide)) fun _ => .bind (erase (by decide)) fun _ => .pure

theorem writes_extendEnv (org project name : String) (ttl : ℕ) :
    Steps (Writes envTables) (extendEnv org project name ttl) :=
  .bind (writes_getEnv org project name) fun _ => .bind now fun _ => .bind (set (by decide)) fun _ => .pure

theorem writes_updateEnvProtection (org project name : String) (enabled : Bool) :
    Steps (Writes envTables) (updateEnvProtection org project name enabled) :=
  .bind (writes_getEnv org project name) fun _ => .bind (set (by decide)) fun _ => .pure

theorem writes_deleteEnv (org project name : String) : Steps (Writes envTables) (deleteEnv org project name) :=
  .bind (writes_getEnv org project name) fun _ => .bind .rejectIf fun _ => .bind (erase (by decide)) fun _ =>
    .bind (erase (by decide)) fun _ => .pure

/-! ### Security groups -/

abbrev groupTables : List OrgTable := [.securityGroups, .sgNameIndex]

theorem writes_createSecurityGroup (name vpcName description : String) :
    Steps (Writes groupTables) (createSecurityGroup name vpcName description) :=
  .bind .read fun _ => .bind .orThrow fun _ => .bind checked fun _ => .bind .read fun _ => .bind .rejectIf fun _ =>
    .bind now fun _ => .bind draw fun _ => .bind (set (by decide)) fun _ => .bind (set (by decide)) fun _ => .pure

theorem writes_createDefaultSg (vpc : Vpc) : Steps (Writes groupTables) (createDefaultSg vpc) :=
  .bind now fun _ => .bind draw fun _ => .bind (set (by decide)) fun _ => .bind (set (by decide)) fun _ => .pure

theorem writes_getSecurityGroup (name : String) (vpcName : Option String) :
    Steps (Writes ts) (getSecurityGroup name vpcName) := by
  cases vpcName with
  | some vname => exact .bind .read fun _ => .bind .orThrow fun _ => .read
  | none =>
      refine .bind .read fun sgs => ?_
      split
      · exact .pure
      · exact .pure
      · exact .throw

theorem writes_deleteSecurityGroup (name : String) (vpcName : Option String) :
    Steps (Writes groupTables) (deleteSecurityGroup name vpcName) :=
  .bind (writes_getSecurityGroup name vpcName) fun _ => .bind .orThrow fun _ => .bind .rejectIf fun _ =>
    .bind .read fun _ => .bind .orThrow fun _ => .bind .read fun _ => .bind .orThrow fun _ => .bind .rejectIf fun _ =>
    .bind (erase (by decide)) fun _ => .bind (erase (by decide)) fun _ => .pure

/-! ### Route tables and routes -/

theorem writes_insertRoute (tableId : RouteTableId) (destination : String) (target : RouteTarget)
    (origin : RouteOrigin) (priority : ℕ) :
    Steps (Writes [.routes]) (insertRoute tableId destination target origin priority) :=
  .bind now fun _ => .bind draw fun _ => .bind (set (by decide)) fun _ => .pure

theorem writes_addRoute (tableId : RouteTableId) (destination : String) (target : RouteTarget) (priority : Option ℕ) :
    Steps (Writes [.routes]) (addRoute tableId destination target priority) :=
  .bind .read fun _ => .bind .rejectIf fun _ => writes_insertRoute _ _ _ _ _

theorem writes_insertRouteTable (name : String) (vpcId : VpcId) (isDefault : Bool) :
    Steps (Writes [.routeTables, .routeTableNameIndex]) (insertRouteTable name vpcId isDefault) :=
  .bind now fun _ => .bind draw fun _ => .bind (set (by decide)) fun _ => .bind (set (by decide)) fun _ => .pure

abbrev routeTableTables : List OrgTable := [.routeTables, .routeTableNameIndex, .routes]

theorem writes_createDefaultRouteTable (vpc : Vpc) : Steps (Writes routeTableTables) (createDefaultRouteTable vpc) :=
  .bind (mono (writes_insertRouteTable _ _ _) (by decide)) fun _ =>
    .bind (mono (writes_insertRoute _ _ _ _ _) (by decide)) fun _ => .pure

theorem writes_createRouteTableByVpcName (name vpcName : String) :
    Steps (Writes [.routeTables, .routeTableNameIndex]) (createRouteTableByVpcName name vpcName) :=
  .bind .read fun _ => .bind .orThrow fun _ => .bind checked fun _ => .bind .read fun _ => .bind .rejectIf fun _ =>
    writes_insertRouteTable _ _ _

theorem writes_deleteRouteTable (vpcId : VpcId) (name : String) :
    Steps (Writes routeTableTables) (deleteRouteTable vpcId name) :=
  .bind .read fun _ => .bind .orThrow fun _ => .bind .read fun _ => .bind .orThrow fun _ => .bind .rejectIf fun _ =>
    .bind .read fun _ => .bind .rejectIf fun _ => .bind .read fun routes =>
    .bind (.each (fun _ => .bind (erase (by decide)) fun _ => .pure) routes) fun _ =>
    .bind (erase (by decide)) fun _ => .bind (erase (by decide)) fun _ => .pure

theorem writes_removeRoute (tableId : RouteTableId) (destination : String) :
    Steps (Writes [.routes]) (removeRoute tableId destination) := by
  refine .bind .read fun _ => .bind .orThrow fun route => ?_
  split
  · exact .throw
  · exact .throw
  · exact .bind (erase (by decide)) fun _ => .pure

theorem writes_disassociateSubnetRouteTable (subnetId : SubnetId) :
    Steps (Writes [.subnetRouteAssoc]) (disassociateSubnetRouteTable subnetId) :=
  .bind (erase (by decide)) fun _ => .pure

/-! ### VPCs -/

theorem writes_existingCidrsForOrg (owner : VpcOwner) :
    Steps (Writes [.orgs, .orgNameIdx]) (existingCidrsForOrg owner) := by
  refine .bind ?_ fun _ => .read
  cases owner with
  | org orgId => exact .pure
  | project projId =>
      refine .bind .read fun project => ?_
      cases project with
      | some project => exact .pure
      | none =>
          dsimp only
          split
          · exact writes_resolveOrgId _
          · exact .throw

theorem writes_checkOwner (owner : VpcOwner) : Steps (Writes projectTables) (checkOwner owner) := by
  cases owner with
  | org orgId =>
      refine .bind .read fun org => ?_
      cases org with
      | some org => exact .pure
      | none => exact .bind (mono (writes_get orgId) (by decide)) fun _ => .rejectIf
  | project projId =>
      refine .bind .read fun project => ?_
      cases project with
      | some project => exact .pure
      | none =>
          dsimp only
          split
          · exact .throw
          · exact .bind (mono (writes_get _) (by decide)) fun _ => .bind .rejectIf fun _ =>
              .bind (writes_getProject _ _) fun _ => .rejectIf

abbrev vpcTables : List OrgTable :=
  projectTables ++ [.vniCounter, .vpcs, .vpcNameIndex] ++ groupTables ++ routeTableTables

theorem writes_createVpc (name cidr : String) (owner : VpcOwner) (shared : Bool) :
    Steps (Writes vpcTables) (createVpc name cidr owner shared) :=
  .bind checked fun _ => .bind checked fun _ => .bind (mono (writes_checkOwner owner) (by decide)) fun _ =>
    .bind .read fun _ => .bind .rejectIf fun _ => .bind (mono (writes_existingCidrsForOrg owner) (by decide)) fun _ =>
    .bind .rejectSome fun _ => .bind (.bind .read fun _ => .bind (set (by decide)) fun _ => .pure) fun _ =>
    .bind now fun _ => .bind draw fun _ => .bind (set (by decide)) fun _ => .bind (set (by decide)) fun _ =>
    .bind (mono (writes_createDefaultSg _) (by decide)) fun _ =>
    .bind (mono (writes_createDefaultRouteTable _) (by decide)) fun _ => .pure

theorem writes_deleteVpc (name : String) : Steps (Writes [.vpcNameIndex, .vpcs]) (deleteVpc name) :=
  .bind .read fun _ => .bind .orThrow fun _ => .bind .read fun _ => .bind .rejectIf fun _ =>
    .bind (erase (by decide)) fun _ => .bind (erase (by decide)) fun _ => .pure

theorem writes_attachVpc (vpcName projectId : String) :
    Steps (Writes [.vpcAttachments]) (attachVpc vpcName projectId) :=
  .bind .read fun _ => .bind .orThrow fun _ => .bind .rejectIf fun _ => .bind .read fun _ => .bind .rejectIf fun _ =>
    .bind now fun _ => set (by decide)

theorem writes_detachVpc (vpcName projectId : String) :
    Steps (Writes [.vpcAttachments]) (detachVpc vpcName projectId) :=
  .bind .read fun _ => .bind .orThrow fun _ => .bind .read fun _ => .bind .rejectIf fun _ =>
    .bind (erase (by decide)) fun _ => .pure

/-! ### Subnets -/

theorem writes_addSubnetRoute (table : Option RouteTable) (cidr : String) :
    Steps (Writes [.routes]) (addSubnetRoute table cidr) := by
  cases table with
  | none => exact .pure
  | some table => exact .bind (writes_insertRoute _ _ _ _ _) fun _ => .pure

theorem writes_removeSubnetRoute (table : Option RouteTable) (cidr : String) :
    Steps (Writes [.routes]) (removeSubnetRoute table cidr) := by
  cases table with
  | none => exact .pure
  | some table => exact .bind (erase (by decide)) fun _ => .pure

theorem writes_createSubnet (vpcName : String) (envId : EnvironmentId) (name : String) (cidrOpt : Option String) :
    Steps (Writes [.subnets, .subnetNameIndex, .routes]) (createSubnet vpcName envId name cidrOpt) :=
  .bind checked fun _ => .bind .read fun _ => .bind .orThrow fun _ => .bind .read fun _ => .bind .rejectIf fun _ =>
    .bind .read fun _ => .bind .rejectIf fun _ => .bind .orThrow fun _ => .bind .read fun _ => .bind checked fun _ =>
    .bind now fun _ => .bind draw fun _ => .bind (set (by decide)) fun _ => .bind (set (by decide)) fun _ =>
    .bind .read fun _ => .bind (mono (writes_addSubnetRoute _ _) (by decide)) fun _ => .pure

theorem writes_deleteSubnet (vpcName subnetName : String) :
    Steps (Writes [.subnets, .subnetNameIndex, .subnetRouteAssoc, .routes]) (deleteSubnet vpcName subnetName) :=
  .bind .read fun _ => .bind .orThrow fun _ => .bind .read fun _ => .bind .orThrow fun _ => .bind .read fun _ =>
    .bind .orThrow fun _ => .bind .read fun _ => .bind (mono (writes_removeSubnetRoute _ _) (by decide)) fun _ =>
    .bind (mono (writes_disassociateSubnetRouteTable _) (by decide)) fun _ => .bind (erase (by decide)) fun _ =>
    .bind (erase (by decide)) fun _ => .pure

/-! ### Peerings, NAT gateways and interfaces -/

theorem writes_createPeering (vpcA vpcB : String) : Steps (Writes [.peerings]) (createPeering vpcA vpcB) :=
  .bind .rejectIf fun _ => .bind .read fun _ => .bind .orThrow fun _ => .bind .read fun _ => .bind .orThrow fun _ =>
    .bind .read fun _ => .bind .rejectIf fun _ => .bind now fun _ => .bind draw fun _ =>
    .bind (set (by decide)) fun _ => .pure

theorem writes_deletePeering (vpcA vpcB : String) : Steps (Writes [.peerings]) (deletePeering vpcA vpcB) :=
  .bind .read fun _ => .bind .orThrow fun _ => .bind .read fun _ => .bind .orThrow fun _ => .bind .read fun _ =>
    .bind .orThrow fun _ => .bind (erase (by decide)) fun _ => .pure

abbrev natGwTables : List OrgTable := [.natGateways, .natGwNameIndex]

theorem writes_createNatGw (name : String) (vpcId : VpcId) (subnetId : SubnetId) (publicIp : String) :
    Steps (Writes natGwTables) (createNatGw name vpcId subnetId publicIp) :=
  .bind checked fun _ => .bind .read fun _ => .bind .rejectIf fun _ => .bind now fun _ => .bind draw fun _ =>
    .bind (set (by decide)) fun _ => .bind (set (by decide)) fun _ => .pure

theorem writes_getNatGwByName (name : String) : Steps (Writes ts) (getNatGwByName name) := by
  refine .bind .read fun gws => ?_
  split
  · exact .pure
  · exact .pure
  · exact .throw

theorem writes_deleteNatGw (vpcId : VpcId) (name : String) : Steps (Writes natGwTables) (deleteNatGw vpcId name) :=
  .bind .read fun _ => .bind .orThrow fun _ => .bind (erase (by decide)) fun _ =>
    .bind (erase (by decide)) fun _ => .pure

theorem writes_createNic (nic : NetworkInterface) : Steps (Writes [.nics]) (createNic nic) :=
  .bind .read fun _ => .bind .rejectIf fun _ => set (by decide)

theorem writes_deleteNic (nicId : String) : Steps (Writes [.nics]) (deleteNic nicId) :=
  .bind (erase (by decide)) fun _ => .rejectIf

theorem writes_attachSgToNic (sgRef nicId : String) : Steps (Writes [.nics]) (attachSgToNic sgRef nicId) :=
  .bind .read fun _ => .bind .orThrow fun _ => .bind .read fun _ => .bind .orThrow fun _ => .bind .rejectIf fun _ =>
    .bind .rejectIf fun _ => .bind (set (by decide)) fun _ => .pure

theorem writes_detachSgFromNic (sgRef nicId : String) : Steps (Writes [.nics]) (detachSgFromNic sgRef nicId) :=
  .bind .read fun _ => .bind .orThrow fun _ => .bind .read fun _ => .bind .orThrow fun _ => .bind .rejectIf fun _ =>
    .bind .rejectIf fun _ => .bind (set (by decide)) fun _ => .pure

end OrgStore

/-! ### Commands -/

namespace Command

open OrgStore

def orgTables : Command → List OrgTable
  | createOrg .. | deleteOrg .. => [.orgs, .orgNameIdx]
  | createProject .. | deleteProject .. => projectTables
  | createEnv .. | deleteEnv .. | extendEnv .. | updateEnv .. => envTables
  | createVpc .. => vpcTables
  | deleteVpc .. => [.vpcNameIndex, .vpcs]
  | attachVpc .. | detachVpc .. => [.vpcAttachments]
  | peerVpc .. | unpeerVpc .. => [.peerings]
  | createSubnet .. => vpcTables ++ [.subnets, .subnetNameIndex]
  | deleteSubnet .. => [.subnets, .subnetNameIndex, .subnetRouteAssoc, .routes]
  | createSg .. | deleteSg .. => groupTables
  | createNatGw .. | deleteNatGw .. => natGwTables
  | createRouteTable .. => [.routeTables, .routeTableNameIndex]
  | deleteRouteTable .. => routeTableTables
  | associateRouteTable .. | disassociateRouteTable .. => [.subnetRouteAssoc]
  | addRoute .. | deleteRoute .. => [.routes]
  | attachSg .. | detachSg .. | createNic .. | deleteNic .. => [.nics]
  | _ => []

end Command

/-- Only the given tables of the organisation store may differ. -/
def OrgWrites (ts : List OrgTable) (r r' : Replica) : Prop :=
  ∀ t, t ∉ ts → r'.sm.orgStore.table t = r.sm.orgStore.table t

instance : IsPreorder Replica (OrgWrites ts) where
  refl _ _ _ := rfl
  trans _ _ _ h h' t ht := (h' t ht).trans (h t ht)

namespace OrgWrites

theorem zoom {us : List OrgTable} {m : OrgM α} (hm : Steps (Writes us) m) (h : us ⊆ ts) :
    Steps (OrgWrites ts) (Tx.zoom orgLens m) :=
  fun r => Writes.mono hm h (orgLens.get r)

theorem org {us : List OrgTable} {m : OrgM α} (hm : Steps (Writes us) m) (h : us ⊆ ts) :
    Steps (OrgWrites ts) (Replica.org m) :=
  (zoom hm h).mapError _

theorem look {f : OrgDb → α} : Steps (OrgWrites ts) (Replica.org (query f)) := fun _ _ _ => rfl

end OrgWrites

namespace Handle

open OrgWrites OrgStore

theorem orgWrites_autoCreateVpc (vpc : String) : Steps (OrgWrites vpcTables) (autoCreateVpc vpc) := by
  refine .bind look fun missing => ?_
  split
  · split
    · exact .pure
    · refine .bind (.result (zoom (writes_createVpc _ _ _ _) (by decide))) fun result => ?_
      cases result with
      | ok vpc => exact .pure
      | error e => exact .throw
  · exact .pure

theorem orgWrites_createNatGw (name vpc subnet : String) :
    Steps (OrgWrites natGwTables) (createNatGw name vpc subnet) := by
  refine .bind (.bind look fun _ => .orThrow) fun vpcObj => .bind look fun inVpc => ?_
  split
  · exact .throw
  · exact .bind (org (writes_createNatGw _ _ _ _) (by decide)) fun _ => .pure
  · exact .throw

theorem orgWrites_uniqueSubnet (subnet : String) : Steps (OrgWrites ts) (uniqueSubnet subnet) := by
  refine .bind look fun found => ?_
  split
  · exact .pure
  · exact .throw
  · exact .throw

theorem writes_deleteRouteTableNamed (name : String) (vpc : Option String) :
    Steps (Writes routeTableTables) (Handle.deleteRouteTable name vpc) := by
  cases vpc with
  | some vname => exact .bind .read fun _ => .bind .orThrow fun _ => writes_deleteRouteTable _ _
  | none =>
      refine .bind .read fun found => ?_
      split
      · exact .throw
      · exact writes_deleteRouteTable _ _
      · exact .throw

theorem orgWrites_createNic (vmId subnetId ip mac : String) :
    Steps (OrgWrites [.nics]) (createNic vmId subnetId ip mac) := by
  refine .bind look fun _ => .bind (fun _ _ _ => rfl) fun _ =>
    .bind (.result (zoom (writes_createNic _) (by decide))) fun result => ?_
  cases result with
  | ok _ => exact .pure
  | error e =>
      dsimp only
      split
      · exact .pure
      · exact .throw

end Handle

open Handle OrgStore OrgWrites in
theorem orgWrites_handle (c : Command) (hc : c.stores = [.org]) : Steps (OrgWrites c.orgTables) (handle c) := by
  have hone : ∀ {α : Type} {m : OrgM α} {us : List OrgTable} {response : α → StateMachineResponse},
      Steps (Writes us) m → Steps (OrgWrites us) (do return response (← Replica.org m)) :=
    fun hm => .bind (org hm fun _ h => h) fun _ => .pure
  cases c with
  | createOrg => exact hone (writes_create _)
  | deleteOrg => exact hone (writes_delete _)
  | createProject => exact hone (writes_createProject _ _)
  | deleteProject => exact hone (writes_deleteProject _ _)
  | createEnv => exact hone (writes_createEnv _ _ _ _ _ _)
  | deleteEnv => exact hone (writes_deleteEnv _ _ _)
  | extendEnv => exact hone (writes_extendEnv _ _ _ _)
  | updateEnv name project org deletionProtection =>
      cases deletionProtection with
      | none => exact .throw
      | some enabled => exact hone (writes_updateEnvProtection _ _ _ _)
  | createVpc => exact hone (writes_createVpc _ _ _ _)
  | deleteVpc => exact hone (writes_deleteVpc _)
  | attachVpc => exact hone (writes_attachVpc _ _)
  | detachVpc => exact hone (writes_detachVpc _ _)
  | peerVpc => exact hone (writes_createPeering _ _)
  | unpeerVpc => exact hone (writes_deletePeering _ _)
  | createSubnet name vpc envId cidr =>
      refine .bind ((orgWrites_autoCreateVpc vpc).mono fun _ _ h t ht => h t fun hmem => ht (List.mem_append_left _ hmem))
        fun _ => .bind (org (writes_createSubnet _ _ _ _) (show _ ⊆ vpcTables ++ [OrgTable.subnets, .subnetNameIndex] by decide))
          fun _ => .pure
  | deleteSubnet => exact hone (writes_deleteSubnet _ _)
  | createSg => exact hone (writes_createSecurityGroup _ _ _)
  | deleteSg => exact hone (writes_deleteSecurityGroup _ _)
  | attachSg => exact hone (writes_attachSgToNic _ _)
  | detachSg => exact hone (writes_detachSgFromNic _ _)
  | createNatGw => exact orgWrites_createNatGw _ _ _
  | deleteNatGw name =>
      exact .bind (org (writes_getNatGwByName name) fun _ h => h) fun _ => .bind .orThrow fun _ =>
        hone (writes_deleteNatGw _ _)
  | createRouteTable => exact hone (writes_createRouteTableByVpcName _ _)
  | deleteRouteTable => exact hone (writes_deleteRouteTableNamed _ _)
  | associateRouteTable table subnet =>
      exact .bind (orgWrites_uniqueSubnet subnet) fun _ => .bind (.bind look fun _ => .orThrow) fun _ =>
        hone (Writes.set (List.mem_singleton_self _))
  | disassociateRouteTable subnet =>
      exact .bind (orgWrites_uniqueSubnet subnet) fun _ => hone (writes_disassociateSubnetRouteTable _)
  | addRoute =>
      exact .bind (.bind look fun _ => .orThrow) fun _ => .bind (.bind look fun _ => .orThrow) fun _ =>
        .bind .orThrow fun _ => hone (writes_addRoute _ _ _ _)
  | deleteRoute =>
      exact .bind (.bind look fun _ => .orThrow) fun _ => .bind (.bind look fun _ => .orThrow) fun _ =>
        hone (writes_removeRoute _ _)
  | createNic => exact orgWrites_createNic _ _ _ _
  | deleteNic => exact hone (writes_deleteNic _)
  | _ => cases hc

theorem Command.stores_org (c : Command) : c.stores = [.org] ∨ .org ∉ c.stores := by
  cases c <;> simp [Command.stores]

/-- **Frame of a command in the organisation store.** It writes only to its tables. -/
theorem orgTable_applySingle (c : Command) (r : Replica) {t : OrgTable} (ht : t ∉ c.orgTables) :
    (applySingle c r).2.sm.orgStore.table t = r.sm.orgStore.table t := by
  rcases c.stores_org with hc | hc
  · exact orgWrites_handle c hc r t ht
  · have hstore := (only_applySingle c r).store .org hc
    exact congrArg (fun db => LayerDb.table db t) (Option.some.inj hstore)

end Syfrah
