import Syfrah.Proof.Tenants
import Syfrah.State.Integrity

/-!
# References between the records of the organisation store

Records refer to each other by identifier. The operations that create and delete records are followed
one by one: which of them look for references before they delete, and which take an identifier as it is
given.
-/

namespace Syfrah

open OrgStore Tx

/-! ### The references -/

def routeTargetRefs : RouteTarget → List (Ref OrgTable)
  | .natGateway id => [(.natGateways, id)]
  | .vpcPeering id => [(.peerings, id)]
  | .localNet | .blackhole => []

/-- What the records of the organisation store refer to. -/
def orgRefs : (t : OrgTable) → t.Row → List (Ref OrgTable)
  | .projects, p => [(.orgs, p.orgId)]
  | .environments, e => [(.projects, e.projectId)]
  | .subnets, s => [(.vpcs, s.vpcId), (.environments, s.envId)]
  | .nics, n => (.subnets, n.subnetId) :: n.securityGroups.map fun sg => (.securityGroups, sg)
  | .securityGroups, sg => [(.vpcs, sg.vpcId)]
  | .routeTables, t => [(.vpcs, t.vpcId)]
  | .routes, r => (.routeTables, r.routeTableId) :: routeTargetRefs r.target
  | .peerings, p => [(.vpcs, p.vpcA), (.vpcs, p.vpcB)]
  | .vpcAttachments, a => [(.vpcs, a.vpcId)]
  | _, _ => []

/-- Records are stored under their identifier, and routes under their table and destination. -/
def orgKeyed : (t : OrgTable) → String → t.Row → Prop
  | .orgs, key, org => org.id = key
  | .projects, key, project => project.id = key
  | .environments, key, env => env.id = key
  | .vpcs, key, vpc => vpc.id = key
  | .securityGroups, key, sg => sg.id = key
  | .routeTables, key, table => table.id = key
  | .routes, key, route => routeKey route.routeTableId route.destination = key
  | _, _, _ => True

def orgRefSchema : RefSchema OrgTable.Row := ⟨orgRefs, orgKeyed⟩

def ruleRefs (rule : SecurityGroupRule) : List (Ref OrgTable) :=
  (.securityGroups, rule.sgId) :: match rule.source with
    | .cidr _ => []
    | .securityGroup sg => [(.securityGroups, sg)]

def rulesRefs (rules : SgRuleDb) : List (Ref OrgTable) :=
  (rules.list .sgRules).flatMap fun entry => ruleRefs entry.2

/-! ### The operations -/

/-- The organisation store, the store of the rules and the outside of the node. -/
structure OrgState where
  org : OrgDb
  rules : SgRuleDb
  ambient : Ambient

namespace OrgState

def onOrg {α : Type} (m : OrgM α) (s : OrgState) : Except OrgError Unit × OrgState :=
  ((m (s.org, s.ambient)).1.map fun _ => (),
    { s with org := (m (s.org, s.ambient)).2.1, ambient := (m (s.org, s.ambient)).2.2 })

def onRules {α : Type} (m : SgRuleM α) (s : OrgState) : Except OrgError Unit × OrgState :=
  ((m (s.rules, s.ambient)).1.map fun _ => (),
    { s with rules := (m (s.rules, s.ambient)).2.1, ambient := (m (s.rules, s.ambient)).2.2 })

def empty (ambient : Ambient) : OrgState := ⟨.empty, .empty, ambient⟩

/-- Every stored reference names a record that exists. -/
def RefsExist (s : OrgState) : Prop :=
  (∀ t key row, s.org.get t key = some row → ∀ ref ∈ orgRefs t row, s.org.present ref = true) ∧
    ∀ key rule, s.rules.get .sgRules key = some rule → ∀ ref ∈ ruleRefs rule,
      s.org.present ref = true

def unreferenced (s : OrgState) (ref : Ref OrgTable) : Bool :=
  orgRefSchema.unreferenced OrgTable.tableNames (rulesRefs s.rules) s.org ref

end OrgState

/-- The operations that create and delete records. -/
inductive StoreOp
  | createOrg (name : String)
  | deleteOrg (name : String)
  | createProject (org name : String)
  | deleteProject (org name : String)
  | createEnv (org project name : String) (ttl : Option ℕ) (deletionProtection : Bool)
      (labels : Labels)
  | deleteEnv (org project name : String)
  | createVpc (name cidr : String) (owner : VpcOwner) (shared : Bool)
  | deleteVpc (name : String)
  | attachVpc (vpcName projectId : String)
  | detachVpc (vpcName projectId : String)
  | createSubnet (vpcName : String) (envId : EnvironmentId) (name : String)
      (cidrOpt : Option String)
  | deleteSubnet (vpcName subnetName : String)
  | createPeering (vpcA vpcB : String)
  | deletePeering (vpcA vpcB : String)
  | createSg (name : String) (vpcId : VpcId) (description : Option String)
  | createSecurityGroup (name vpcName description : String)
  | deleteSg (vpcId : VpcId) (name : String)
  | deleteSecurityGroup (name : String) (vpcName : Option String)
  | addRule (rule : SecurityGroupRule)
  | removeRule (ruleId : String)
  | createNic (nic : NetworkInterface)
  | deleteNic (nicId : String)
  | createRouteTable (name : String) (vpcId : VpcId)
  | createRouteTableByVpcName (name vpcName : String)
  | deleteRouteTable (vpcId : VpcId) (name : String)
  | deleteRouteTableByVpcName (vpcName tableName : String)
  | addRoute (tableId : RouteTableId) (destination : String) (target : RouteTarget)
      (priority : Option ℕ)
  | removeRoute (tableId : RouteTableId) (destination : String)
  | createNatGw (name : String) (vpcId : VpcId) (subnetId : SubnetId) (publicIp : String)
  | deleteNatGw (vpcId : VpcId) (name : String)

namespace StoreOp

open OrgState

def apply : StoreOp → OrgState → Except OrgError Unit × OrgState
  | createOrg name => onOrg (OrgStore.create name)
  | deleteOrg name => onOrg (OrgStore.delete name)
  | createProject org name => onOrg (OrgStore.createProject org name)
  | deleteProject org name => onOrg (OrgStore.deleteProject org name)
  | createEnv org project name ttl deletionProtection labels =>
      onOrg (OrgStore.createEnv org project name ttl deletionProtection labels)
  | deleteEnv org project name => onOrg (OrgStore.deleteEnv org project name)
  | createVpc name cidr owner shared => onOrg (OrgStore.createVpc name cidr owner shared)
  | deleteVpc name => onOrg (OrgStore.deleteVpc name)
  | attachVpc vpcName projectId => onOrg (OrgStore.attachVpc vpcName projectId)
  | detachVpc vpcName projectId => onOrg (OrgStore.detachVpc vpcName projectId)
  | createSubnet vpcName envId name cidrOpt =>
      onOrg (OrgStore.createSubnet vpcName envId name cidrOpt)
  | deleteSubnet vpcName subnetName => onOrg (OrgStore.deleteSubnet vpcName subnetName)
  | createPeering vpcA vpcB => onOrg (OrgStore.createPeering vpcA vpcB)
  | deletePeering vpcA vpcB => onOrg (OrgStore.deletePeering vpcA vpcB)
  | createSg name vpcId description => onOrg (OrgStore.createSg name vpcId description)
  | createSecurityGroup name vpcName description =>
      onOrg (OrgStore.createSecurityGroup name vpcName description)
  | deleteSg vpcId name => onOrg (OrgStore.deleteSg vpcId name)
  | deleteSecurityGroup name vpcName => onOrg (OrgStore.deleteSecurityGroup name vpcName)
  | addRule rule => onRules (SgRuleStore.addRule rule)
  | removeRule ruleId => onRules (SgRuleStore.removeRule ruleId)
  | createNic nic => onOrg (OrgStore.createNic nic)
  | deleteNic nicId => onOrg (OrgStore.deleteNic nicId)
  | createRouteTable name vpcId => onOrg (OrgStore.createRouteTable name vpcId)
  | createRouteTableByVpcName name vpcName =>
      onOrg (OrgStore.createRouteTableByVpcName name vpcName)
  | deleteRouteTable vpcId name => onOrg (OrgStore.deleteRouteTable vpcId name)
  | deleteRouteTableByVpcName vpcName tableName =>
      onOrg (OrgStore.deleteRouteTableByVpcName vpcName tableName)
  | addRoute tableId destination target priority =>
      onOrg (OrgStore.addRoute tableId destination target priority)
  | removeRoute tableId destination => onOrg (OrgStore.removeRoute tableId destination)
  | createNatGw name vpcId subnetId publicIp =>
      onOrg (OrgStore.createNatGw name vpcId subnetId publicIp)
  | deleteNatGw vpcId name => onOrg (OrgStore.deleteNatGw vpcId name)

end StoreOp

/-! ### Stores without loose references -/

abbrev Sound (rules : SgRuleDb) (db : OrgDb) : Prop := orgRefSchema.Integral (rulesRefs rules) db

def indexTables : List OrgTable :=
  [.subnetRouteAssoc, .vniCounter, .orgNameIdx, .projectNameIdx, .envNameIdx, .vpcNameIndex,
    .subnetNameIndex, .sgNameIndex, .natGwNameIndex, .routeTableNameIndex]

def referencedTables : List OrgTable :=
  [.orgs, .projects, .environments, .vpcs, .subnets, .securityGroups, .routeTables, .natGateways,
    .peerings]

theorem orgRefs_of_mem_indexTables {t : OrgTable} (ht : t ∈ indexTables) (row : t.Row) :
    orgRefs t row = [] := by
  cases t <;> first | rfl | exact absurd ht (by decide)

theorem orgKeyed_of_mem_indexTables {t : OrgTable} (ht : t ∈ indexTables) (key : String)
    (row : t.Row) : orgKeyed t key row := by
  cases t <;> trivial

theorem fst_mem_of_mem_orgRefs {t : OrgTable} {row : t.Row} {ref : Ref OrgTable}
    (h : ref ∈ orgRefs t row) : ref.1 ∈ referencedTables := by
  cases t <;> simp only [orgRefs, List.mem_cons, List.not_mem_nil, or_false, List.mem_map] at h
  case projects | environments | securityGroups | routeTables | vpcAttachments =>
    simp [h, referencedTables]
  case subnets | peerings => rcases h with rfl | rfl <;> simp [referencedTables]
  case nics => rcases h with rfl | ⟨_, -, rfl⟩ <;> simp [referencedTables]
  case routes =>
    rcases h with rfl | h
    · simp [referencedTables]
    · cases htarget : row.target <;> simp only [htarget, routeTargetRefs, List.mem_cons,
        List.not_mem_nil, or_false] at h <;> simp [h, referencedTables]

theorem routes_of_refers {t : OrgTable} {row : t.Row} {id : String}
    (h : (.routeTables, id) ∈ orgRefs t row) : t = .routes := by
  cases t <;> simp [orgRefs] at h ⊢

theorem routeTableId_of_refers {route : Route} {id : String}
    (h : (.routeTables, id) ∈ orgRefs .routes route) : route.routeTableId = id := by
  rcases List.mem_cons.mp h with heq | htarget
  · exact (congrArg Prod.snd heq).symm
  · cases hroute : route.target <;> simp [hroute, routeTargetRefs] at htarget

theorem mem_listRoutesByTable {db : OrgDb} {tableId : RouteTableId} {route : Route}
    (h : db.get .routes (routeKey tableId route.destination) = some route) :
    route ∈ listRoutesByTable db tableId := by
  refine List.mem_map.mpr ⟨(routeKey tableId route.destination, route), List.mem_filter.mpr
    ⟨Std.ExtTreeMap.mem_toList_iff_getElem?_eq_some.mpr h, ?_⟩, rfl⟩
  change (tableId ++ "/").toList.isPrefixOf (tableId ++ "/" ++ route.destination).toList = true
  simp

theorem fst_of_mem_rulesRefs {rules : SgRuleDb} {ref : Ref OrgTable} (h : ref ∈ rulesRefs rules) :
    ref.1 = .securityGroups := by
  obtain ⟨entry, -, hmem⟩ := List.mem_flatMap.mp h
  simp only [ruleRefs, List.mem_cons] at hmem
  rcases hmem with rfl | hmem
  · rfl
  · split at hmem <;> simp only [List.mem_cons, List.not_mem_nil, or_false] at hmem
    rw [hmem]

namespace Sound

variable {rules : SgRuleDb} {db : OrgDb} {t : OrgTable} {key : String}

theorem setIndex (h : Sound rules db) (ht : t ∈ indexTables) (row : t.Row) :
    Sound rules (db.set t key row) :=
  h.set (orgKeyed_of_mem_indexTables ht key row) fun ref hmem => by
    rw [show orgRefSchema.refs t row = [] from orgRefs_of_mem_indexTables ht row] at hmem
    cases hmem

theorem setIndexed (h : Sound rules db) {row : t.Row} (hkeyed : orgKeyed t key row)
    (hrefs : ∀ ref ∈ orgRefs t row, (db.set t key row).present ref = true) {u : OrgTable}
    (hu : u ∈ indexTables) {key' : String} {row' : u.Row} :
    Sound rules ((db.set t key row).set u key' row') :=
  setIndex (h.set hkeyed hrefs) hu row'

theorem deleteLeaf (h : Sound rules db) (ht : t ∉ referencedTables) :
    Sound rules (db.delete t key) := by
  refine h.delete ⟨fun u key' row _ hmem => ht (fst_mem_of_mem_orgRefs hmem), fun hmem => ht ?_⟩
  rw [show t = .securityGroups from fst_of_mem_rulesRefs hmem]
  decide

theorem present_of_get (h : Sound rules db) {row : t.Row} (hget : db.get t key = some row)
    {id : String} (hid : orgKeyed t key row → id = key) : db.present (t, id) = true := by
  rw [hid (h.keyed t key row hget), LayerDb.present, hget]
  rfl

theorem present_namedOrg (h : Sound rules db) {name : String} {org : Org}
    (hnamed : namedOrg db name = some org) : db.present (.orgs, org.id) = true := by
  obtain ⟨id, -, hget⟩ := Option.bind_eq_some_iff.mp hnamed
  exact h.present_of_get hget fun hkeyed => hkeyed

theorem present_namedProject (h : Sound rules db) {org name : String} {project : Project}
    (hnamed : namedProject db org name = some project) :
    db.present (.projects, project.id) = true := by
  obtain ⟨id, -, hget⟩ := Option.bind_eq_some_iff.mp hnamed
  exact h.present_of_get hget fun hkeyed => hkeyed

theorem present_getVpc (h : Sound rules db) {name : String} {vpc : Vpc}
    (hvpc : getVpc db name = some vpc) : db.present (.vpcs, vpc.id) = true := by
  obtain ⟨_, id, -, -, hget⟩ := entry_of_getVpc hvpc
  exact h.present_of_get (t := .vpcs) hget fun hkeyed => hkeyed

theorem present_getRouteTable (h : Sound rules db) {vpcId : VpcId} {name : String}
    {table : RouteTable} (htable : getRouteTable db vpcId name = some table) :
    db.present (.routeTables, table.id) = true := by
  unfold getRouteTable at htable
  split at htable
  · exact h.present_of_get htable fun hkeyed => hkeyed
  · cases htable

end Sound

/-! ### Environments by name -/

/-- The environment that the index has under a name. -/
def namedEnv (db : OrgDb) (org project name : String) : Option Environment :=
  (db.get .envNameIdx (envNameKey org project name)).bind fun id => db.get .environments id

/-- The lookup of the environment moves no record. -/
def envSettled (db : OrgDb) (org project name : String) : Bool :=
  (db.get .envNameIdx (envNameKey org project name)).isSome ||
    (db.get .environments (envNameKey org project name)).isNone

theorem getEnv_of_settled {s : OrgDb × Ambient} {org project name : String}
    (h : envSettled s.1 org project name = true) :
    Ensures (getEnv org project name) s fun result t =>
      t = s ∧ ∀ env, result = .ok env → namedEnv s.1 org project name = some env := by
  unfold Ensures getEnv namedEnv
  rw [dbGet_bind_apply]
  cases hidx : s.1.get .envNameIdx (envNameKey org project name) with
  | some id =>
      dsimp only
      rw [dbGet_bind_apply, Option.bind_some]
      cases s.1.get .environments id with
      | some env => exact ⟨rfl, fun _ h => congrArg some (Except.ok.inj h)⟩
      | none => exact ⟨rfl, nofun⟩
  | none =>
      rw [envSettled, hidx, Option.isSome_none, Bool.false_or, Option.isNone_iff_eq_none] at h
      dsimp only
      rw [dbGet_bind_apply, h]
      exact ⟨rfl, nofun⟩

/-! ### Orgs, projects and environments -/

section Operations

variable {rules : SgRuleDb} {s : OrgDb × Ambient}

theorem sound_create (h : Sound rules s.1) (name : String) :
    Ensures (create name) s fun _ t => Sound rules t.1 := by
  refine .check (fun _ _ => h) fun _ _ => .read (.rejectIf (fun _ => h) fun _ =>
    .read (.rejectIf (fun _ => h) fun _ => .take (.take (.write (.write (.pure ?_))))))
  exact h.setIndexed (by rfl) (by simp [orgRefs]) (by decide)

theorem sound_delete (h : Sound rules s.1) {name : String} (hsettled : orgSettled s.1 name = true)
    (hfree : ∀ org, namedOrg s.1 name = some org → listVpcsByOrg s.1 org.id = [] →
      listProjects s.1 name = [] →
        orgRefSchema.Unreferenced (rulesRefs rules) s.1 (.orgs, org.id)) :
    Ensures (delete name) s fun _ t => Sound rules t.1 := by
  refine .bind_ok (get_of_settled hsettled) (.orThrow (fun _ => h) fun org horg => .read
    (.rejectIf (fun _ => h) fun hvpcs => .read (.rejectIf (fun _ => h) fun hprojects =>
      .take (.take (.pure ?_)))))
  exact Sound.deleteLeaf (h.delete (hfree org horg (by simpa using hvpcs)
    (by simpa using hprojects))) (by decide)

theorem sound_createProject (h : Sound rules s.1) {org : String}
    (hsettled : orgSettled s.1 org = true) (name : String) :
    Ensures (createProject org name) s fun _ t => Sound rules t.1 := by
  refine .check (fun _ _ => h) fun _ _ => .bind_ok (get_of_settled hsettled) (.orThrow (fun _ => h)
    fun orgObj horg => .read (.rejectIf (fun _ => h) fun _ => .read (.rejectIf (fun _ => h)
      fun _ => .take (.take (.write (.write (.pure ?_)))))))
  refine h.setIndexed (by rfl) ?_ (by decide)
  simpa [orgRefs] using LayerDb.present_set (h.present_namedOrg horg)

theorem sound_deleteProject (h : Sound rules s.1) {org name : String}
    (hsettled : projectSettled s.1 org name = true)
    (hfree : ∀ project, namedProject s.1 org name = some project → listEnvs s.1 org name = [] →
      orgRefSchema.Unreferenced (rulesRefs rules) s.1 (.projects, project.id)) :
    Ensures (deleteProject org name) s fun _ t => Sound rules t.1 := by
  refine .bind_ok (getProject_of_settled hsettled) (.orThrow (fun _ => h) fun project hproject =>
    .read (.rejectIf (fun _ => h) fun henvs => .take (.take (.pure ?_))))
  exact Sound.deleteLeaf (h.delete (hfree project hproject (by simpa using henvs))) (by decide)

theorem sound_createEnv (h : Sound rules s.1) {org project : String}
    (hsettled : projectSettled s.1 org project = true) (name : String) (ttl : Option ℕ)
    (deletionProtection : Bool) (labels : Labels) :
    Ensures (createEnv org project name ttl deletionProtection labels) s fun _ t =>
      Sound rules t.1 := by
  refine .check (fun _ _ => h) fun _ _ => .bind_ok (getProject_of_settled hsettled) (.orThrow
    (fun _ => h) fun projectObj hproject => .read (.rejectIf (fun _ => h) fun _ => .read (.rejectIf
      (fun _ => h) fun _ => .take (.take (.write (.write (.pure ?_)))))))
  refine h.setIndexed (by rfl) ?_ (by decide)
  simpa [orgRefs] using LayerDb.present_set (h.present_namedProject hproject)

theorem sound_deleteEnv (h : Sound rules s.1) {org project name : String}
    (hsettled : envSettled s.1 org project name = true)
    (hfree : ∀ env, namedEnv s.1 org project name = some env → env.deletionProtection = false →
      orgRefSchema.Unreferenced (rulesRefs rules) s.1 (.environments, env.id)) :
    Ensures (deleteEnv org project name) s fun _ t => Sound rules t.1 := by
  refine .bind (getEnv_of_settled hsettled) ?_ fun _ t ht => ht.1 ▸ h
  rintro env t ⟨rfl, henv⟩
  refine .rejectIf (fun _ => h) fun hprotected => .take (.take (.pure ?_))
  exact Sound.deleteLeaf (h.delete (hfree env (henv env rfl) hprotected)) (by decide)

/-! ### Routes and route tables -/

theorem sound_insertRoute (h : Sound rules s.1) {tableId : RouteTableId} {target : RouteTarget}
    (htable : s.1.present (.routeTables, tableId) = true)
    (htarget : ∀ ref ∈ routeTargetRefs target, s.1.present ref = true) (destination : String)
    (origin : RouteOrigin) (priority : ℕ) :
    Ensures (insertRoute tableId destination target origin priority) s fun _ t =>
      Sound rules t.1 := by
  refine .take (.take (.write (.pure (h.set (by rfl) ?_))))
  rintro ref hmem
  refine LayerDb.present_set ?_
  rcases List.mem_cons.mp hmem with rfl | hmem
  · exact htable
  · exact htarget ref hmem

theorem sound_addRoute (h : Sound rules s.1) {tableId : RouteTableId} {destination : String}
    {target : RouteTarget}
    (hrefs : s.1.get .routes (routeKey tableId destination) = none →
      s.1.present (.routeTables, tableId) = true ∧
        ∀ ref ∈ routeTargetRefs target, s.1.present ref = true) (priority : Option ℕ) :
    Ensures (addRoute tableId destination target priority) s fun _ t => Sound rules t.1 := by
  refine .read (.rejectIf (fun _ => h) fun hnew => ?_)
  obtain ⟨htable, htarget⟩ := hrefs (by simpa using hnew)
  exact sound_insertRoute h htable htarget _ _ _

theorem sound_removeRoute (h : Sound rules s.1) (tableId : RouteTableId) (destination : String) :
    Ensures (removeRoute tableId destination) s fun _ t => Sound rules t.1 := by
  refine .read (.orThrow (fun _ => h) fun route _ => ?_)
  cases route.origin with
  | system => exact h
  | propagated => exact h
  | user => exact .take (.pure (h.deleteLeaf (by decide)))

theorem sound_insertRouteTable (h : Sound rules s.1) {vpcId : VpcId}
    (hvpc : s.1.present (.vpcs, vpcId) = true) (name : String) (isDefault : Bool) :
    Ensures (insertRouteTable name vpcId isDefault) s fun result t => Sound rules t.1 ∧
      ∀ table, result = .ok table → t.1.present (.routeTables, table.id) = true := by
  refine .take (.take (.write (.write (.pure ⟨h.setIndexed (by rfl) ?_ (by decide), ?_⟩))))
  · simpa [orgRefs] using LayerDb.present_set hvpc
  · rintro table ⟨⟩
    exact LayerDb.present_set LayerDb.present_set_self

theorem sound_createRouteTable (h : Sound rules s.1) {name : String} {vpcId : VpcId}
    (hvpc : (validateName name "route table").isOk = true →
      s.1.get .routeTableNameIndex (routeTableNameKey vpcId name) = none →
        s.1.present (.vpcs, vpcId) = true) :
    Ensures (createRouteTable name vpcId) s fun _ t => Sound rules t.1 := by
  refine .check (fun _ _ => h) fun _ hname => .read (.rejectIf (fun _ => h) fun hnew => ?_)
  exact (sound_insertRouteTable h (hvpc (by rw [hname]; rfl) (by simpa using hnew)) _ _).1

theorem sound_createRouteTableByVpcName (h : Sound rules s.1) (name vpcName : String) :
    Ensures (createRouteTableByVpcName name vpcName) s fun _ t => Sound rules t.1 :=
  .read (.orThrow (fun _ => h) fun _ hvpc =>
    sound_createRouteTable h fun _ _ => h.present_getVpc hvpc)

theorem sound_createDefaultRouteTable (h : Sound rules s.1) {vpc : Vpc}
    (hvpc : s.1.present (.vpcs, vpc.id) = true) :
    Ensures (createDefaultRouteTable vpc) s fun _ t => Sound rules t.1 := by
  refine .bind (sound_insertRouteTable h hvpc _ _) ?_ fun _ _ ht => ht.1
  rintro table t ⟨ht, htable⟩
  exact .bind (sound_insertRoute ht (htable table rfl) (by simp [routeTargetRefs]) _ _ _)
    (fun _ _ hu => hu) fun _ _ hu => hu

theorem sound_deleteRoutes (tableId : RouteTableId) (routes : List Route)
    (h : Sound rules s.1) :
    Ensures (Tx.each (fun route : Route => do
        let _ ← dbDelete OrgTable.routes (routeKey tableId route.destination)) routes : OrgM Unit) s
      fun _ t => Sound rules t.1 ∧ ∀ (u : OrgTable) key row, t.1.get u key = some row →
        s.1.get u key = some row ∧
          (u = .routes → ∀ route ∈ routes, key ≠ routeKey tableId route.destination) := by
  induction routes generalizing s with
  | nil => exact ⟨h, fun _ _ _ hget => ⟨hget, fun _ _ hmem => by cases hmem⟩⟩
  | cons route routes ih =>
      refine .bind_total rfl ?_
      have hrest := ih (s := (s.1.delete .routes (routeKey tableId route.destination), s.2))
        (h.deleteLeaf (by decide))
      refine ⟨hrest.1, fun u key row hget => ?_⟩
      obtain ⟨hbefore, hkey⟩ := hrest.2 u key row hget
      refine ⟨LayerDb.of_get_delete hbefore, ?_⟩
      rintro rfl other hother
      rcases List.mem_cons.mp hother with rfl | hmem
      · rintro rfl
        simp [LayerDb.get_delete] at hbefore
      · exact hkey rfl other hmem

theorem sound_deleteRouteTable (h : Sound rules s.1) (vpcId : VpcId) (name : String) :
    Ensures (deleteRouteTable vpcId name) s fun _ t => Sound rules t.1 := by
  refine .read (.orThrow (fun _ => h) fun tableId _ => .read (.orThrow (fun _ => h) fun table htable =>
    .rejectIf (fun _ => h) fun _ => .read (.rejectIf (fun _ => h) fun _ => .read (.bind
      (sound_deleteRoutes table.id _ h) ?_ fun _ _ ht => ht.1))))
  rintro _ t ⟨ht, hleft⟩
  refine .take (.take (.pure ?_))
  refine RefSchema.Integral.delete (ht.deleteLeaf (by decide)) (RefSchema.Unreferenced.delete ⟨?_, ?_⟩)
  · intro u key row hget hmem
    obtain ⟨hbefore, hgone⟩ := hleft u key row hget
    obtain rfl : u = .routes := routes_of_refers hmem
    obtain rfl : table.id = tableId := h.keyed .routeTables tableId table htable
    have htableId : row.routeTableId = table.id := routeTableId_of_refers hmem
    have hkey : routeKey table.id row.destination = key := by
      rw [← htableId]
      exact h.keyed .routes key row hbefore
    exact hgone rfl row (mem_listRoutesByTable (hkey ▸ hbefore)) hkey.symm
  · exact fun hmem => nomatch fst_of_mem_rulesRefs hmem

theorem sound_deleteRouteTableByVpcName (h : Sound rules s.1) (vpcName tableName : String) :
    Ensures (deleteRouteTableByVpcName vpcName tableName) s fun _ t => Sound rules t.1 :=
  .read (.orThrow (fun _ => h) fun vpc _ => sound_deleteRouteTable h vpc.id tableName)

/-! ### VPCs and what is attached to them -/

theorem sound_nextVni (h : Sound rules s.1) : Ensures nextVni s fun _ t => Sound rules t.1 :=
  .read (.write (.pure (h.setIndex (by decide) _)))

theorem sound_createDefaultSg (h : Sound rules s.1) {vpc : Vpc}
    (hvpc : s.1.present (.vpcs, vpc.id) = true) :
    Ensures (createDefaultSg vpc) s fun _ t =>
      Sound rules t.1 ∧ t.1.present (.vpcs, vpc.id) = true := by
  refine .take (.take (.write (.write (.pure ⟨h.setIndexed (by rfl) ?_ (by decide), ?_⟩))))
  · simpa [orgRefs] using LayerDb.present_set hvpc
  · exact LayerDb.present_set (LayerDb.present_set hvpc)

theorem sound_createVpc (h : Sound rules s.1) {owner : VpcOwner}
    (hsettled : ownerSettled s.1 owner = true) (name cidr : String) (shared : Bool) :
    Ensures (createVpc name cidr owner shared) s fun _ t => Sound rules t.1 := by
  refine .check (fun _ _ => h) fun _ _ => .check (fun _ _ => h) fun net _ =>
    .bind (checkOwner_of_settled hsettled) ?_ fun _ u hu => hu.1 ▸ h
  rintro _ u ⟨rfl, -⟩
  refine .read (.rejectIf (fun _ => h) fun _ => .bind (existingCidrsForOrg_of_settled hsettled) ?_
    fun _ v hv => hv.1 ▸ h)
  rintro existing v ⟨rfl, -⟩
  refine .rejectSome (fun _ _ => h) fun _ => .bind (sound_nextVni h) (fun vni t ht => ?_)
    fun _ _ ht => ht
  refine .take (.take (.write (.write (.bind (sound_createDefaultSg
    (ht.setIndexed (by rfl) (by simp [orgRefs]) (by decide))
    (LayerDb.present_set LayerDb.present_set_self)) ?_ fun _ _ hu => hu.1))))
  rintro _ u ⟨hu, hvpc⟩
  exact .bind (sound_createDefaultRouteTable hu hvpc) (fun _ _ hv => hv) fun _ _ hv => hv

theorem sound_deleteVpc (h : Sound rules s.1) {name : String}
    (hfree : ∀ vpc, getVpc s.1 name = some vpc → listPeeringsByVpcId s.1 vpc.id = [] →
      orgRefSchema.Unreferenced (rulesRefs rules) s.1 (.vpcs, vpc.id)) :
    Ensures (deleteVpc name) s fun _ t => Sound rules t.1 := by
  refine .read (.orThrow (fun _ => h) fun vpc hvpc => .read (.rejectIf (fun _ => h) fun hpeerings =>
    .take (.take (.pure ?_))))
  exact (h.deleteLeaf (by decide)).delete (hfree vpc hvpc (by simpa using hpeerings)).delete

theorem sound_attachVpc (h : Sound rules s.1) (vpcName projectId : String) :
    Ensures (attachVpc vpcName projectId) s fun _ t => Sound rules t.1 := by
  refine .read (.orThrow (fun _ => h) fun vpc hvpc => .rejectIf (fun _ => h) fun _ => .read
    (.rejectIf (fun _ => h) fun _ => .take ?_))
  refine h.set (by trivial) ?_
  simpa [orgRefSchema, orgRefs] using LayerDb.present_set (h.present_getVpc hvpc)

theorem sound_detachVpc (h : Sound rules s.1) (vpcName projectId : String) :
    Ensures (detachVpc vpcName projectId) s fun _ t => Sound rules t.1 :=
  .read (.orThrow (fun _ => h) fun _ _ => .read (.rejectIf (fun _ => h) fun _ =>
    .take (.pure (h.deleteLeaf (by decide)))))

/-! ### Subnets -/

theorem sound_addSubnetRoute (h : Sound rules s.1) {defaultRt : Option RouteTable}
    (hrt : ∀ rt, defaultRt = some rt → s.1.present (.routeTables, rt.id) = true) (cidr : String) :
    Ensures (addSubnetRoute defaultRt cidr) s fun _ t => Sound rules t.1 := by
  cases defaultRt with
  | none => exact h
  | some rt =>
      exact .bind (sound_insertRoute h (hrt rt rfl) (by simp [routeTargetRefs]) _ _ _)
        (fun _ _ ht => ht) fun _ _ ht => ht

theorem sound_createSubnet (h : Sound rules s.1) (vpcName : String) (envId : EnvironmentId)
    (name : String) (cidrOpt : Option String) :
    Ensures (createSubnet vpcName envId name cidrOpt) s fun _ t => Sound rules t.1 := by
  refine .check (fun _ _ => h) fun _ _ => .read (.orThrow (fun _ => h) fun vpc hvpc => .read
    (.rejectIf (fun _ => h) fun henv => .read (.rejectIf (fun _ => h) fun _ => .orThrow (fun _ => h)
      fun vpcCidr _ => .read (.check (fun _ _ => h) fun net _ => .take (.take (.write (.write
        (.forget (P := fun t => Sound rules t.1) (h.setIndexed (by trivial) ?_ (by decide))
          fun t ht => .read (.bind (sound_addSubnetRoute ht (fun _ => ht.present_getRouteTable) _)
            (fun _ _ hu => hu) fun _ _ hu => hu)))))))))
  have hpresent : s.1.present (.environments, envId) = true := by
    simpa [LayerDb.present] using henv
  simp only [orgRefs, List.mem_cons, List.not_mem_nil, or_false]
  rintro ref (rfl | rfl)
  · exact LayerDb.present_set (h.present_getVpc hvpc)
  · exact LayerDb.present_set hpresent

theorem sound_removeSubnetRoute (h : Sound rules s.1) {ref : Ref OrgTable}
    (hfree : orgRefSchema.Unreferenced (rulesRefs rules) s.1 ref) (defaultRt : Option RouteTable)
    (cidr : String) :
    Ensures (removeSubnetRoute defaultRt cidr) s fun _ t =>
      Sound rules t.1 ∧ orgRefSchema.Unreferenced (rulesRefs rules) t.1 ref := by
  cases defaultRt with
  | none => exact ⟨h, hfree⟩
  | some rt => exact .take (.pure ⟨h.deleteLeaf (by decide), hfree.delete⟩)

theorem sound_deleteSubnet (h : Sound rules s.1) {vpcName subnetName : String}
    (hfree : ∀ vpc id, getVpc s.1 vpcName = some vpc →
      s.1.get .subnetNameIndex (subnetNameKey vpc.id subnetName) = some id →
        orgRefSchema.Unreferenced (rulesRefs rules) s.1 (.subnets, id)) :
    Ensures (deleteSubnet vpcName subnetName) s fun _ t => Sound rules t.1 := by
  refine .read (.orThrow (fun _ => h) fun vpc hvpc => .read (.orThrow (fun _ => h) fun id hid => .read
    (.orThrow (fun _ => h) fun subnet _ => .read (.bind
      (sound_removeSubnetRoute h (hfree vpc id hvpc hid) _ _) ?_ fun _ _ ht => ht.1))))
  rintro _ t ⟨ht, htfree⟩
  refine .bind_total rfl (.take (.take (.pure ?_)))
  exact RefSchema.Integral.delete (Sound.deleteLeaf (ht.deleteLeaf (by decide)) (by decide))
    htfree.delete.delete

/-! ### Peerings -/

theorem sound_createPeering (h : Sound rules s.1) (vpcA vpcB : String) :
    Ensures (createPeering vpcA vpcB) s fun _ t => Sound rules t.1 := by
  refine .rejectIf (fun _ => h) fun _ => .read (.orThrow (fun _ => h) fun a ha => .read (.orThrow
    (fun _ => h) fun b hb => .read (.rejectIf (fun _ => h) fun _ => .take (.take (.write (.pure
      (h.set (by trivial) ?_)))))))
  have hends : ∀ id ∈ [(peeringNameKey a.id b.id).2.1, (peeringNameKey a.id b.id).2.2],
      s.1.present (.vpcs, id) = true := by
    unfold peeringNameKey
    split <;> simp [h.present_getVpc ha, h.present_getVpc hb]
  simp only [List.mem_cons, List.not_mem_nil, or_false, forall_eq_or_imp, forall_eq] at hends
  simp only [orgRefSchema, orgRefs, List.mem_cons, List.not_mem_nil, or_false]
  rintro ref (rfl | rfl)
  · exact LayerDb.present_set hends.1
  · exact LayerDb.present_set hends.2

theorem sound_deletePeering (h : Sound rules s.1) {vpcA vpcB : String}
    (hfree : ∀ a b peering, getVpc s.1 vpcA = some a → getVpc s.1 vpcB = some b →
      findPeering s.1 (peeringNameKey a.id b.id).1 = some peering →
        orgRefSchema.Unreferenced (rulesRefs rules) s.1 (.peerings, peering.id)) :
    Ensures (deletePeering vpcA vpcB) s fun _ t => Sound rules t.1 :=
  .read (.orThrow (fun _ => h) fun a ha => .read (.orThrow (fun _ => h) fun b hb => .read (.orThrow
    (fun _ => h) fun peering hpeering => .take (.pure (h.delete (hfree a b peering ha hb hpeering))))))

/-! ### Security groups and rules -/

theorem sound_createSg (h : Sound rules s.1) {name : String} {vpcId : VpcId}
    (hvpc : (validateName name "security group").isOk = true →
      s.1.get .sgNameIndex (sgNameKey vpcId name) = none → s.1.present (.vpcs, vpcId) = true)
    (description : Option String) :
    Ensures (createSg name vpcId description) s fun _ t => Sound rules t.1 := by
  refine .check (fun _ _ => h) fun _ hname => .read (.rejectIf (fun _ => h) fun hnew => .take (.take
    (.write (.write (.pure (h.setIndexed (by rfl) ?_ (by decide)))))))
  simpa [orgRefs] using LayerDb.present_set (hvpc (by rw [hname]; rfl) (by simpa using hnew))

theorem sound_createSecurityGroup (h : Sound rules s.1) (name vpcName description : String) :
    Ensures (createSecurityGroup name vpcName description) s fun _ t => Sound rules t.1 :=
  .read (.orThrow (fun _ => h) fun _ hvpc =>
    sound_createSg h (fun _ _ => h.present_getVpc hvpc) _)

theorem sound_deleteSg (h : Sound rules s.1) {vpcId : VpcId} {name : String}
    (hfree : ∀ id sg, s.1.get .sgNameIndex (sgNameKey vpcId name) = some id →
      s.1.get .securityGroups id = some sg → sg.isDefault = false →
        orgRefSchema.Unreferenced (rulesRefs rules) s.1 (.securityGroups, id)) :
    Ensures (deleteSg vpcId name) s fun _ t => Sound rules t.1 := by
  refine .read (.orThrow (fun _ => h) fun id hid => .read (.orThrow (fun _ => h) fun sg hsg =>
    .rejectIf (fun _ => h) fun hdefault => .take (.take (.pure ?_))))
  exact (h.deleteLeaf (by decide)).delete (hfree id sg hid hsg hdefault).delete

/-- The security group with a name, in one VPC or in all of them. -/
def foundSg (db : OrgDb) (name : String) : Option String → Option SecurityGroup
  | some vpcName => (getVpc db vpcName).bind fun vpc => getSg db vpc.id name
  | none =>
    match (listSgs db).filter fun sg => sg.name == name with
    | [sg] => some sg
    | _ => none

theorem getSecurityGroup_found (name : String) (vpcName : Option String) :
    Ensures (getSecurityGroup name vpcName) s fun result t =>
      t = s ∧ ∀ sg, result = .ok (some sg) → foundSg s.1 name vpcName = some sg := by
  cases vpcName with
  | some vname =>
      refine .read (.orThrow (fun _ => ⟨rfl, nofun⟩) fun vpc hvpc => ⟨rfl, fun sg hsg => ?_⟩)
      exact (Option.bind_eq_some_iff.mpr ⟨vpc, hvpc, Except.ok.inj hsg⟩)
  | none =>
      refine .read ?_
      split
      · exact ⟨rfl, nofun⟩
      · rename_i sg hfilter
        have hone : ((listSgs s.1).filter fun sg => sg.name == name) = [sg] := hfilter
        refine ⟨rfl, fun sg' hsg => ?_⟩
        simp only [foundSg, hone]
        exact Except.ok.inj hsg
      · exact ⟨rfl, nofun⟩

theorem sound_deleteSecurityGroup (h : Sound rules s.1) {name : String} {vpcName : Option String}
    (hfree : ∀ found id sg, foundSg s.1 name vpcName = some found →
      s.1.get .sgNameIndex (sgNameKey found.vpcId name) = some id →
        s.1.get .securityGroups id = some sg → sg.isDefault = false →
          orgRefSchema.Unreferenced (rulesRefs rules) s.1 (.securityGroups, id)) :
    Ensures (deleteSecurityGroup name vpcName) s fun _ t => Sound rules t.1 := by
  refine .bind (getSecurityGroup_found name vpcName) ?_ fun _ t ht => ht.1 ▸ h
  rintro found t ⟨rfl, hfound⟩
  refine .orThrow (fun _ => h) fun sg hsg => .rejectIf (fun _ => h) fun _ => ?_
  exact sound_deleteSg h fun id sg' => hfree sg id sg' (hfound sg (by rw [hsg]))

theorem mem_rulesRefs_iff {ref : Ref OrgTable} :
    ref ∈ rulesRefs rules ↔ ∃ key rule, rules.get .sgRules key = some rule ∧ ref ∈ ruleRefs rule := by
  simp only [rulesRefs, List.mem_flatMap]
  constructor
  · rintro ⟨⟨key, rule⟩, hentry, hmem⟩
    exact ⟨key, rule, Std.ExtTreeMap.mem_toList_iff_getElem?_eq_some.mp hentry, hmem⟩
  · rintro ⟨key, rule, hget, hmem⟩
    exact ⟨(key, rule), Std.ExtTreeMap.mem_toList_iff_getElem?_eq_some.mpr hget, hmem⟩

theorem Sound.changeRules {db : OrgDb} {rules' : SgRuleDb} (h : Sound rules db)
    (hrules : ∀ key rule, rules'.get .sgRules key = some rule →
      rules.get .sgRules key = some rule ∨ ∀ ref ∈ ruleRefs rule, db.present ref = true) :
    Sound rules' db := by
  refine ⟨h.keyed, h.refs, fun ref hmem => ?_⟩
  obtain ⟨key, rule, hget, href⟩ := mem_rulesRefs_iff.mp hmem
  rcases hrules key rule hget with hold | hnew
  · exact h.outside ref (mem_rulesRefs_iff.mpr ⟨key, rule, hold, href⟩)
  · exact hnew ref href

theorem sound_addRule {db : OrgDb} {s : SgRuleDb × Ambient} (h : Sound s.1 db)
    {rule : SecurityGroupRule}
    (hrefs : (SgRuleStore.validate rule).isOk = true → s.1.get .sgRules rule.id = none →
      ∀ ref ∈ ruleRefs rule, db.present ref = true) :
    Ensures (SgRuleStore.addRule rule) s fun _ t => Sound t.1 db := by
  refine .check (fun _ _ => h) fun _ hvalid => .read (.rejectIf (fun _ => h) fun hnew =>
    h.changeRules fun key rule' hget => ?_)
  rcases LayerDb.of_get_set hget with ⟨-, -, rfl⟩ | hold
  · exact .inr (hrefs (by rw [hvalid]; rfl) (by simpa using hnew))
  · exact .inl hold

theorem sound_removeRule {db : OrgDb} {s : SgRuleDb × Ambient} (h : Sound s.1 db) (ruleId : String) :
    Ensures (SgRuleStore.removeRule ruleId) s fun _ t => Sound t.1 db := by
  refine .take ?_
  have hremoved : Sound (s.1.delete .sgRules ruleId) db :=
    h.changeRules fun _ _ hget => .inl (LayerDb.of_get_delete hget)
  unfold Tx.rejectIf
  split <;> exact hremoved

/-! ### Interfaces and NAT gateways -/

theorem sound_createNic (h : Sound rules s.1) {nic : NetworkInterface}
    (hrefs : s.1.get .nics nic.id = none → ∀ ref ∈ orgRefs .nics nic, s.1.present ref = true) :
    Ensures (createNic nic) s fun _ t => Sound rules t.1 :=
  .read (.rejectIf (fun _ => h) fun hnew => h.set (by trivial) fun ref hmem =>
    LayerDb.present_set (hrefs (by simpa using hnew) ref hmem))

theorem sound_deleteNic (h : Sound rules s.1) (nicId : String) :
    Ensures (deleteNic nicId) s fun _ t => Sound rules t.1 := by
  refine .take ?_
  have hremoved : Sound rules (s.1.delete .nics nicId) := h.deleteLeaf (by decide)
  unfold Tx.rejectIf
  split <;> exact hremoved

theorem sound_createNatGw (h : Sound rules s.1) (name : String) (vpcId : VpcId)
    (subnetId : SubnetId) (publicIp : String) :
    Ensures (createNatGw name vpcId subnetId publicIp) s fun _ t => Sound rules t.1 :=
  .check (fun _ _ => h) fun _ _ => .read (.rejectIf (fun _ => h) fun _ => .take (.take (.write (.write
    (.pure (h.setIndexed (by trivial) (by simp [orgRefs]) (by decide)))))))

theorem sound_deleteNatGw (h : Sound rules s.1) {vpcId : VpcId} {name : String}
    (hfree : ∀ id, s.1.get .natGwNameIndex (natGwNameKey vpcId name) = some id →
      orgRefSchema.Unreferenced (rulesRefs rules) s.1 (.natGateways, id)) :
    Ensures (deleteNatGw vpcId name) s fun _ t => Sound rules t.1 := by
  refine .read (.orThrow (fun _ => h) fun id hid => .take (.take (.pure ?_)))
  exact (h.deleteLeaf (by decide)).delete (hfree id hid).delete

end Operations

/-! ### All operations -/

namespace StoreOp

open OrgState

/-- The operation removes no record that is referred to, stores none that refers to a missing one, and
finds what it is about by names. What the operation itself refuses needs no such care. -/
def cautious (s : OrgState) : StoreOp → Bool
  | deleteOrg name => orgSettled s.org name && (namedOrg s.org name).all fun org =>
      !(listVpcsByOrg s.org org.id).isEmpty || !(listProjects s.org name).isEmpty ||
        s.unreferenced (.orgs, org.id)
  | createProject org _ => orgSettled s.org org
  | deleteProject org name => projectSettled s.org org name &&
      (namedProject s.org org name).all fun project =>
        !(listEnvs s.org org name).isEmpty || s.unreferenced (.projects, project.id)
  | createEnv org project .. => projectSettled s.org org project
  | deleteEnv org project name => envSettled s.org org project name &&
      (namedEnv s.org org project name).all fun env =>
        env.deletionProtection || s.unreferenced (.environments, env.id)
  | createVpc _ _ owner _ => ownerSettled s.org owner
  | deleteVpc name => (getVpc s.org name).all fun vpc =>
      !(listPeeringsByVpcId s.org vpc.id).isEmpty || s.unreferenced (.vpcs, vpc.id)
  | deleteSubnet vpcName subnetName => (getVpc s.org vpcName).all fun vpc =>
      (s.org.get .subnetNameIndex (subnetNameKey vpc.id subnetName)).all fun id =>
        s.unreferenced (.subnets, id)
  | deletePeering vpcA vpcB => (getVpc s.org vpcA).all fun a => (getVpc s.org vpcB).all fun b =>
      (findPeering s.org (peeringNameKey a.id b.id).1).all fun peering =>
        s.unreferenced (.peerings, peering.id)
  | createSg name vpcId _ => !(validateName name "security group").isOk ||
      (s.org.get .sgNameIndex (sgNameKey vpcId name)).isSome || s.org.present (.vpcs, vpcId)
  | deleteSg vpcId name => sgFree vpcId name
  | deleteSecurityGroup name vpcName => (foundSg s.org name vpcName).all fun sg =>
      sgFree sg.vpcId name
  | addRule rule => !(SgRuleStore.validate rule).isOk || (s.rules.get .sgRules rule.id).isSome ||
      (ruleRefs rule).all s.org.present
  | createNic nic => (s.org.get .nics nic.id).isSome || (orgRefs .nics nic).all s.org.present
  | createRouteTable name vpcId => !(validateName name "route table").isOk ||
      (s.org.get .routeTableNameIndex (routeTableNameKey vpcId name)).isSome ||
        s.org.present (.vpcs, vpcId)
  | addRoute tableId destination target _ =>
      (s.org.get .routes (routeKey tableId destination)).isSome ||
        s.org.present (.routeTables, tableId) && (routeTargetRefs target).all s.org.present
  | deleteNatGw vpcId name => (s.org.get .natGwNameIndex (natGwNameKey vpcId name)).all fun id =>
      s.unreferenced (.natGateways, id)
  | _ => true
where
  sgFree (vpcId : VpcId) (name : String) : Bool :=
    (s.org.get .sgNameIndex (sgNameKey vpcId name)).all fun id =>
      (s.org.get .securityGroups id).any (·.isDefault) || s.unreferenced (.securityGroups, id)

end StoreOp

theorem OrgState.unreferenced_iff {s : OrgState} {ref : Ref OrgTable} :
    s.unreferenced ref = true ↔ orgRefSchema.Unreferenced (rulesRefs s.rules) s.org ref :=
  RefSchema.unreferenced_iff fun t => by cases t <;> decide

theorem unreferenced_of_sgFree {s : OrgState} {vpcId : VpcId} {name : String}
    (h : StoreOp.cautious.sgFree s vpcId name = true) {id : String} {sg : SecurityGroup}
    (hid : s.org.get .sgNameIndex (sgNameKey vpcId name) = some id)
    (hsg : s.org.get .securityGroups id = some sg) (hdefault : sg.isDefault = false) :
    orgRefSchema.Unreferenced (rulesRefs s.rules) s.org (.securityGroups, id) := by
  simp only [StoreOp.cautious.sgFree, hid, Option.all_some, hsg, Option.any_some, hdefault,
    Bool.false_or] at h
  exact OrgState.unreferenced_iff.mp h

/-- **A step keeps the references whole.** -/
theorem sound_apply {s : OrgState} (h : Sound s.rules s.org) {op : StoreOp}
    (hop : op.cautious s = true) : Sound (op.apply s).2.rules (op.apply s).2.org := by
  cases op with
  | createOrg name => exact sound_create (s := (s.org, s.ambient)) h name
  | deleteOrg name =>
      simp only [StoreOp.cautious, Bool.and_eq_true, Option.all_eq_true, Bool.or_eq_true,
        Bool.not_eq_true', OrgState.unreferenced_iff] at hop
      refine sound_delete (s := (s.org, s.ambient)) h hop.1 fun org horg hvpcs hprojects => ?_
      simpa [hvpcs, hprojects] using hop.2 org horg
  | createProject org name => exact sound_createProject (s := (s.org, s.ambient)) h hop name
  | deleteProject org name =>
      simp only [StoreOp.cautious, Bool.and_eq_true, Option.all_eq_true, Bool.or_eq_true,
        Bool.not_eq_true', OrgState.unreferenced_iff] at hop
      refine sound_deleteProject (s := (s.org, s.ambient)) h hop.1 fun project hproject henvs => ?_
      simpa [henvs] using hop.2 project hproject
  | createEnv org project name ttl protect labels =>
      exact sound_createEnv (s := (s.org, s.ambient)) h hop name ttl protect labels
  | deleteEnv org project name =>
      simp only [StoreOp.cautious, Bool.and_eq_true, Option.all_eq_true, Bool.or_eq_true,
        OrgState.unreferenced_iff] at hop
      refine sound_deleteEnv (s := (s.org, s.ambient)) h hop.1 fun env henv hprotected => ?_
      simpa [hprotected] using hop.2 env henv
  | createVpc name cidr owner shared =>
      exact sound_createVpc (s := (s.org, s.ambient)) h hop name cidr shared
  | deleteVpc name =>
      simp only [StoreOp.cautious, Option.all_eq_true, Bool.or_eq_true, Bool.not_eq_true',
        OrgState.unreferenced_iff] at hop
      refine sound_deleteVpc (s := (s.org, s.ambient)) h fun vpc hvpc hpeerings => ?_
      simpa [hpeerings] using hop vpc hvpc
  | attachVpc vpcName projectId =>
      exact sound_attachVpc (s := (s.org, s.ambient)) h vpcName projectId
  | detachVpc vpcName projectId =>
      exact sound_detachVpc (s := (s.org, s.ambient)) h vpcName projectId
  | createSubnet vpcName envId name cidrOpt =>
      exact sound_createSubnet (s := (s.org, s.ambient)) h vpcName envId name cidrOpt
  | deleteSubnet vpcName subnetName =>
      simp only [StoreOp.cautious, Option.all_eq_true, OrgState.unreferenced_iff] at hop
      exact sound_deleteSubnet (s := (s.org, s.ambient)) h fun vpc id hvpc => hop vpc hvpc id
  | createPeering vpcA vpcB => exact sound_createPeering (s := (s.org, s.ambient)) h vpcA vpcB
  | deletePeering vpcA vpcB =>
      simp only [StoreOp.cautious, Option.all_eq_true, OrgState.unreferenced_iff] at hop
      exact sound_deletePeering (s := (s.org, s.ambient)) h fun a b peering ha hb =>
        hop a ha b hb peering
  | createSg name vpcId description =>
      refine sound_createSg (s := (s.org, s.ambient)) h (fun hname hnew => ?_) description
      simpa [StoreOp.cautious, hname, hnew] using hop
  | createSecurityGroup name vpcName description =>
      exact sound_createSecurityGroup (s := (s.org, s.ambient)) h name vpcName description
  | deleteSg vpcId name =>
      exact sound_deleteSg (s := (s.org, s.ambient)) h fun _ _ => unreferenced_of_sgFree hop
  | deleteSecurityGroup name vpcName =>
      simp only [StoreOp.cautious, Option.all_eq_true] at hop
      exact sound_deleteSecurityGroup (s := (s.org, s.ambient)) h fun found _ _ hfound =>
        unreferenced_of_sgFree (hop found hfound)
  | addRule rule =>
      refine sound_addRule (s := (s.rules, s.ambient)) h fun hvalid hnew => ?_
      simpa [StoreOp.cautious, hvalid, hnew] using hop
  | removeRule ruleId => exact sound_removeRule (s := (s.rules, s.ambient)) h ruleId
  | createNic nic =>
      refine sound_createNic (s := (s.org, s.ambient)) h fun hnew => ?_
      simpa only [StoreOp.cautious, hnew, Option.isSome_none, Bool.false_or, List.all_eq_true] using hop
  | deleteNic nicId => exact sound_deleteNic (s := (s.org, s.ambient)) h nicId
  | createRouteTable name vpcId =>
      refine sound_createRouteTable (s := (s.org, s.ambient)) h fun hname hnew => ?_
      simpa [StoreOp.cautious, hname, hnew] using hop
  | createRouteTableByVpcName name vpcName =>
      exact sound_createRouteTableByVpcName (s := (s.org, s.ambient)) h name vpcName
  | deleteRouteTable vpcId name =>
      exact sound_deleteRouteTable (s := (s.org, s.ambient)) h vpcId name
  | deleteRouteTableByVpcName vpcName tableName =>
      exact sound_deleteRouteTableByVpcName (s := (s.org, s.ambient)) h vpcName tableName
  | addRoute tableId destination target priority =>
      refine sound_addRoute (s := (s.org, s.ambient)) h (fun hnew => ?_) priority
      simpa only [StoreOp.cautious, hnew, Option.isSome_none, Bool.false_or, Bool.and_eq_true,
        List.all_eq_true] using hop
  | removeRoute tableId destination =>
      exact sound_removeRoute (s := (s.org, s.ambient)) h tableId destination
  | createNatGw name vpcId subnetId publicIp =>
      exact sound_createNatGw (s := (s.org, s.ambient)) h name vpcId subnetId publicIp
  | deleteNatGw vpcId name =>
      simp only [StoreOp.cautious, Option.all_eq_true, OrgState.unreferenced_iff] at hop
      exact sound_deleteNatGw (s := (s.org, s.ambient)) h hop

theorem sound_empty (ambient : Ambient) :
    Sound (OrgState.empty ambient).rules (OrgState.empty ambient).org where
  keyed t key row hget := by simp [OrgState.empty] at hget
  refs t key row hget := by simp [OrgState.empty] at hget
  outside ref hmem := by
    obtain ⟨key, rule, hget, -⟩ := mem_rulesRefs_iff.mp hmem
    simp [OrgState.empty] at hget

theorem Sound.refsExist {s : OrgState} (h : Sound s.rules s.org) : s.RefsExist :=
  ⟨h.refs, fun key rule hget ref hmem => h.outside ref (mem_rulesRefs_iff.mpr ⟨key, rule, hget, hmem⟩)⟩

/-- **References name records that exist** as long as the operations are cautious. -/
theorem refsExist_of_cautious (ops : List StoreOp) (ambient : Ambient)
    (hops : ∀ e ∈ trace StoreOp.apply ops (.empty ambient), e.action.cautious e.before = true) :
    (reached StoreOp.apply ops (.empty ambient)).RefsExist := by
  have hsound := invariant_reached (I := fun s => Sound s.rules s.org) (sound_empty ambient)
    (fun _ _ h hop => sound_apply h hop) hops
  exact hsound.refsExist

/-- Records of most tables, and the removal of those that nothing refers to. -/
def cautiousOps : List StoreOp :=
  [.createOrg "acme", .createProject "acme" "web", .createEnv "acme" "web" "dev" none false ∅,
    .createVpc "net" "10.1.0.0/16" (.org "acme") false,
    .createSubnet "net" "env-222222222222" "front" none, .createSecurityGroup "ssh" "net" "",
    .createNic ⟨"nic-1", "eth0", none, "sub-777777777777", "vpc-333333333333", "10.1.1.3",
      "02:00:0a:01:01:03", ["sg-444444444444"], .active, 0⟩,
    .deleteNic "nic-1", .deleteSecurityGroup "ssh" none, .deleteSubnet "net" "front",
    .deleteEnv "acme" "web" "dev"]

theorem refsExist_cautiousOps :
    (reached StoreOp.apply cautiousOps (.empty Replica.counting.ambient)).RefsExist ∧
      ((reached StoreOp.apply cautiousOps (.empty Replica.counting.ambient)).org.list
        .securityGroups).map (fun entry => (entry.1, entry.2.vpcId)) =
          [("sg-444444444444", "vpc-333333333333")] :=
  ⟨refsExist_of_cautious cautiousOps _ (by decide +kernel), by decide +kernel⟩

def deletedVpcOps : List StoreOp :=
  [.createOrg "acme", .createVpc "net" "10.1.0.0/16" (.org "acme") false, .deleteVpc "net"]

/-- The default security group of the VPC, which cannot be deleted, is left and refers to it. -/
theorem deleted_vpc_leaves_default_group :
    ¬ (reached StoreOp.apply deletedVpcOps (.empty (.steady 0))).RefsExist := by
  have hleft : ((reached StoreOp.apply deletedVpcOps (.empty (.steady 0))).org.get
      .securityGroups "sg-000000000000").any (fun sg => !(reached StoreOp.apply deletedVpcOps
        (.empty (.steady 0))).org.present (.vpcs, sg.vpcId)) = true := by decide +kernel
  obtain ⟨sg, hget, hgone⟩ := (Option.any_eq_true _ _).mp hleft
  intro h
  have hpresent := h.1 .securityGroups _ sg hget (.vpcs, sg.vpcId) (by simp [orgRefs])
  rw [hpresent] at hgone
  cases hgone

end Syfrah
