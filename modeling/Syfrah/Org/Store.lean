import Syfrah.Org.Validation

/-!
# The organisation store: orgs, projects and environments

Records are stored under generated identifiers, with index tables from names to identifiers. The
lookups by name still accept records stored under their name: such a record is given a fresh
identifier, moved and indexed on the way.
-/

namespace Syfrah

inductive OrgTable
  | orgs
  | projects
  | environments
  | vpcs
  | vpcAttachments
  | subnets
  | peerings
  | securityGroups
  | nics
  | routeTables
  | routes
  | subnetRouteAssoc
  | natGateways
  | vniCounter
  | orgNameIdx
  | projectNameIdx
  | envNameIdx
  | vpcNameIndex
  | subnetNameIndex
  | sgNameIndex
  | natGwNameIndex
  | routeTableNameIndex
deriving DecidableEq

namespace OrgTable

abbrev Row : OrgTable → Type
  | orgs => Org
  | projects => Project
  | environments => Environment
  | vpcs => Vpc
  | vpcAttachments => VpcAttachment
  | subnets => Subnet
  | peerings => VpcPeering
  | securityGroups => SecurityGroup
  | nics => NetworkInterface
  | routeTables => RouteTable
  | routes => Route
  | natGateways => NatGateway
  | vniCounter => ℕ
  | subnetRouteAssoc | orgNameIdx | projectNameIdx | envNameIdx | vpcNameIndex | subnetNameIndex
  | sgNameIndex | natGwNameIndex | routeTableNameIndex => String

def name : OrgTable → String
  | orgs => "orgs"
  | projects => "projects"
  | environments => "environments"
  | vpcs => "vpcs"
  | vpcAttachments => "vpc_attachments"
  | subnets => "subnets"
  | peerings => "vpc_peerings"
  | securityGroups => "security_groups"
  | nics => "network_interfaces"
  | routeTables => "route_tables"
  | routes => "routes"
  | subnetRouteAssoc => "subnet_route_associations"
  | natGateways => "nat_gateways"
  | vniCounter => "vni_counter"
  | orgNameIdx => "org_name_idx"
  | projectNameIdx => "project_name_idx"
  | envNameIdx => "env_name_idx"
  | vpcNameIndex => "idx_vpc_name"
  | subnetNameIndex => "idx_subnet_name"
  | sgNameIndex => "idx_sg_name"
  | natGwNameIndex => "idx_nat_gw_name"
  | routeTableNameIndex => "idx_route_table_name"

/-- The tables in the order a snapshot exports them. -/
def tableNames : List OrgTable :=
  [orgs, projects, environments, vpcs, vpcAttachments, subnets, peerings, securityGroups, nics,
    routeTables, routes, subnetRouteAssoc, natGateways, vniCounter, orgNameIdx, projectNameIdx,
    envNameIdx, vpcNameIndex, subnetNameIndex, sgNameIndex, natGwNameIndex, routeTableNameIndex]

end OrgTable

abbrev OrgDb := LayerDb OrgTable.Row

abbrev OrgM (α : Type) := StoreM OrgTable.Row OrgError α

def query {T : Type} {Row : T → Type} {ε α : Type} (f : LayerDb Row → α) : StoreM Row ε α :=
  Tx.read fun s => f s.1

namespace OrgStore

def check {T : Type} {Row : T → Type} {ε α : Type} : Except ε α → StoreM Row ε α
  | .ok a => pure a
  | .error e => throw e

/-! ### Orgs -/

def create (name : String) : OrgM Org := do
  check (validateName name "org")
  Tx.rejectIf (← dbExists .orgNameIdx name) (.alreadyExists name)
  Tx.rejectIf (← dbExists .orgs name) (.alreadyExists name)
  let now ← nowSecs
  let id ← generateId "org"
  let org : Org := { id := id, name := name, createdAt := now }
  dbSet .orgs id org
  dbSet .orgNameIdx name id
  return org

/-- Move a record stored under its name to a fresh identifier. -/
def migrateOrg (name : String) (org : Org) : OrgM Org := do
  let newId ← generateId "org"
  let org := { org with id := newId }
  dbSet .orgs newId org
  dbSet .orgNameIdx name newId
  let _ ← dbDelete .orgs name
  return org

def get (name : String) : OrgM (Option Org) := do
  match ← dbGet .orgNameIdx name with
  | some id => dbGet OrgTable.orgs id
  | none =>
    match ← dbGet .orgs name with
    | some org => return some (← migrateOrg name org)
    | none => return none

def resolveOrgId (name : String) : OrgM OrgId := do
  match ← dbGet .orgNameIdx name with
  | some id => return id
  | none =>
    match ← get name with
    | some org => return org.id
    | none => throw (.notFound name)

def listVpcs (db : OrgDb) : List Vpc := (db.list .vpcs).map Prod.snd

/-- The VPCs of an org: its own, and those of its projects. -/
def listVpcsByOrg (db : OrgDb) (orgId : OrgId) : List Vpc :=
  (listVpcs db).filter fun vpc =>
    match vpc.owner with
    | .org oid => oid == orgId
    | .project pid => (db.get .projects pid).any fun p => p.orgId == orgId

def projectNameKey (org project : String) : String := s!"{org}/{project}"

/-- The records whose index key starts with the given text, or, when the index has none, the records
whose own key does. -/
def listIndexed (db : OrgDb) (index : OrgTable) (records : OrgTable) (start : String)
    (id : index.Row → String) : List records.Row :=
  let indexed := (db.list index).filterMap fun (key, value) =>
    if Text.startsWith key start then db.get records (id value) else none
  if indexed.isEmpty then
    ((db.list records).filter fun (key, _) => Text.startsWith key start).map Prod.snd
  else indexed

def listProjects (db : OrgDb) (org : String) : List Project :=
  listIndexed db .projectNameIdx .projects s!"{org}/" id

def delete (name : String) : OrgM Unit := do
  let org ← Tx.orThrow (← get name) (.notFound name)
  let allVpcs ← query fun db => listVpcsByOrg db org.id
  Tx.rejectIf (!allVpcs.isEmpty) (.orgHasVpcs name allVpcs.length)
  let projects ← query fun db => listProjects db name
  Tx.rejectIf (!projects.isEmpty) (.orgHasProjects name)
  let _ ← dbDelete .orgs org.id
  let _ ← dbDelete .orgNameIdx name

/-! ### Projects -/

def createProject (org name : String) : OrgM Project := do
  check (validateName name "project")
  let orgObj ← Tx.orThrow (← get org) (.notFound org)
  let nameKey := projectNameKey org name
  Tx.rejectIf (← dbExists .projectNameIdx nameKey) (.projectAlreadyExists org name)
  Tx.rejectIf (← dbExists .projects nameKey) (.projectAlreadyExists org name)
  let now ← nowSecs
  let id ← generateId "proj"
  let project : Project := { id := id, name := name, orgId := orgObj.id, createdAt := now }
  dbSet .projects id project
  dbSet .projectNameIdx nameKey id
  return project

def getProjectById (db : OrgDb) (id : ProjectId) : Option Project := db.get .projects id

/-- Move a project stored under its name to a fresh identifier, taking the identifier of its org. -/
def migrateProject (org name : String) (project : Project) : OrgM Project := do
  let nameKey := projectNameKey org name
  let newId ← generateId "proj"
  let orgId := ((← get org).map (·.id)).getD project.orgId
  let project := { project with id := newId, orgId := orgId }
  dbSet .projects newId project
  dbSet .projectNameIdx nameKey newId
  let _ ← dbDelete .projects nameKey
  return project

def getProject (org name : String) : OrgM (Option Project) := do
  let nameKey := projectNameKey org name
  match ← dbGet .projectNameIdx nameKey with
  | some id => dbGet OrgTable.projects id
  | none =>
    match ← dbGet .projects nameKey with
    | some project => return some (← migrateProject org name project)
    | none => return none

def listEnvs (db : OrgDb) (org project : String) : List Environment :=
  listIndexed db .envNameIdx .environments s!"{org}/{project}/" id

def deleteProject (org name : String) : OrgM Unit := do
  let project ← Tx.orThrow (← getProject org name) (.projectNotFound org name)
  let envs ← query fun db => listEnvs db org name
  Tx.rejectIf (!envs.isEmpty) (.projectHasEnvironments org name)
  let _ ← dbDelete .projects project.id
  let _ ← dbDelete .projectNameIdx (projectNameKey org name)

/-! ### Environments -/

def envNameKey (org project env : String) : String := s!"{org}/{project}/{env}"

/-- Addition of seconds as the release build does it. -/
def addSecs (a b : ℕ) : ℕ := (a + b) % 2 ^ 64

def createEnv (org project name : String) (ttl : Option ℕ) (deletionProtection : Bool)
    (labels : Labels) : OrgM Environment := do
  check (validateName name "environment")
  let projectObj ← Tx.orThrow (← getProject org project) (.projectNotFound org project)
  let nameKey := envNameKey org project name
  Tx.rejectIf (← dbExists .envNameIdx nameKey) (.envAlreadyExists name)
  Tx.rejectIf (← dbExists .environments nameKey) (.envAlreadyExists name)
  let createdAt ← nowSecs
  let id ← generateId "env"
  let env : Environment :=
    { id := id
      name := name
      projectId := projectObj.id
      ttl := ttl
      deletionProtection := deletionProtection
      labels := labels
      createdAt := createdAt
      expiresAt := ttl.map (addSecs createdAt) }
  dbSet .environments id env
  dbSet .envNameIdx nameKey id
  return env

/-- Move an environment stored under its name to a fresh identifier, taking the identifier of its
project. -/
def migrateEnv (org project name : String) (env : Environment) : OrgM Environment := do
  let nameKey := envNameKey org project name
  let newId ← generateId "env"
  let projectId := ((← getProject org project).map (·.id)).getD env.projectId
  let env := { env with id := newId, projectId := projectId }
  dbSet .environments newId env
  dbSet .envNameIdx nameKey newId
  let _ ← dbDelete .environments nameKey
  return env

def getEnv (org project name : String) : OrgM Environment := do
  let nameKey := envNameKey org project name
  match ← dbGet .envNameIdx nameKey with
  | some id => Tx.orThrow (← dbGet .environments id) (.envNotFound name)
  | none =>
    match ← dbGet .environments nameKey with
    | some env => migrateEnv org project name env
    | none => throw (.envNotFound name)

/-- The new time to live counts from now, not from the creation. -/
def extendEnv (org project name : String) (ttl : ℕ) : OrgM Environment := do
  let env ← getEnv org project name
  let now ← nowSecs
  let env := { env with ttl := some ttl, expiresAt := some (addSecs now ttl) }
  dbSet .environments env.id env
  return env

def updateEnvProtection (org project name : String) (enabled : Bool) : OrgM Environment := do
  let env ← getEnv org project name
  let env := { env with deletionProtection := enabled }
  dbSet .environments env.id env
  return env

def deleteEnv (org project name : String) : OrgM Unit := do
  let env ← getEnv org project name
  Tx.rejectIf env.deletionProtection (.envProtected name)
  let _ ← dbDelete .environments env.id
  let _ ← dbDelete .envNameIdx (envNameKey org project name)

end OrgStore

end Syfrah
