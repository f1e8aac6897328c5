import Syfrah.Org.Store

/-!
# Placement, security group rule and hypervisor stores
-/

namespace Syfrah

/-! ### Placements -/

inductive PlacementTable
  | vmPlacements
deriving DecidableEq

namespace PlacementTable

abbrev Row : PlacementTable → Type
  | vmPlacements => VmPlacement

def name : PlacementTable → String
  | vmPlacements => "vm_placements"

def tableNames : List PlacementTable := [vmPlacements]

end PlacementTable

abbrev PlacementDb := LayerDb PlacementTable.Row

abbrev PlacementM (α : Type) := StoreM PlacementTable.Row OrgError α

namespace PlacementStore

def key (vpcId vmId : String) : String := s!"{vpcId}/{vmId}"

def addPlacement (placement : VmPlacement) : PlacementM Unit :=
  dbSet .vmPlacements (key placement.vpcId placement.vmId) placement

def removePlacement (vpcId vmId : String) : PlacementM Unit := do
  let existed ← dbDelete .vmPlacements (key vpcId vmId)
  Tx.rejectIf (!existed) (.notFound s!"placement {vpcId}/{vmId}")

def listAll (db : PlacementDb) : List VmPlacement := (db.list .vmPlacements).map Prod.snd

end PlacementStore

/-! ### Security group rules -/

inductive SgRuleTable
  | sgRules
deriving DecidableEq

namespace SgRuleTable

abbrev Row : SgRuleTable → Type
  | sgRules => SecurityGroupRule

def name : SgRuleTable → String
  | sgRules => "sg_rules"

def tableNames : List SgRuleTable := [sgRules]

end SgRuleTable

abbrev SgRuleDb := LayerDb SgRuleTable.Row

abbrev SgRuleM (α : Type) := StoreM SgRuleTable.Row OrgError α

namespace SgRuleStore

def validate (rule : SecurityGroupRule) : Except OrgError Unit :=
  match rule.portRange with
  | none => .ok ()
  | some pr =>
    if pr.fromPort == 0 || pr.toPort == 0 then
      .error (.invalidPortRange "port must be between 1 and 65535")
    else if pr.toPort < pr.fromPort then
      .error (.invalidPortRange
        s!"from port ({pr.fromPort}) must be <= to port ({pr.toPort})")
    else .ok ()

def addRule (rule : SecurityGroupRule) : SgRuleM Unit := do
  OrgStore.check (validate rule)
  Tx.rejectIf (← dbExists .sgRules rule.id) (.ruleAlreadyExists rule.id)
  dbSet .sgRules rule.id rule

def removeRule (ruleId : String) : SgRuleM Unit := do
  let existed ← dbDelete .sgRules ruleId
  Tx.rejectIf (!existed) (.ruleNotFound ruleId)

end SgRuleStore

/-! ### Hypervisors -/

inductive HypervisorTable
  | hypervisors
  | nameIndex
deriving DecidableEq

namespace HypervisorTable

abbrev Row : HypervisorTable → Type
  | hypervisors => Hypervisor
  | nameIndex => String

def name : HypervisorTable → String
  | hypervisors => "hypervisors"
  | nameIndex => "hypervisors_name_idx"

def tableNames : List HypervisorTable := [hypervisors, nameIndex]

end HypervisorTable

abbrev HypervisorDb := LayerDb HypervisorTable.Row

abbrev HypervisorM (α : Type) := StoreM HypervisorTable.Row OrgError α

namespace HypervisorStore

/-- Identifier from the clock and the process: both halves depend on the node. -/
def generateHypervisorId : HypervisorM HypervisorId :=
  Tx.take fun s =>
    let ts := s.2.nowMillis.1
    let rand := (ts % 2 ^ 32) ^^^ (s.2.pid % 2 ^ 32)
    ("hv-" ++ Text.hexPad 10 ts ++ Text.hexPad 8 rand, (s.1, s.2.nowMillis.2))

def create (hv : Hypervisor) : HypervisorM Unit := do
  Tx.rejectIf (← dbExists .nameIndex hv.name) (.alreadyExists hv.name)
  Tx.rejectIf (← dbExists .hypervisors hv.id) (.alreadyExists hv.id)
  dbSet .hypervisors hv.id hv
  dbSet .nameIndex hv.name hv.id

def get (db : HypervisorDb) (name : String) : Option Hypervisor :=
  match db.get .nameIndex name with
  | some id => db.get .hypervisors id
  | none => none

/-- The transitions of the lifecycle of a hypervisor. -/
def validTransition : HypervisorState → HypervisorState → Bool
  | .registering, .notReady => true
  | .notReady, .available => true
  | .available, .draining => true
  | .available, .maintenance => true
  | .available, .decommissioned => true
  | .draining, .available => true
  | .draining, .maintenance => true
  | .maintenance, .available => true
  | .maintenance, .decommissioned => true
  | _, _ => false

def updateState (name : String) (newState : HypervisorState) : HypervisorM Unit := do
  let hv ← Tx.orThrow (← query fun db => get db name) (.notFound s!"hypervisor '{name}'")
  Tx.rejectIf (!validTransition hv.state newState)
    (.invalidStateTransition hv.state.display newState.display)
  dbSet .hypervisors hv.id { hv with state := newState }

def update (hv : Hypervisor) : HypervisorM Unit := do
  Tx.rejectIf (!(← dbExists .hypervisors hv.id)) (.notFound s!"hypervisor '{hv.name}'")
  dbSet .hypervisors hv.id hv
  dbSet .nameIndex hv.name hv.id

end HypervisorStore

end Syfrah
