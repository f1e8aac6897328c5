import Syfrah.ControlPlane.Apply

/-!
# Snapshots and log entries

A snapshot carries the raw tables of all stores under their names, the storage state and the Raft
bookkeeping. The export leaves out empty tables, and the import leaves alone the tables it finds no
entry for.
-/

namespace Syfrah

/-- The tables of a store: their order and names, and the raw form of their records. -/
structure Schema {T : Type} (Row : T → Type) where
  tableNames : List T
  name : T → String
  wrap : (t : T) → Row t → RawRow
  unwrap : (t : T) → RawRow → Option (Row t)
  mem_tableNames : ∀ t, t ∈ tableNames
  unwrap_wrap : ∀ t row, unwrap t (wrap t row) = some row

def orgSchema : Schema OrgTable.Row where
  tableNames := OrgTable.tableNames
  name := OrgTable.name
  wrap := .org
  unwrap t
    | .org t' row => if h : t' = t then some (h ▸ row) else none
    | _ => none
  mem_tableNames t := by cases t <;> decide
  unwrap_wrap t row := by simp

def ipamSchema : Schema IpamTable.Row where
  tableNames := IpamTable.tableNames
  name := IpamTable.name
  wrap := .ipam
  unwrap t
    | .ipam t' row => if h : t' = t then some (h ▸ row) else none
    | _ => none
  mem_tableNames t := by cases t <;> decide
  unwrap_wrap t row := by simp

def placementSchema : Schema PlacementTable.Row where
  tableNames := PlacementTable.tableNames
  name := PlacementTable.name
  wrap := .placement
  unwrap t
    | .placement t' row => if h : t' = t then some (h ▸ row) else none
    | _ => none
  mem_tableNames t := by cases t; decide
  unwrap_wrap t row := by simp

def sgRuleSchema : Schema SgRuleTable.Row where
  tableNames := SgRuleTable.tableNames
  name := SgRuleTable.name
  wrap := .sgRule
  unwrap t
    | .sgRule t' row => if h : t' = t then some (h ▸ row) else none
    | _ => none
  mem_tableNames t := by cases t; decide
  unwrap_wrap t row := by simp

def hypervisorSchema : Schema HypervisorTable.Row where
  tableNames := HypervisorTable.tableNames
  name := HypervisorTable.name
  wrap := .hypervisor
  unwrap t
    | .hypervisor t' row => if h : t' = t then some (h ▸ row) else none
    | _ => none
  mem_tableNames t := by cases t <;> decide
  unwrap_wrap t row := by simp

def storageSchema : Schema StorageTable.Row where
  tableNames := StorageTable.tableNames
  name := StorageTable.name
  wrap := .storage
  unwrap t
    | .storage t' row => if h : t' = t then some (h ▸ row) else none
    | _ => none
  mem_tableNames t := by cases t <;> decide
  unwrap_wrap t row := by simp

section Tables

variable {T : Type} {Row : T → Type} (schema : Schema Row)

abbrev RawTables := Table (List (String × RawRow))

def exportTableRaw (db : LayerDb Row) (t : T) : List (String × RawRow) :=
  (db.list t).map fun entry => (entry.1, schema.wrap t entry.2)

def readRaw (t : T) (entries : List (String × RawRow)) : Table (Row t) :=
  entries.foldl (fun table entry =>
    match schema.unwrap t entry.2 with
    | some row => table.insert entry.1 row
    | none => table) ∅

/-- Replace the content of a table by raw entries. -/
def importTableRaw [DecidableEq T] (db : LayerDb Row) (t : T)
    (entries : List (String × RawRow)) : LayerDb Row :=
  ⟨Function.update db.table t (readRaw schema t entries)⟩

/-- Add a table to an export; an empty table is skipped. -/
def exportTable (db : LayerDb Row) (tables : RawTables) (t : T) : RawTables :=
  if (exportTableRaw schema db t).isEmpty then tables
  else tables.insert (schema.name t) (exportTableRaw schema db t)

def exportStore (db : LayerDb Row) (tables : RawTables) : RawTables :=
  schema.tableNames.foldl (exportTable schema db) tables

/-- Import a table; one that is not in the export is left alone. -/
def importTable [DecidableEq T] (tables : RawTables) (db : LayerDb Row) (t : T) : LayerDb Row :=
  match tables[schema.name t]? with
  | some entries => importTableRaw schema db t entries
  | none => db

def importStore [DecidableEq T] (tables : RawTables) (db : LayerDb Row) : LayerDb Row :=
  schema.tableNames.foldl (importTable schema tables) db

def exportOptional (db : Option (LayerDb Row)) (tables : RawTables) : RawTables :=
  match db with
  | some db => exportStore schema db tables
  | none => tables

end Tables

namespace RedbStateMachine

def exportStoreTables (sm : RedbStateMachine) : RawTables :=
  let tables := exportStore orgSchema sm.orgStore ∅
  let tables := exportOptional ipamSchema sm.ipamStore tables
  let tables := exportOptional placementSchema sm.placementStore tables
  let tables := exportOptional sgRuleSchema sm.sgRuleStore tables
  let tables := exportOptional hypervisorSchema sm.hypervisorStore tables
  exportOptional storageSchema sm.storageStore tables

def importStoreTables (sm : RedbStateMachine) (tables : RawTables) : RedbStateMachine :=
  { sm with
    orgStore := importStore orgSchema tables sm.orgStore
    ipamStore := sm.ipamStore.map (importStore ipamSchema tables)
    placementStore := sm.placementStore.map (importStore placementSchema tables)
    sgRuleStore := sm.sgRuleStore.map (importStore sgRuleSchema tables)
    hypervisorStore := sm.hypervisorStore.map (importStore hypervisorSchema tables)
    storageStore := sm.storageStore.map (importStore storageSchema tables) }

/-- Build a snapshot; the state machine keeps it as its current one. -/
def buildSnapshot (sm : RedbStateMachine) : SmSnapshot × RedbStateMachine :=
  let data : FullSnapshotData :=
    { smState := sm.smState, tables := sm.exportStoreTables, storage := sm.storage }
  let idx := sm.snapshotIdx + 1
  let snapshotId := match sm.smState.lastAppliedLog with
    | some last => s!"{last.leaderId}-{last.index}-{idx}"
    | none => s!"--{idx}"
  let info : SnapshotMeta :=
    { lastLogId := sm.smState.lastAppliedLog
      lastMembership := sm.smState.lastMembership
      snapshotId := snapshotId }
  let snapshot : SmSnapshot := { info := info, data := .full data }
  (snapshot,
    { sm with
      snapshotIdx := idx
      currentSnapshot := some snapshot
      snapshotCount := sm.snapshotCount + 1
      entriesSinceSnapshot := 0 })

def addedEvent (p : VmPlacement) : PlacementEvent :=
  .added p.vpcId p.vmId p.vmMac p.vmIp p.subnetId p.hypervisorId

def restoredEvents : Option PlacementDb → List PlacementEvent
  | some db => (PlacementStore.listAll db).map addedEvent
  | none => []

/-- Install a snapshot: the full format restores the tables and the storage state, the older one only
the Raft bookkeeping, and other bytes are an error. -/
def installSnapshot (sm : RedbStateMachine) (snapshot : SmSnapshot) :
    Except String RedbStateMachine :=
  let finish (sm : RedbStateMachine) (state : SmState) : RedbStateMachine :=
    { sm with smState := state, currentSnapshot := some snapshot, entriesSinceSnapshot := 0 }
  match snapshot.data with
  | .full data =>
    let sm := sm.importStoreTables data.tables
    .ok (finish
      { sm with
        placementTx := sm.placementTx ++ restoredEvents sm.placementStore
        storage := data.storage } data.smState)
  | .smState state => .ok (finish sm state)
  | .other => .error "invalid snapshot data"

end RedbStateMachine

/-! ### Log entries -/

/-- What a state machine is given: a command, or a snapshot to install. -/
inductive SmInput
  | command (cmd : StateMachineCommand)
  | snapshot (snapshot : SmSnapshot)

/-- A state machine takes an input; a snapshot that cannot be read changes nothing. -/
def Replica.input : SmInput → Replica → Unit × Replica
  | .command cmd, r => ((), (applyCommand cmd r).2)
  | .snapshot snapshot, r =>
    match r.sm.installSnapshot snapshot with
    | .ok sm => ((), { r with sm := sm })
    | .error _ => ((), r)

end Syfrah
