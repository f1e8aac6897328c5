import Syfrah.ControlPlane.Apply

/-!
# What a command can touch

Each command works on a few of the stores and, if it is a storage command, on the storage state. All
else stays as it was, whether the command succeeds or not.
-/

namespace Syfrah

open Replica

namespace Command

def stores : Command → List StoreName
  | allocateIp .. | releaseIp .. => [.ipam]
  | addSgRule .. | removeSgRule .. => [.sgRule]
  | registerHypervisor .. | enableHypervisor .. | drainHypervisor .. | decommissionHypervisor ..
  | updateHypervisorLabels .. | updateHypervisorTaints .. | updateHypervisorCapacity .. =>
      [.hypervisor]
  | placeVm .. | removeVm .. => [.placement]
  | rescheduleVm .. => [.placement, .storage]
  | setStorageQuota .. | setStorageConfig .. | purgeTombstones .. | createVolume ..
  | deleteVolume .. | volumeAttach .. | volumeDetach .. | rescheduleVolume ..
  | migrateVolumeToZone .. | completeMigration .. | rollbackMigration .. | resizeVolume ..
  | restoreSnapshot .. => [.storage]
  | createVmIntent .. | updateVmPhase .. | deleteVmIntent .. | createSnapshot .. | deleteSnapshot ..
  | commitManifest .. | markRestoreBegin .. | markRestoreComplete .. | gcCompleteSsts ..
  | gcCompleteWalSegments .. => []
  | _ => [.org]

def changesStorage : Command → Bool
  | rescheduleVm .. | setStorageQuota .. | setStorageConfig .. | purgeTombstones ..
  | createVolume .. | deleteVolume .. | volumeAttach .. | volumeDetach .. | rescheduleVolume ..
  | migrateVolumeToZone .. | completeMigration .. | rollbackMigration .. | resizeVolume ..
  | restoreSnapshot .. | createVmIntent .. | updateVmPhase .. | deleteVmIntent ..
  | createSnapshot .. | deleteSnapshot .. | commitManifest .. | markRestoreBegin ..
  | markRestoreComplete .. | gcCompleteSsts .. | gcCompleteWalSegments .. => true
  | _ => false

end Command

namespace Replica

structure Only (stores : List StoreName) (storage : Bool) (r r' : Replica) : Prop where
  store : ∀ n, n ∉ stores → r'.sm.store n = r.sm.store n
  storage : storage = false → r'.sm.storage = r.sm.storage
  smState : r'.sm.smState = r.sm.smState
  placementTx : .placement ∉ stores → r'.sm.placementTx = r.sm.placementTx

variable {stores : List StoreName} {storage : Bool} {α : Type}

instance : IsPreorder Replica (Only stores storage) where
  refl _ := ⟨fun _ _ => rfl, fun _ => rfl, rfl, fun _ => rfl⟩
  trans _ _ _ h h' :=
    ⟨fun n hn => (h'.store n hn).trans (h.store n hn),
      fun hs => (h'.storage hs).trans (h.storage hs), h'.smState.trans h.smState,
      fun hn => (h'.placementTx hn).trans (h.placementTx hn)⟩

section Access

open Tx

@[simp]
theorem org_query (f : OrgDb → α) (r : Replica) :
    org (query f) r = (.ok (f r.sm.orgStore), r) := rfl

theorem only_org_query {f : OrgDb → α} : Steps (Only stores storage) (org (query f)) :=
  fun r => refl_of (Only stores storage) r

theorem only_zoom_org {m : OrgM α} (h : .org ∈ stores) :
    Steps (Only stores storage) (Tx.zoom orgLens m) := by
  refine fun r => ⟨fun n hn => ?_, fun _ => rfl, rfl, fun _ => rfl⟩
  cases n with
  | org => exact absurd h hn
  | _ => rfl

theorem only_org {m : OrgM α} (h : .org ∈ stores) : Steps (Only stores storage) (org m) := by
  intro r
  have hframe : Only stores storage r (Tx.zoom orgLens m r).2 := only_zoom_org h r
  unfold org Tx.mapError
  rcases hrun : Tx.zoom orgLens m r with ⟨result, r'⟩
  rw [hrun] at hframe
  cases result <;> exact hframe

variable {T : Type} {Row : T → Type}

theorem only_onStore {l : Lens RedbStateMachine (Option (LayerDb Row))} {missing : String}
    {m : StoreM Row OrgError α}
    (hset : ∀ db r ambient, Only stores storage r { sm := l.set db r.sm, ambient := ambient }) :
    Steps (Only stores storage) (onStore l missing m) := by
  intro r
  unfold onStore
  split
  · exact refl_of (Only stores storage) r
  · exact hset _ _ _

theorem only_ipam {m : IpamM α} (h : .ipam ∈ stores) : Steps (Only stores storage) (ipam m) := by
  refine only_onStore fun db r ambient => ⟨fun n hn => ?_, fun _ => rfl, rfl, fun _ => rfl⟩
  cases n with
  | ipam => exact absurd h hn
  | _ => rfl

theorem only_placement {m : PlacementM α} (h : .placement ∈ stores) :
    Steps (Only stores storage) (placement m) := by
  refine only_onStore fun db r ambient => ⟨fun n hn => ?_, fun _ => rfl, rfl, fun _ => rfl⟩
  cases n with
  | placement => exact absurd h hn
  | _ => rfl

theorem only_sgRule {m : SgRuleM α} (h : .sgRule ∈ stores) :
    Steps (Only stores storage) (sgRule m) := by
  refine only_onStore fun db r ambient => ⟨fun n hn => ?_, fun _ => rfl, rfl, fun _ => rfl⟩
  cases n with
  | sgRule => exact absurd h hn
  | _ => rfl

theorem only_hypervisor {m : HypervisorM α} (h : .hypervisor ∈ stores) :
    Steps (Only stores storage) (hypervisor m) := by
  refine only_onStore fun db r ambient => ⟨fun n hn => ?_, fun _ => rfl, rfl, fun _ => rfl⟩
  cases n with
  | hypervisor => exact absurd h hn
  | _ => rfl

theorem only_mirror {m : StorageStoreM Unit} (h : .storage ∈ stores) :
    Steps (Only stores storage) (mirror m) := by
  intro r
  unfold mirror
  split
  · exact refl_of (Only stores storage) r
  · refine ⟨fun n hn => ?_, fun _ => rfl, rfl, fun _ => rfl⟩
    cases n with
    | storage => exact absurd h hn
    | _ => rfl

theorem only_storageOp {f : StorageState → Except String (α × StorageState)} :
    Steps (Only stores true) (storageOp f) := by
  refine fun r => ⟨fun n _ => ?_, nofun, rfl, fun _ => rfl⟩
  cases n <;> rfl

theorem only_now : Steps (Only stores storage) now := by
  refine fun r => ⟨fun n _ => ?_, fun _ => rfl, rfl, fun _ => rfl⟩
  cases n <;> rfl

theorem only_nextOrder : Steps (Only stores storage) nextOrder := by
  refine fun r => ⟨fun n _ => ?_, fun _ => rfl, rfl, fun _ => rfl⟩
  cases n <;> rfl

theorem only_emit {event : PlacementEvent} (h : .placement ∈ stores) :
    Steps (Only stores storage) (emit event) := by
  refine fun r => ⟨fun n _ => ?_, fun _ => rfl, rfl, fun hn => absurd h hn⟩
  cases n <;> rfl

end Access

end Replica

namespace Handle

open Tx

theorem only_storageStep {stores : List StoreName} {f : StorageState → Except String StorageState}
    {response : StateMachineResponse} :
    Steps (Only stores true) (do storageStep f; return response) :=
  .bind only_storageOp fun _ => .pure

theorem only_onVolume {f : StorageState → Except String (VolumeRecord × StorageState)}
    {response : VolumeRecord → StateMachineResponse} :
    Steps (Only [.storage] true) (do let vol ← onVolume f; return response vol) :=
  .bind (.bind only_storageOp fun _ => .bind (only_mirror (by decide)) fun _ => .pure) fun _ => .pure

theorem only_modifyHypervisor {name : String} {missing : Handler StateMachineResponse}
    {f : Hypervisor → Hypervisor} (hmissing : Steps (Only [.hypervisor] false) missing) :
    Steps (Only [.hypervisor] false) (modifyHypervisor name missing f) := by
  refine .bind (only_hypervisor (by decide)) fun found => ?_
  cases found with
  | none => exact hmissing
  | some hv => exact .bind (only_hypervisor (by decide)) fun _ => .pure

theorem only_requirePlacement {stores : List StoreName} {storage : Bool} {vmId : String}
    (h : .placement ∈ stores) : Steps (Only stores storage) (requirePlacement vmId) :=
  .bind (only_placement h) fun _ => .orThrow

theorem only_requireSubnet {stores : List StoreName} {storage : Bool} {subnetId : String} :
    Steps (Only stores storage) (requireSubnet subnetId) :=
  .bind only_org_query fun _ => .orThrow

theorem only_requireVpc {stores : List StoreName} {storage : Bool} {vpc : String} :
    Steps (Only stores storage) (requireVpc vpc) :=
  .bind only_org_query fun _ => .orThrow

theorem only_requireRouteTable {stores : List StoreName} {storage : Bool} {vpcId : VpcId}
    {table : String} : Steps (Only stores storage) (requireRouteTable vpcId table) :=
  .bind only_org_query fun _ => .orThrow

theorem only_uniqueSubnet {stores : List StoreName} {storage : Bool} {subnet : String} :
    Steps (Only stores storage) (uniqueSubnet subnet) := by
  refine .bind only_org_query fun found => ?_
  split
  · exact .pure
  · exact .throw
  · exact .throw

theorem only_autoCreateVpc {vpc : String} : Steps (Only [.org] false) (autoCreateVpc vpc) := by
  refine .bind only_org_query fun missing => ?_
  split
  · split
    · exact .pure
    · refine .bind (.result (only_zoom_org (by decide))) fun result => ?_
      cases result with
      | ok vpc => exact .pure
      | error e => exact .throw
  · exact .pure

theorem only_createNatGw {name vpc subnet : String} :
    Steps (Only [.org] false) (createNatGw name vpc subnet) := by
  refine .bind only_requireVpc fun vpcObj => .bind only_org_query fun inVpc => ?_
  split
  · exact .throw
  · exact .bind (only_org (by decide)) fun _ => .pure
  · exact .throw

theorem only_createNic {vmId subnetId ip mac : String} :
    Steps (Only [.org] false) (createNic vmId subnetId ip mac) := by
  refine .bind only_org_query fun subnet => .bind only_now fun now => ?_
  refine .bind (.result (only_zoom_org (by decide))) fun result => ?_
  cases result with
  | ok _ => exact .pure
  | error e =>
      dsimp only
      split
      · exact .pure
      · exact .throw

theorem only_addSgRule {sg dirText protoText : String} {port : Option String} {source : String} :
    Steps (Only [.sgRule] false) (addSgRule sg dirText protoText port source) :=
  .bind (only_sgRule (by decide)) fun _ => .bind only_org_query fun _ => .bind .orThrow fun _ =>
    .bind .orThrow fun _ => .bind .orThrow fun _ => .bind (only_sgRule (by decide)) fun _ => .pure

theorem only_registerHypervisor {name region zone fabricIpv6 : String} :
    Steps (Only [.hypervisor] false) (registerHypervisor name region zone fabricIpv6) := by
  refine .bind (only_hypervisor (by decide)) fun found => ?_
  cases found with
  | some hv => exact .bind (only_hypervisor (by decide)) fun _ => .pure
  | none =>
      exact .bind only_now fun _ => .bind (only_hypervisor (by decide)) fun _ =>
        .bind (only_hypervisor (by decide)) fun _ => .pure

theorem only_enableHypervisor {name : String} :
    Steps (Only [.hypervisor] false) (enableHypervisor name) := by
  refine .bind (only_hypervisor (by decide)) fun found => .bind ?_ fun _ =>
    .bind (only_hypervisor (by decide)) fun _ => .pure
  cases found with
  | none => exact .pure
  | some hv => exact .bind .read fun _ => .rejectIf

theorem only_rescheduleVm {vmId source target : String} {generation : ℕ} :
    Steps (Only [.placement, .storage] true) (rescheduleVm vmId source target generation) :=
  .bind (only_requirePlacement (by decide)) fun _ => .bind (only_placement (by decide)) fun _ =>
    .bind only_nextOrder fun _ => .bind only_storageOp fun moved =>
      .bind (.each (fun _ => only_mirror (by decide)) moved) fun _ => .pure

end Handle

open Handle Tx in
/-- **Frame of a command.** It writes only to its stores, and only storage commands change the
storage state. -/
theorem only_handle (c : Command) : Steps (Only c.stores c.changesStorage) (handle c) := by
  have hstore : ∀ {n : StoreName}, n ∈ [n] := List.mem_singleton_self _
  cases c with
  | createSubnet name vpc envId cidr =>
      exact .bind only_autoCreateVpc fun _ => .bind (only_org hstore) fun _ => .pure
  | updateEnv name project org deletionProtection =>
      cases deletionProtection with
      | none => exact .throw
      | some enabled => exact .bind (only_org hstore) fun _ => .pure
  | allocateIp subnetId =>
      exact .bind (only_ipam hstore) fun _ => .bind only_requireSubnet fun _ =>
        .bind (only_ipam hstore) fun _ => .pure
  | releaseIp subnetId ip =>
      exact .bind (only_ipam hstore) fun _ => .bind only_requireSubnet fun _ =>
        .bind (only_ipam hstore) fun _ => .pure
  | addSgRule sg direction protocol port source => exact only_addSgRule
  | removeSgRule sg ruleId => exact .bind (only_sgRule hstore) fun _ => .pure
  | createNatGw name vpc subnet => exact only_createNatGw
  | deleteNatGw name =>
      exact .bind (only_org hstore) fun _ => .bind .orThrow fun _ =>
        .bind (only_org hstore) fun _ => .pure
  | associateRouteTable table subnet =>
      exact .bind only_uniqueSubnet fun _ => .bind only_requireRouteTable fun _ =>
        .bind (only_org hstore) fun _ => .pure
  | disassociateRouteTable subnet =>
      exact .bind only_uniqueSubnet fun _ => .bind (only_org hstore) fun _ => .pure
  | addRoute vpc table destination target priority =>
      exact .bind only_requireVpc fun _ => .bind only_requireRouteTable fun _ =>
        .bind .orThrow fun _ => .bind (only_org hstore) fun _ => .pure
  | deleteRoute vpc table destination =>
      exact .bind only_requireVpc fun _ => .bind only_requireRouteTable fun _ =>
        .bind (only_org hstore) fun _ => .pure
  | createNic vmId subnetId ip mac => exact only_createNic
  | registerHypervisor name region zone fabricIpv6 => exact only_registerHypervisor
  | enableHypervisor name => exact only_enableHypervisor
  | drainHypervisor name => exact .bind (only_hypervisor hstore) fun _ => .pure
  | decommissionHypervisor name => exact .bind (only_hypervisor hstore) fun _ => .pure
  | updateHypervisorLabels name labels => exact only_modifyHypervisor .throw
  | updateHypervisorTaints name taints => exact only_modifyHypervisor .throw
  | updateHypervisorCapacity name _ _ _ _ => exact only_modifyHypervisor .pure
  | createVmIntent name image vcpus memoryMb zone subnet =>
      exact .bind only_now fun _ => only_storageStep
  | updateVmPhase vmId phase hypervisorId ip error =>
      exact .bind only_now fun _ => only_storageStep
  | deleteVmIntent vmId => exact .bind only_now fun _ => only_storageStep
  | placeVm vmId hypervisorId subnetId ip mac generation =>
      exact .bind (only_placement hstore) fun _ => .bind only_now fun _ =>
        .bind only_org_query fun _ => .bind (only_placement hstore) fun _ =>
          .bind (only_emit hstore) fun _ => .pure
  | removeVm vmId =>
      exact .bind (only_requirePlacement hstore) fun _ =>
        .bind (.result (only_placement hstore)) fun _ => .bind (only_emit hstore) fun _ => .pure
  | rescheduleVm vmId source target generation => exact only_rescheduleVm
  | setStorageQuota scope maxVolumes maxTotalGb maxSnapshots =>
      exact .bind only_storageOp fun _ => .bind (only_mirror hstore) fun _ => .pure
  | setStorageConfig region zone config =>
      exact .bind only_storageOp fun _ => .bind (only_mirror hstore) fun _ => .pure
  | purgeTombstones now maxAgeSecs =>
      exact .bind only_nextOrder fun _ => .bind only_storageOp fun purged =>
        .bind (.each (fun _ => only_mirror hstore) purged) fun _ => .pure
  | deleteVolume volumeId cascade deletedAt => exact .bind only_nextOrder fun _ => only_onVolume
  | createVolume | volumeAttach | volumeDetach | rescheduleVolume | migrateVolumeToZone
  | completeMigration | rollbackMigration | resizeVolume | restoreSnapshot => exact only_onVolume
  | createSnapshot | deleteSnapshot | commitManifest | markRestoreBegin | markRestoreComplete
  | gcCompleteSsts | gcCompleteWalSegments => exact only_storageStep
  -- the other commands run one operation of the organisation store
  | _ => exact .bind (only_org hstore) fun _ => .pure

theorem only_applySingle (c : Command) (r : Replica) :
    Only c.stores c.changesStorage r (applySingle c r).2 := only_handle c r

/-- **Frame of a log.** A log leaves alone every store that none of its executed commands names, and the
storage state if none of them changes it. -/
theorem log_keeps_unnamed (log : List StateMachineCommand) (r : Replica) :
    (∀ n, (∀ e ∈ executed log r, n ∉ e.action.stores) → (applyLog log r).2.sm.store n = r.sm.store n) ∧
      ((∀ e ∈ executed log r, e.action.changesStorage = false) → (applyLog log r).2.sm.storage = r.sm.storage) := by
  have hrun : Run applySingle r (executed log r) (applyLog log r).2 := Batch.run_executed log r
  constructor
  · intro n hunnamed
    refine hrun.invariant (I := fun _ t => t.sm.store n = r.sm.store n) rfl ?_ (.of_forall hunnamed)
    exact fun _ t c hkept hc => ((only_applySingle c t).store n hc).trans hkept
  · intro hidle
    refine hrun.invariant (I := fun _ t => t.sm.storage = r.sm.storage) rfl ?_ (.of_forall hidle)
    exact fun _ t c hkept hc => ((only_applySingle c t).storage hc).trans hkept

end Syfrah
