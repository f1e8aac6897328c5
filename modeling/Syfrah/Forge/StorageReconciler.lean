import Std.Data.ExtTreeSet
import Syfrah.ControlPlane.StorageState

/-!
# The storage reconciler

A pass brings the ZeroFS processes of a node in line with the replicated volumes: it reaps what has
exited, detaches, stops stale generations, starts what is missing, stops what nobody wants and attaches
volumes to their VMs. What the outside answers to each call is given; the calls are recorded in order.
-/

namespace Syfrah

namespace Forge

namespace StorageReconciler

structure DesiredVolume where
  id : String
  placementGeneration : ℕ
  vmId : Option String
deriving DecidableEq

structure DesiredDetach where
  volumeId : String
  vmId : String
  chDeviceId : String
  force : Bool
deriving DecidableEq

/-- What a reader of the replicated state answers in one pass. -/
structure Reader where
  desiredVolumes : List DesiredVolume
  pendingDetaches : List DesiredDetach
  deletedVolumes : List String
  hasStorageConfig : Bool

/-- The desired volumes by id; of two with one id the later counts. -/
def Reader.desiredMap (reader : Reader) : Table DesiredVolume :=
  reader.desiredVolumes.foldl (fun map vol => map.insert vol.id vol) ∅

def Reader.pendingDetachIds (reader : Reader) : List String := reader.pendingDetaches.map (·.volumeId)

/-- A call to the volume manager or to Cloud Hypervisor, and whether it succeeded. -/
inductive Call
  | removeDevice (volumeId vmId chDeviceId : String) (ok : Bool)
  | stopVolume (volumeId : String) (flush ok : Bool)
  | startVolume (volumeId : String) (generation : ℕ) (ok : Bool)
  | attachDisk (volumeId vmId : String) (ok : Bool)
  | cleanup (volumeId : String)
deriving DecidableEq

/-- What the outside does in one pass. -/
structure Outside where
  exited : String → Bool
  removeDevice : String → String → Except String Unit
  stop : String → Except String Unit
  start : String → Except String Unit
  attachDisk : String → String → Except String Unit

structure StorageReconcileReport where
  started : ℕ := 0
  stopped : ℕ := 0
  detached : ℕ := 0
  reaped : ℕ := 0
  attached : ℕ := 0
  cleanedUp : ℕ := 0
  errors : List String := []
deriving DecidableEq

/-- The reconciler of a node with the processes of its volume manager, by volume and generation. -/
structure Node where
  processes : Table ℕ := ∅
  attachedVolumes : Std.ExtTreeSet String := ∅
  report : StorageReconcileReport := {}
  calls : List Call := []

def succeeded (answer : Except String Unit) : Bool := answer.toBool

namespace Node

variable (o : Outside) (n : Node)

def call (c : Call) : Node := { n with calls := n.calls ++ [c] }

def failed (error : String) : Node := { n with report.errors := n.report.errors ++ [error] }

/-! ### The volume manager -/

def reapExited : Node :=
  { n with
    processes := n.processes.filter fun id _ => !o.exited id
    report.reaped := (n.processes.filter fun id _ => o.exited id).size }

/-- The process is forgotten whether or not it could be stopped. -/
def stopVolumeFlush (volumeId : String) (flush : Bool) : Except String Unit × Node :=
  if volumeId ∈ n.processes then
    (o.stop volumeId, { n with processes := n.processes.erase volumeId }.call
      (.stopVolume volumeId flush (succeeded (o.stop volumeId))))
  else (.error s!"volume {volumeId} is not running", n)

def stopVolume (volumeId : String) : Except String Unit × Node := n.stopVolumeFlush o volumeId true

/-! ### The steps of a pass -/

def settle (result : Except String Unit × Node) (ok : Node → Node) (error : String → Node → Node) : Node :=
  match result with
  | (.ok (), n) => ok n
  | (.error e, n) => error e n

def detached : Node := { n with report.detached := n.report.detached + 1 }

def detach (d : DesiredDetach) : Node :=
  if d.vmId = "" then settle (n.stopVolumeFlush o d.volumeId (!d.force)) detached fun _ n => n
  else if d.volumeId ∈ n.processes then
    let removed := o.removeDevice d.vmId d.chDeviceId
    settle (removed, n.call (.removeDevice d.volumeId d.vmId d.chDeviceId (succeeded removed)))
      (fun n => settle (n.stopVolumeFlush o d.volumeId (!d.force)) detached fun e n =>
        n.failed s!"detach-stop {d.volumeId}: {e}")
      fun e n => n.failed s!"detach-remove-device {d.volumeId}: {e}"
  else n

def stopped (id : String) : Node :=
  { n with report.stopped := n.report.stopped + 1, attachedVolumes := n.attachedVolumes.erase id }

def fence (running : Table ℕ) (vol : DesiredVolume) : Node :=
  match running[vol.id]? with
  | none => n
  | some generation =>
    if generation = vol.placementGeneration then n
    else settle (n.stopVolume o vol.id) (·.stopped vol.id) fun e n => n.failed s!"stop-stale {vol.id}: {e}"

def started (vol : DesiredVolume) : Node :=
  { n with
    processes := n.processes.insert vol.id vol.placementGeneration
    report.started := n.report.started + 1 }

def start (vol : DesiredVolume) : Node :=
  if vol.id ∈ n.processes then n
  else
    settle (o.start vol.id, n.call (.startVolume vol.id vol.placementGeneration (succeeded (o.start vol.id))))
      (·.started vol) fun e n => n.failed s!"start {vol.id}: {e}"

def cleanedUp (id : String) : Node := { n.call (.cleanup id) with report.cleanedUp := n.report.cleanedUp + 1 }

def stopUndesired (desired : Table DesiredVolume) (pendingDetachIds deletedIds : List String) (id : String) : Node :=
  if id ∈ desired ∨ id ∉ n.processes ∨ id ∈ pendingDetachIds then n
  else
    settle (n.stopVolume o id) (fun n => if id ∈ deletedIds then (n.stopped id).cleanedUp id else n.stopped id)
      fun e n => n.failed s!"stop {id}: {e}"

def attached (vol : DesiredVolume) : Node :=
  { n with attachedVolumes := n.attachedVolumes.insert vol.id, report.attached := n.report.attached + 1 }

def attach (vol : DesiredVolume) : Node :=
  match vol.vmId with
  | none => n
  | some vmId =>
    if vol.id ∈ n.processes ∧ n.attachedVolumes.contains vol.id = false then
      let answer := o.attachDisk vmId vol.id
      settle (answer, n.call (.attachDisk vol.id vmId (succeeded answer))) (·.attached vol)
        fun e n => n.failed s!"attach {vol.id} to {vmId}: {e}"
    else n

/-- One pass. Without an attacher no volume is attached. -/
def reconcileOnceFull (reader : Reader) (attacher : Bool) : Node :=
  let n := { n with report := {} }.reapExited o
  let n := reader.pendingDetaches.foldl (detach o) n
  if reader.hasStorageConfig then
    let volumes := reader.desiredMap.toList.map Prod.snd
    let running := n.processes
    let n := volumes.foldl (fence o · running) n
    let n := volumes.foldl (start o) n
    let n := running.keys.foldl (stopUndesired o · reader.desiredMap reader.pendingDetachIds reader.deletedVolumes) n
    if attacher then volumes.foldl (attach o) n else n
  else n

end Node

/-! ### Reading the replicated state -/

def assignedTo (hypervisorId : String) (vol : VolumeRecord) : Bool := vol.attachedHypervisorId = some hypervisorId

def desiredVolumes (s : StorageState) (localHypervisorId : String) : List DesiredVolume :=
  ((StorageState.values s.volumes).filter fun vol =>
    assignedTo localHypervisorId vol && (vol.state = .attached || vol.state = .available)).map fun vol =>
      ⟨vol.id, vol.placementGeneration, vol.attachedVmId⟩

def pendingDetaches (s : StorageState) (localHypervisorId : String) : List DesiredDetach :=
  ((StorageState.values s.volumes).filter fun vol =>
    vol.state = .available && assignedTo localHypervisorId vol).map fun vol =>
      ⟨vol.id, vol.attachedVmId.getD "", "_disk_" ++ vol.id, false⟩

def deletedVolumes (s : StorageState) (localHypervisorId : String) : List String :=
  ((StorageState.values s.volumes).filter fun vol =>
    vol.state = .deleted && assignedTo localHypervisorId vol).map (·.id)

/-- The reader over the state machine of the node. -/
def raftReader (s : StorageState) (localHypervisorId zone : String) : Reader :=
  { desiredVolumes := desiredVolumes s localHypervisorId
    pendingDetaches := pendingDetaches s localHypervisorId
    deletedVolumes := deletedVolumes s localHypervisorId
    hasStorageConfig := zone ∈ s.storageConfigs }

end StorageReconciler

end Forge

end Syfrah
