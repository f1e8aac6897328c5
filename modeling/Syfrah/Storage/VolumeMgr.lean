import Syfrah.State.LayerDb

/-!
# The health of the volumes of a node

Each running volume has a tracker of whether S3 was reachable and of the bytes that are not flushed.
Instants and durations are in nanoseconds. Of a process, only its tracker is kept.
-/

namespace Syfrah

namespace Storage

inductive VolumeHealth
  | healthy
  | degraded
  | error
deriving DecidableEq

structure S3HealthConfig where
  degradedAfter : ℕ := 5 * 60 * 10 ^ 9
  errorAfter : ℕ := 30 * 60 * 10 ^ 9
  maxDirtyBytes : ℕ := 1073741824

structure VolumeHealthTracker where
  health : VolumeHealth := .healthy
  s3UnreachableSince : Option ℕ := none
  dirtyBytes : ℕ := 0
  flushInProgress : Bool := false
deriving DecidableEq

namespace VolumeHealthTracker

variable (config : S3HealthConfig) (t : VolumeHealthTracker)

def recomputeHealth (now : ℕ) : VolumeHealthTracker :=
  match t.s3UnreachableSince with
  | none => t
  | some since =>
    let elapsed := now - since
    if config.errorAfter ≤ elapsed then { t with health := .error }
    else if config.degradedAfter ≤ elapsed then { t with health := .degraded }
    else t

def recordS3Unreachable (now : ℕ) : VolumeHealthTracker :=
  recomputeHealth config { t with s3UnreachableSince := some (t.s3UnreachableSince.getD now) } now

def recordS3Reachable : VolumeHealthTracker :=
  if 0 < t.dirtyBytes then
    { t with
      s3UnreachableSince := none, flushInProgress := true
      health := if t.health = .error then .degraded else t.health }
  else { t with s3UnreachableSince := none, health := .healthy, flushInProgress := false }

/-- The count is a `u64` and saturates. -/
def addDirtyBytes (bytes : ℕ) : VolumeHealthTracker :=
  { t with dirtyBytes := min (t.dirtyBytes + bytes) (2 ^ 64 - 1) }

def flushBytes (bytes : ℕ) : VolumeHealthTracker :=
  let t := { t with dirtyBytes := t.dirtyBytes - bytes }
  if t.dirtyBytes = 0 then
    { t with
      flushInProgress := false
      health := if t.s3UnreachableSince = none then .healthy else t.health }
  else t

def canAcceptWrite : Bool := t.health ≠ .error && decide (t.dirtyBytes < config.maxDirtyBytes)

end VolumeHealthTracker

structure VolumeMgr where
  processes : Table VolumeHealthTracker
  s3HealthConfig : S3HealthConfig

namespace VolumeMgr

variable (m : VolumeMgr)

def startVolume (volumeId : String) : VolumeMgr :=
  if volumeId ∈ m.processes then m else { m with processes := m.processes.insert volumeId {} }

def update (volumeId : String) (f : VolumeHealthTracker → VolumeHealthTracker) : VolumeMgr :=
  { m with processes := m.processes.modify volumeId f }

def recordS3Probe (volumeId : String) (reachable : Bool) (now : ℕ) : VolumeMgr :=
  m.update volumeId fun t => if reachable then t.recordS3Reachable else t.recordS3Unreachable m.s3HealthConfig now

def recordS3ProbeAll (reachable : Bool) (now : ℕ) : VolumeMgr :=
  { m with processes := m.processes.map fun _ t =>
      if reachable then t.recordS3Reachable else t.recordS3Unreachable m.s3HealthConfig now }

def addDirtyBytes (volumeId : String) (bytes : ℕ) : VolumeMgr := m.update volumeId (·.addDirtyBytes bytes)

def recordFlush (volumeId : String) (bytes : ℕ) : VolumeMgr := m.update volumeId (·.flushBytes bytes)

inductive MgrError
  | notRunning (volumeId : String)
  | writeRejected (volumeId : String)
deriving DecidableEq

def checkWriteAllowed (volumeId : String) : Except MgrError Unit :=
  match m.processes[volumeId]? with
  | none => .error (.notRunning volumeId)
  | some t => if t.canAcceptWrite m.s3HealthConfig then .ok () else .error (.writeRejected volumeId)

end VolumeMgr

end Storage

end Syfrah
