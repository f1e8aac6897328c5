import Syfrah.ControlPlane.Apply

/-!
# The garbage collection worker and the WAL

Each node has a worker; a cycle reads the retention bound, deletes the WAL segments below it and, when
it deleted any, later submits the highest deleted position plus one. Commands are applied between
these steps.
-/

namespace Syfrah

namespace Gc

def segmentPosition (key : String) : Option ℕ :=
  (Text.stripStart key "wal/segment-").bind (Text.parseUnsigned (2 ^ 64))

/-- One listed segment: when it is strictly below the bound it is deleted, if the object store lets
it, and counts for the highest deleted position. -/
def deleteSegment (minPos : ℕ) (deleteOk : String → Bool) (highestDeleted : Option ℕ)
    (key : String) : Option ℕ :=
  match segmentPosition key with
  | none => highestDeleted
  | some position =>
    if minPos ≤ position then highestDeleted
    else if deleteOk key then some (highestDeleted.elim position fun h => max h position)
    else highestDeleted

/-- A WAL cycle; a failed listing is `none`. -/
def gcWalCycle (keys : Option (List String)) (deleteOk : String → Bool)
    (minWalPosition : Option ℕ) : Option ℕ :=
  match minWalPosition with
  | none => none
  | some minPos => if 0 < minPos then keys.bind fun keys => keys.foldl (deleteSegment minPos deleteOk) none
    else none

inductive Worker
  | idle
  | reading (minWal : Option ℕ)
  | acking (highestDeleted : ℕ)

structure Cluster where
  replica : Replica
  workers : ℕ → Worker

/-- Whether a command is the acknowledgement that only workers submit. -/
def isWalAck : Command → Bool
  | .gcCompleteWalSegments _ => true
  | _ => false

/-- A step of the cluster: a command of a client, or a step of the worker of a node. -/
inductive Action
  | command (c : Command) (client : isWalAck c = false)
  | read (node : ℕ)
  | delete (node : ℕ) (keys : Option (List String)) (deleteOk : String → Bool)
  | submit (node : ℕ)
  | abandon (node : ℕ)

namespace Cluster

def setWorker (s : Cluster) (node : ℕ) (w : Worker) : Cluster :=
  { s with workers := Function.update s.workers node w }

def apply (s : Cluster) (c : Command) : StateMachineResponse × Cluster :=
  ((applySingle c s.replica).1, { s with replica := (applySingle c s.replica).2 })

/-- The command a worker submits at the end of its cycle. -/
def ackCommand (highestDeleted : ℕ) : Command := .gcCompleteWalSegments (highestDeleted + 1)

end Cluster

open Cluster in
/-- One step; a worker step out of turn does nothing. -/
def step (a : Action) (s : Cluster) : Option StateMachineResponse × Cluster :=
  match a with
  | .command c _ => ((s.apply c).1, (s.apply c).2)
  | .read node =>
    match s.workers node with
    | .idle => (none, s.setWorker node (.reading s.replica.sm.storage.minWalPosition))
    | _ => (none, s)
  | .delete node keys deleteOk =>
    match s.workers node with
    | .reading minWal =>
      match gcWalCycle keys deleteOk minWal with
      | some highest => (none, s.setWorker node (.acking highest))
      | none => (none, s.setWorker node .idle)
    | _ => (none, s)
  | .submit node =>
    match s.workers node with
    | .acking highest =>
      let (response, s) := (s.setWorker node .idle).apply (ackCommand highest)
      (some response, s)
    | _ => (none, s)
  -- the submission fails, which the worker only logs
  | .abandon node =>
    match s.workers node with
    | .acking _ => (none, s.setWorker node .idle)
    | _ => (none, s)

end Gc

end Syfrah
