import Syfrah.State.LayerDb

/-!
# Fencing of VMs by placement generations

A node remembers with which generation it started each of its VMs. A check against the placements of the
cluster tells it which of them to stop.
-/

namespace Syfrah

namespace Forge

structure FencingTracker where
  -- the generation of each VM on this node
  localGenerations : Table ℕ
  nodeId : String

inductive FencingVerdict
  | ok
  | fenced (vmId reason : String)
deriving DecidableEq

/-- A row of the placement table: the VM, the generation of its placement and its hypervisor. -/
structure RaftPlacement where
  vmId : String
  generation : ℕ
  hypervisorId : String

namespace FencingTracker

def new (nodeId : String) : FencingTracker := ⟨∅, nodeId⟩

def recordPlacement (vmId : String) (generation : ℕ) (tracker : FencingTracker) : FencingTracker :=
  { tracker with localGenerations := tracker.localGenerations.insert vmId generation }

def removePlacement (vmId : String) (tracker : FencingTracker) : FencingTracker :=
  { tracker with localGenerations := tracker.localGenerations.erase vmId }

def check (tracker : FencingTracker) (vmId : String) (raftGeneration : ℕ) (raftHypervisorId : String) :
    FencingVerdict :=
  match tracker.localGenerations[vmId]? with
  | none => .ok
  | some localGen =>
    if localGen < raftGeneration && raftHypervisorId != tracker.nodeId then
      .fenced vmId s!"rescheduled: local gen {localGen} < raft gen {raftGeneration}, now on {raftHypervisorId}"
    else if localGen == raftGeneration && raftHypervisorId != tracker.nodeId then
      .fenced vmId s!"wrong node: placed on {raftHypervisorId}, not {tracker.nodeId}"
    else .ok

/-- What `check_all` says of one row. -/
def checkRow (tracker : FencingTracker) (p : RaftPlacement) : Option FencingVerdict :=
  match tracker.localGenerations[p.vmId]? with
  | none => none
  | some localGen =>
    if localGen < p.generation && p.hypervisorId != tracker.nodeId then
      some (.fenced p.vmId s!"rescheduled: local gen {localGen} < raft gen {p.generation}")
    else if localGen == p.generation && p.hypervisorId != tracker.nodeId then
      some (.fenced p.vmId s!"wrong node: placed on {p.hypervisorId}")
    else none

def checkAll (tracker : FencingTracker) (raftPlacements : List RaftPlacement) : List FencingVerdict :=
  raftPlacements.filterMap tracker.checkRow

def stopFenced (tracker : FencingTracker) : FencingVerdict → FencingTracker
  | .ok => tracker
  | .fenced vmId _ => tracker.removePlacement vmId

/-- Check all placements and stop what is to be fenced. -/
def fence (raftPlacements : List RaftPlacement) (tracker : FencingTracker) : FencingTracker :=
  (tracker.checkAll raftPlacements).foldl stopFenced tracker

end FencingTracker

end Forge

end Syfrah
