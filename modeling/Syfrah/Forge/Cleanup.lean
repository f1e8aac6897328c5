import Mathlib.Data.List.Basic

/-!
# Undoing a creation that failed

The steps of a creation are recorded as they succeed and undone in reverse order. The backend answers each
call as it likes, from the calls before it.
-/

namespace Syfrah

namespace Forge

inductive CompletedStep
  | ipAllocated (subnetId ip : String)
  | bridgeCreated (bridgeName : String)
  | vxlanCreated (vxlanName : String)
  | tapCreated (tapName : String)
  | bridgeAttached (tapName bridgeName : String)
  | nftablesApplied (tapName : String)
  | natApplied (bridgeName subnetCidr : String)
  | fdbAdded (bridgeName mac : String)
  | arpProxyAdded (vxlanName ip : String)
  | capacityReserved (name : String) (vcpus memoryMb : ℕ)
deriving DecidableEq

/-- Calls on the backend and the callbacks. -/
inductive UndoCall
  | releaseIp (subnetId ip : String)
  | releaseCapacity (name : String) (vcpus memoryMb : ℕ)
  | removeArpProxy (vxlanName ip : String)
  | removeFdbEntry (bridgeName mac : String)
  | removeNat (bridgeName subnetCidr : String)
  | removeVmRules (tapName : String)
  | deleteTap (tapName : String)
  | deleteVxlan (vxlanName : String)
  | deleteBridge (bridgeName : String)
deriving DecidableEq

/-- The result of a rollback, with the calls it made. -/
structure Rollback where
  attempted : ℕ := 0
  succeeded : ℕ := 0
  failed : ℕ := 0
  calls : List UndoCall := []
deriving DecidableEq

namespace Rollback

def succeed (r : Rollback) : Rollback := { r with succeeded := r.succeeded + 1 }

def fail (r : Rollback) : Rollback := { r with failed := r.failed + 1 }

def called (call : UndoCall) (r : Rollback) : Rollback := { r with calls := r.calls ++ [call] }

/-- A call on the backend, which says whether it succeeds. -/
def ask (backend : List UndoCall → UndoCall → Bool) (call : UndoCall) (r : Rollback) : Rollback :=
  if backend r.calls call then (r.called call).succeed else (r.called call).fail

/-- The body of the loop over the steps. -/
def visit (backend : List UndoCall → UndoCall → Bool) (ipRelease : Bool) (r : Rollback) (step : CompletedStep) :
    Rollback :=
  let r := { r with attempted := r.attempted + 1 }
  match step with
  -- the callback is not called: a warning says that the caller has to release
  | .capacityReserved _ _ _ => r.succeed
  | .arpProxyAdded vxlanName ip => r.ask backend (.removeArpProxy vxlanName ip)
  | .fdbAdded bridgeName mac => r.ask backend (.removeFdbEntry bridgeName mac)
  | .natApplied bridgeName subnetCidr => r.ask backend (.removeNat bridgeName subnetCidr)
  | .nftablesApplied tapName => r.ask backend (.removeVmRules tapName)
  -- implicit when the TAP device is deleted
  | .bridgeAttached _ _ => r.succeed
  | .tapCreated tapName => r.ask backend (.deleteTap tapName)
  | .vxlanCreated vxlanName => r.ask backend (.deleteVxlan vxlanName)
  | .bridgeCreated bridgeName => r.ask backend (.deleteBridge bridgeName)
  | .ipAllocated subnetId ip => if ipRelease then (r.called (.releaseIp subnetId ip)).succeed else r.fail

end Rollback

def CompletedStep.isIp : CompletedStep → Bool
  | .ipAllocated _ _ => true
  | _ => false

/-- The loop, which ends with the first address. -/
def rollbackLoop (backend : List UndoCall → UndoCall → Bool) (ipRelease : Bool) :
    List CompletedStep → Rollback → Rollback
  | [], r => r
  | step :: steps, r =>
    if step.isIp then r.visit backend ipRelease step
    else rollbackLoop backend ipRelease steps (r.visit backend ipRelease step)

/-- Roll back the recorded steps. The callbacks are there or not. -/
def rollback (backend : List UndoCall → UndoCall → Bool) (ipRelease _capacityRelease : Bool)
    (steps : List CompletedStep) : Rollback :=
  rollbackLoop backend ipRelease steps.reverse {}

end Forge

end Syfrah
