import Syfrah.State.LayerDb
import Syfrah.Lib.TreeMap
import Syfrah.Lib.Run

/-!
# Capacity tracking and admission control

The capacity tracker of a node and the handlers that create and delete VMs. Each counter of the tracker
has its own lock, so a handler is followed from one critical section to the next; `try_reserve` holds
the lock of the reservations over all of its work.
-/

namespace Syfrah

namespace Capacity

inductive Resource
  | vcpus
  | memoryMb
deriving DecidableEq

/-- vCPUs are counted in 32 bits and memory in 64. -/
def Resource.width : Resource → ℕ
  | vcpus => 2 ^ 32
  | memoryMb => 2 ^ 64

abbrev Amount := Resource → ℕ

/-- Milliseconds after which a reservation expires. -/
def reservationExpiry : ℕ := 60000

structure Reservation where
  amount : Amount
  createdAt : ℕ

def Reservation.live (now : ℕ) (r : Reservation) : Bool := now - r.createdAt < reservationExpiry

structure CapacityTracker where
  total : Amount
  used : Amount
  reservations : Table Reservation
  total_lt : ∀ res, total res < res.width

namespace CapacityTracker

/-- The reserved amount, as it is added up in the width of the counter. -/
def reserved (t : CapacityTracker) (res : Resource) : ℕ :=
  t.reservations.total (fun _ r => r.amount res) % res.width

/-- What is left next to a used amount and the reservations. -/
def available (t : CapacityTracker) (used : ℕ) (res : Resource) : ℕ :=
  t.total res - (used + t.reserved res) % res.width

def retain (t : CapacityTracker) (now : ℕ) : CapacityTracker :=
  { t with reservations := t.reservations.filter fun _ r => r.live now }

def remove (t : CapacityTracker) (id : String) : CapacityTracker :=
  { t with reservations := t.reservations.erase id }

def insert (t : CapacityTracker) (id : String) (r : Reservation) : CapacityTracker :=
  { t with reservations := t.reservations.insert id r }

def setUsed (t : CapacityTracker) (res : Resource) (used : ℕ) : CapacityTracker :=
  { t with used := Function.update t.used res used }

/-- One counter of `commit`. -/
def addUsed (t : CapacityTracker) (res : Resource) (amount : Amount) : CapacityTracker :=
  t.setUsed res ((t.used res + amount res) % res.width)

/-- One counter of `release`. -/
def subUsed (t : CapacityTracker) (res : Resource) (amount : Amount) : CapacityTracker :=
  t.setUsed res (t.used res - amount res)

end CapacityTracker

structure Spec where
  name : String
  amount : Amount

/-- A request that creates or deletes a VM. With a resource: the counter it turns to next. -/
inductive Handler
  /-- In `try_reserve`, with the reservations locked and the used vCPUs read. -/
  | reserving (spec : Spec) (usedVcpus : ℕ)
  | refused
  /-- The reservation is made and the VM is being created. -/
  | creating (spec : Spec)
  /-- In `commit`. -/
  | committing (spec : Spec) (next : Resource)
  | committed (spec : Spec)
  /-- In `release`, as the VM could not be created. -/
  | failing (spec : Spec) (next : Resource)
  | failed
  /-- In `release`, as the VM was deleted. -/
  | deleting (vm : ℕ) (spec : Spec) (next : Resource)
  | deleted (vm : ℕ)

namespace Handler

def isReserving : Handler → Bool
  | reserving .. => true
  | _ => false

def isCommitting : Handler → Bool
  | committing .. => true
  | _ => false

def vm : Handler → Option Spec
  | creating spec | committing spec _ | committed spec => some spec
  | _ => none

end Handler

/-- The tracker, the clock and the requests so far. `booked` keeps, for each counter, the VMs whose
commit has reached it and whose release has not, with their amounts. -/
structure Node where
  tracker : CapacityTracker
  now : ℕ
  handlers : List Handler
  booked : Resource → List (ℕ × ℕ)

namespace Node

def start (total : Amount) (htotal : ∀ res, total res < res.width) : Node where
  tracker := ⟨total, fun _ => 0, ∅, htotal⟩
  now := 0
  handlers := []
  booked _ := []

def unlocked (s : Node) : Bool := s.handlers.all fun h => !h.isReserving

/-- The end of `try_reserve`: the used memory is read and the request admitted or refused. -/
def finishReserve (s : Node) (i : ℕ) (spec : Spec) (usedVcpus : ℕ) : Node :=
  if spec.amount .vcpus ≤ s.tracker.available usedVcpus .vcpus ∧
      spec.amount .memoryMb ≤ s.tracker.available (s.tracker.used .memoryMb) .memoryMb then
    { s with
      tracker := s.tracker.insert spec.name ⟨spec.amount, s.now⟩
      handlers := s.handlers.set i (.creating spec) }
  else { s with handlers := s.handlers.set i .refused }

/-- A creation has ended: `commit` and `release` begin by dropping the reservation. -/
def created (s : Node) (i : ℕ) (spec : Spec) (ok : Bool) : Node :=
  { s with
    tracker := s.tracker.remove spec.name
    handlers := s.handlers.set i (if ok then .committing spec .vcpus else .failing spec .vcpus) }

/-- `commit` adds to a counter. -/
def commit (s : Node) (i : ℕ) (spec : Spec) (res : Resource) : Node :=
  { s with
    tracker := s.tracker.addUsed res spec.amount
    handlers := s.handlers.set i (match res with
      | .vcpus => .committing spec .memoryMb
      | .memoryMb => .committed spec)
    booked := Function.update s.booked res ((i, spec.amount res) :: s.booked res) }

/-- `release` takes from a counter, after a creation that failed. -/
def releaseFailed (s : Node) (i : ℕ) (spec : Spec) (res : Resource) : Node :=
  { s with
    tracker := s.tracker.subUsed res spec.amount
    handlers := s.handlers.set i (match res with
      | .vcpus => .failing spec .memoryMb
      | .memoryMb => .failed) }

/-- `release` takes from a counter, after a deletion. -/
def releaseDeleted (s : Node) (i vm : ℕ) (spec : Spec) (res : Resource) : Node :=
  { s with
    tracker := s.tracker.subUsed res spec.amount
    handlers := s.handlers.set i (match res with
      | .vcpus => .deleting vm spec .memoryMb
      | .memoryMb => .deleted vm)
    booked := Function.update s.booked res ((s.booked res).erase (vm, spec.amount res)) }

/-- The next critical section of a request. `ok` is whether the VM could be created. -/
def advance (s : Node) (i : ℕ) (ok : Bool) : Node :=
  match s.handlers[i]? with
  | some (.reserving spec usedVcpus) => s.finishReserve i spec usedVcpus
  | some (.creating spec) => if s.unlocked then s.created i spec ok else s
  | some (.committing spec res) => s.commit i spec res
  | some (.failing spec res) => s.releaseFailed i spec res
  | some (.deleting vm spec res) => s.releaseDeleted i vm spec res
  | _ => s

end Node

inductive Act
  | tick (elapsed : ℕ)
  /-- `purge_expired`. -/
  | purge
  /-- A creation begins with `try_reserve`. -/
  | create (spec : Spec)
  /-- A VM that the node knows was deleted under a name or id: `release` begins. -/
  | delete (vm : ℕ) (id : String)
  | advance (i : ℕ) (ok : Bool)

def Node.step : Act → Node → Unit × Node
  | .tick elapsed, s => ((), { s with now := s.now + elapsed })
  | .purge, s => ((), if s.unlocked then { s with tracker := s.tracker.retain s.now } else s)
  | .create spec, s => ((), if s.unlocked then
      { s with
        tracker := s.tracker.retain s.now
        handlers := s.handlers ++ [.reserving spec (s.tracker.used .vcpus)] } else s)
  | .delete vm id, s => ((), match (s.handlers[vm]?).bind Handler.vm with
      | some spec => if s.unlocked then
          { s with
            tracker := s.tracker.remove id
            handlers := s.handlers ++ [.deleting vm spec .vcpus] } else s
      | none => s)
  | .advance i ok, s => ((), s.advance i ok)

end Capacity

end Syfrah
