import Syfrah.State.LayerDb
import Mathlib.Data.Multiset.Count

/-!
# Images and the VMs made from them

A manager with image management on counts the VMs of each image, in memory. Calls run at the same time:
a creation looks its image up, enters the VM into the map and raises the count; a deletion reads the VM,
takes it out of the map and lowers the count; the deletion of an image reads its count and removes it.
Between these a creation or deletion can fail.
-/

namespace Syfrah

namespace Compute

namespace ImageRefs

/-- A call in progress, by what it has done. -/
inductive Call
  | lookedUp (id image : String)
  | inserted (id image : String)
  | readVm (id : String) (image : Option String)
  | removed (id : String) (image : Option String)
  /-- The count of the image was 0. -/
  | checked (name : String)
deriving DecidableEq

structure Manager where
  images : List String
  /-- The VMs in the map, with the image they are known to use. -/
  vms : Table (Option String)
  imageRefcounts : Table ℕ
  calls : Multiset Call

inductive Act
  /-- `create_vm` up to the lookup of its image, which can be pulled or not if it is not there. -/
  | createVm (id image : String) (pulls : Bool)
  | deleteVm (id : String)
  | deleteImage (name : String)
  /-- A call goes on. -/
  | advance (call : Call)
  /-- A call fails. -/
  | fail (call : Call)
  /-- A new process finds the VMs that survived. -/
  | restart (recovered : Table (Option String))

namespace Manager

def start (images : List String) : Manager := ⟨images, ∅, ∅, 0⟩

def countImage (counts : Table ℕ) (image : String) : Table ℕ := counts.insert image (counts[image]?.getD 0 + 1)

def uncountImage (counts : Table ℕ) (image : String) : Table ℕ :=
  match counts[image]? with
  | none => counts
  | some count => if count - 1 = 0 then counts.erase image else counts.insert image (count - 1)

/-- The next critical section of a call. -/
def advance (s : Manager) (call : Call) : Manager :=
  let s := { s with calls := s.calls.erase call }
  match call with
  | .lookedUp id image => { s with vms := s.vms.insert id (some image), calls := .inserted id image ::ₘ s.calls }
  | .inserted _ image => { s with imageRefcounts := countImage s.imageRefcounts image }
  | .readVm id image => { s with vms := s.vms.erase id, calls := .removed id image ::ₘ s.calls }
  | .removed _ image => { s with imageRefcounts := image.elim s.imageRefcounts (uncountImage s.imageRefcounts) }
  | .checked name => { s with images := s.images.filter (· ≠ name) }

def step (act : Act) (s : Manager) : Unit × Manager :=
  ((), match act with
    | .createVm id image pulls =>
      if id ∈ s.vms ∨ ¬ (image ∈ s.images ∨ pulls = true) then s
      else { s with images := if image ∈ s.images then s.images else image :: s.images
                    calls := .lookedUp id image ::ₘ s.calls }
    | .deleteVm id =>
      match s.vms[id]? with
      | none => s
      | some image => { s with calls := .readVm id image ::ₘ s.calls }
    | .deleteImage name =>
      if name ∈ s.images ∧ s.imageRefcounts[name]?.getD 0 = 0 then { s with calls := .checked name ::ₘ s.calls } else s
    | .advance call => if call ∈ s.calls then s.advance call else s
    | .fail call =>
      match call with
      | .lookedUp _ _ | .readVm _ _ | .checked _ => { s with calls := s.calls.erase call }
      | _ => s
    | .restart recovered => { s with vms := recovered, imageRefcounts := ∅, calls := 0 })

end Manager

end ImageRefs

end Compute

end Syfrah
