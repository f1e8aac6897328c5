import Syfrah.Forge.Cleanup

/-!
# What a rollback undoes

The loop ends at the first address it meets, which is the last one recorded, and it releases no
capacity. So all steps are undone when the only address was recorded before everything else and no
capacity was reserved.
-/

namespace Syfrah

namespace Forge

/-- The call that undoes a step; a device leaves its bridge when it is deleted. -/
def CompletedStep.undo : CompletedStep → Option UndoCall
  | .ipAllocated subnetId ip => some (.releaseIp subnetId ip)
  | .bridgeCreated bridgeName => some (.deleteBridge bridgeName)
  | .vxlanCreated vxlanName => some (.deleteVxlan vxlanName)
  | .tapCreated tapName => some (.deleteTap tapName)
  | .bridgeAttached _ _ => none
  | .nftablesApplied tapName => some (.removeVmRules tapName)
  | .natApplied bridgeName subnetCidr => some (.removeNat bridgeName subnetCidr)
  | .fdbAdded bridgeName mac => some (.removeFdbEntry bridgeName mac)
  | .arpProxyAdded vxlanName ip => some (.removeArpProxy vxlanName ip)
  | .capacityReserved name vcpus memoryMb => some (.releaseCapacity name vcpus memoryMb)

def CompletedStep.isCapacity : CompletedStep → Bool
  | .capacityReserved _ _ _ => true
  | _ => false

/-- Every step is undone once, in reverse order, and counted. -/
structure UndoesAll (steps : List CompletedStep) (r : Rollback) : Prop where
  calls : r.calls = steps.reverse.filterMap (·.undo)
  attempted : r.attempted = steps.length
  counted : r.attempted = r.succeeded + r.failed

/-- The call that the loop makes for a step. -/
def CompletedStep.call (ipRelease : Bool) (step : CompletedStep) : Option UndoCall :=
  if step.isCapacity || (step.isIp && !ipRelease) then none else step.undo

variable {backend : List UndoCall → UndoCall → Bool} {ipRelease : Bool} {steps : List CompletedStep}
  {step : CompletedStep} {r : Rollback}

/-- What one round of the loop adds. -/
structure Visits (ipRelease : Bool) (steps : List CompletedStep) (r r' : Rollback) : Prop where
  calls : r'.calls = r.calls ++ steps.filterMap (·.call ipRelease)
  attempted : r'.attempted = r.attempted + steps.length
  counted : r'.succeeded + r'.failed = r.succeeded + r.failed + steps.length

theorem Visits.ask {call : UndoCall} (hcall : step.call ipRelease = some call) :
    Visits ipRelease [step] r ({ r with attempted := r.attempted + 1 }.ask backend call) := by
  rw [Rollback.ask]
  split
  · exact ⟨by simp [hcall, Rollback.called, Rollback.succeed], rfl, Nat.add_right_comm ..⟩
  · exact ⟨by simp [hcall, Rollback.called, Rollback.fail], rfl, rfl⟩

theorem visits_visit (step : CompletedStep) : Visits ipRelease [step] r (r.visit backend ipRelease step) := by
  cases step with
  | ipAllocated subnetId ip =>
      cases ipRelease with
      | true => exact ⟨by simp [Rollback.visit, Rollback.called, Rollback.succeed, CompletedStep.call,
          CompletedStep.isCapacity, CompletedStep.undo], rfl, Nat.add_right_comm ..⟩
      | false => exact ⟨by simp [Rollback.visit, Rollback.fail, CompletedStep.call, CompletedStep.isIp], rfl, rfl⟩
  | capacityReserved name vcpus memoryMb =>
      exact ⟨by simp [Rollback.visit, Rollback.succeed, CompletedStep.call, CompletedStep.isCapacity], rfl,
        Nat.add_right_comm ..⟩
  | bridgeAttached tapName bridgeName =>
      exact ⟨by simp [Rollback.visit, Rollback.succeed, CompletedStep.call, CompletedStep.undo], rfl,
        Nat.add_right_comm ..⟩
  | bridgeCreated | vxlanCreated | tapCreated | nftablesApplied | natApplied | fdbAdded | arpProxyAdded =>
      exact .ask rfl

theorem Visits.trans {later : List CompletedStep} {r' r'' : Rollback} (h : Visits ipRelease steps r r')
    (h' : Visits ipRelease later r' r'') : Visits ipRelease (steps ++ later) r r'' where
  calls := by rw [h'.calls, h.calls, List.append_assoc, List.filterMap_append]
  attempted := by rw [h'.attempted, h.attempted, List.length_append, Nat.add_assoc]
  counted := by rw [h'.counted, h.counted, List.length_append, Nat.add_assoc]

/-- The steps up to the first address. -/
def untilIp : List CompletedStep → List CompletedStep
  | [] => []
  | step :: steps => if step.isIp then [step] else step :: untilIp steps

theorem visits_rollbackLoop (steps : List CompletedStep) (r : Rollback) :
    Visits ipRelease (untilIp steps) r (rollbackLoop backend ipRelease steps r) := by
  induction steps generalizing r with
  | nil => exact ⟨by simp [rollbackLoop, untilIp], rfl, rfl⟩
  | cons step steps ih =>
      have hfirst := @visits_visit backend ipRelease r step
      rw [rollbackLoop, untilIp]
      split
      · exact hfirst
      · exact hfirst.trans (ih (r.visit backend ipRelease step))

theorem untilIp_eq_self_iff (steps : List CompletedStep) :
    untilIp steps = steps ↔ ∀ step ∈ steps.dropLast, step.isIp = false := by
  induction steps with
  | nil => simp [untilIp]
  | cons step steps ih =>
      cases steps with
      | nil => simp [untilIp]
      | cons next steps =>
          rw [untilIp, List.dropLast_cons_cons, List.forall_mem_cons, ← ih]
          cases step.isIp <;> simp

theorem length_untilIp_iff (steps : List CompletedStep) :
    (untilIp steps).length = steps.length ↔ untilIp steps = steps := by
  refine ⟨fun h => ?_, congrArg List.length⟩
  induction steps with
  | nil => rfl
  | cons step steps ih =>
      rw [untilIp] at h ⊢
      split at h
      · rw [if_pos ‹_›]
        cases steps with
        | nil => rfl
        | cons => simp at h
      · rw [if_neg ‹_›, ih (Nat.succ.inj h)]

section FilterMap

variable {α β : Type} {f g : α → Option β}

theorem length_filterMap_le (hle : ∀ a, f a = none ∨ f a = g a) (l : List α) :
    (l.filterMap f).length ≤ (l.filterMap g).length := by
  induction l with
  | nil => exact Nat.le_refl 0
  | cons a l ih =>
      rw [List.filterMap_cons, List.filterMap_cons]
      rcases hle a with hnone | heq
      · rw [hnone]
        cases g a with
        | none => exact ih
        | some => exact Nat.le_succ_of_le ih
      · rw [heq]
        cases g a with
        | none => exact ih
        | some => exact Nat.succ_le_succ ih

/-- Where one selection leaves out some of what the other has, they agree only if it leaves out nothing. -/
theorem filterMap_eq_iff (hle : ∀ a, f a = none ∨ f a = g a) (l : List α) :
    l.filterMap f = l.filterMap g ↔ ∀ a ∈ l, f a = g a := by
  refine ⟨fun h => ?_, List.filterMap_congr⟩
  induction l with
  | nil => exact nofun
  | cons a l ih =>
      rw [List.filterMap_cons, List.filterMap_cons] at h
      have hhead : f a = g a := by
        rcases hle a with hnone | heq
        · rw [hnone] at h ⊢
          cases hg : g a with
          | none => rfl
          | some =>
              have hlen := length_filterMap_le hle l
              rw [show l.filterMap f = _ from h, hg] at hlen
              exact absurd hlen (Nat.not_succ_le_self _)
        · exact heq
      rw [hhead] at h
      refine List.forall_mem_cons.mpr ⟨hhead, ih ?_⟩
      cases hg : g a with
      | none => rwa [hg] at h
      | some =>
          rw [hg] at h
          exact List.tail_eq_of_cons_eq h

end FilterMap

theorem call_eq_undo_iff (step : CompletedStep) :
    step.call ipRelease = step.undo ↔ step.isCapacity = false ∧ (step.isIp = true → ipRelease = true) := by
  cases step <;> cases ipRelease <;> simp [CompletedStep.call, CompletedStep.undo, CompletedStep.isCapacity,
    CompletedStep.isIp]

/-- The steps that a rollback undoes all. -/
def Undoable (ipRelease : Bool) (steps : List CompletedStep) : Prop :=
  (∀ step ∈ steps.tail, step.isIp = false) ∧
    ∀ step ∈ steps, step.isCapacity = false ∧ (step.isIp = true → ipRelease = true)

/-- **A rollback undoes every recorded step** exactly if it has a callback for the address, the address
was recorded first, and no capacity was reserved. -/
theorem rollback_undoes_all_iff (backend : List UndoCall → UndoCall → Bool) (ipRelease capacityRelease : Bool)
    (steps : List CompletedStep) :
    UndoesAll steps (rollback backend ipRelease capacityRelease steps) ↔ Undoable ipRelease steps := by
  have hvisits := @visits_rollbackLoop backend ipRelease steps.reverse {}
  have hcall : ∀ step : CompletedStep, step.call ipRelease = none ∨ step.call ipRelease = step.undo := by
    intro step
    rw [CompletedStep.call]
    split
    · exact .inl rfl
    · exact .inr rfl
  have htail : untilIp steps.reverse = steps.reverse ↔ ∀ step ∈ steps.tail, step.isIp = false := by
    rw [untilIp_eq_self_iff, List.dropLast_reverse]
    simp only [List.mem_reverse]
  have hall : steps.reverse.filterMap (·.call ipRelease) = steps.reverse.filterMap (·.undo) ↔
      ∀ step ∈ steps, step.isCapacity = false ∧ (step.isIp = true → ipRelease = true) := by
    simp only [filterMap_eq_iff hcall, List.mem_reverse, call_eq_undo_iff]
  rw [Undoable, ← htail, ← hall]
  constructor
  · intro h
    have hlength : (untilIp steps.reverse).length = steps.reverse.length := by
      rw [List.length_reverse, ← h.attempted, rollback, hvisits.attempted, Nat.zero_add]
    have hself := (length_untilIp_iff _).mp hlength
    refine ⟨hself, ?_⟩
    rw [← h.calls, rollback, hvisits.calls, hself]
    rfl
  · rintro ⟨hself, hcalls⟩
    rw [hself] at hvisits
    refine ⟨hvisits.calls.trans hcalls, ?_, ?_⟩
    · rw [rollback, hvisits.attempted, List.length_reverse, Nat.zero_add]
    · exact hvisits.attempted.trans hvisits.counted.symm

/-- **What is left**: a bridge recorded before an address, and a reserved capacity. -/
theorem address_ends_rollback :
    rollback (fun _ _ => true) true true [.bridgeCreated "syfb-1", .ipAllocated "subnet-1" "10.1.0.3"] =
        ⟨1, 1, 0, [.releaseIp "subnet-1" "10.1.0.3"]⟩ ∧
      ¬ UndoesAll [.bridgeCreated "syfb-1", .ipAllocated "subnet-1" "10.1.0.3"]
        (rollback (fun _ _ => true) true true [.bridgeCreated "syfb-1", .ipAllocated "subnet-1" "10.1.0.3"]) ∧
      ¬ UndoesAll [.capacityReserved "web" 2 2048]
        (rollback (fun _ _ => true) true true [.capacityReserved "web" 2 2048]) :=
  ⟨by decide, fun h => absurd h.attempted (by decide), fun h => absurd h.calls (by decide)⟩

end Forge

end Syfrah
