import Syfrah.ControlPlane.Snapshot
import Syfrah.Proof.AddressStep
import Syfrah.Proof.VolumeStep

/-!
# Placements of VMs

The table of placements is keyed by VPC and VM, while commands name a VM only and act on the first
placement they find. Neither placing nor rescheduling compares hypervisors or generations, so fencing
is up to the commands: it holds in every run whose placements are asked for with what is stored at
the time in mind.
-/

namespace Syfrah

open Replica Tx StorageState

/-- The placements of a replica; without a store there are none. -/
def Replica.placements (r : Replica) : Table VmPlacement :=
  (r.sm.placementStore.getD .empty).table .vmPlacements

/-- The VPC under which the placement in a subnet is filed. -/
def Replica.placementVpc (r : Replica) (subnetId : String) : VpcId :=
  ((r.subnets[subnetId]?).map (·.vpcId)).getD (Text.splitHead '/' subnetId)

def Replica.placementsOf (r : Replica) (vmId : String) : List VmPlacement :=
  (r.placements.toList.map Prod.snd).filter fun p => p.vmId == vmId

theorem Replica.mem_placementsOf {r : Replica} {vmId : String} {p : VmPlacement} :
    p ∈ r.placementsOf vmId ↔ (∃ k : String, r.placements[k]? = some p) ∧ p.vmId = vmId := by
  simp [placementsOf, Std.ExtTreeMap.mem_toList_iff_getElem?_eq_some]

def reschedules : Command → StateMachineResponse → Bool
  | .rescheduleVm .., .ok => true
  | _, _ => false

open PlacementStore in
inductive PlacementStep (r r' : Replica) : Command → StateMachineResponse → Prop
  | placed {vmId hypervisorId subnetId ip mac : String} {generation : ℕ} {p : VmPlacement}
      (hvm : p.vmId = vmId) (hgeneration : p.placementGeneration = generation)
      (hvpc : p.vpcId = r.placementVpc subnetId)
      (hplacements : r'.placements = r.placements.insert (key p.vpcId p.vmId) p) :
      PlacementStep r r' (.placeVm vmId hypervisorId subnetId ip mac generation) .ok
  | removed {vmId : String} {p : VmPlacement} (hfound : p ∈ r.placementsOf vmId)
      (hplacements : r'.placements = r.placements.erase (key p.vpcId vmId)) :
      PlacementStep r r' (.removeVm vmId) .ok
  | rescheduled {vmId source target : String} {generation : ℕ} {p : VmPlacement}
      (order : HashOrder) (hfound : p ∈ r.placementsOf vmId)
      (hplacements : r'.placements = r.placements.insert (key p.vpcId p.vmId)
        { p with hypervisorId := target, placementGeneration := generation })
      (hstorage : r'.sm.storage = (r.sm.storage.rescheduleVm order vmId source target).2) :
      PlacementStep r r' (.rescheduleVm vmId source target generation) .ok
  | other {c : Command} {reply : StateMachineResponse} (hc : reschedules c reply = false)
      (hplacements : r'.placements = r.placements) : PlacementStep r r' c reply

def removedEvent (p : VmPlacement) : PlacementEvent :=
  .removed p.vpcId p.vmId p.vmMac p.vmIp p.hypervisorId

open PlacementStore RedbStateMachine in
inductive PlacementChange (r r' : Replica) : Command → StateMachineResponse → Prop
  | placed {p : VmPlacement} (hvpc : p.vpcId = r.placementVpc p.subnetId)
      (hplacements : r'.placements = r.placements.insert (key p.vpcId p.vmId) p)
      (hevents : r'.sm.placementTx = r.sm.placementTx ++ [addedEvent p]) :
      PlacementChange r r' (.placeVm p.vmId p.hypervisorId p.subnetId p.vmIp p.vmMac
        p.placementGeneration) .ok
  | removed {vmId : String} {p : VmPlacement} (hfound : (r.placementsOf vmId).head? = some p)
      (hplacements : r'.placements = r.placements.erase (key p.vpcId vmId))
      (hevents : r'.sm.placementTx = r.sm.placementTx ++ [removedEvent p]) :
      PlacementChange r r' (.removeVm vmId) .ok
  | rescheduled {vmId source target : String} {generation : ℕ} {p : VmPlacement}
      (order : HashOrder) (hfound : (r.placementsOf vmId).head? = some p)
      (hplacements : r'.placements = r.placements.insert (key p.vpcId p.vmId)
        { p with hypervisorId := target, placementGeneration := generation })
      (hstorage : r'.sm.storage = (r.sm.storage.rescheduleVm order vmId source target).2)
      (hevents : r'.sm.placementTx = r.sm.placementTx) :
      PlacementChange r r' (.rescheduleVm vmId source target generation) .ok
  | other {c : Command} {reply : StateMachineResponse} (hc : reschedules c reply = false)
      (hplacements : r'.placements = r.placements)
      (hevents : r'.sm.placementTx = r.sm.placementTx) : PlacementChange r r' c reply

namespace Handle

variable {c : Command} {r : Replica}

abbrev PlacementChanges (c : Command) (r : Replica) (result : Except String StateMachineResponse)
    (r' : Replica) : Prop :=
  PlacementChange r r' c (respond result)

theorem placementChanges_error {e : String} : PlacementChanges c r (.error e) r :=
  .other (by cases c <;> rfl) rfl rfl

theorem placements_of_store {db : PlacementDb} (h : r.sm.placementStore = some db) :
    r.placements = db.table .vmPlacements := by
  rw [placements, h, Option.getD_some]

theorem placements_congr {r' : Replica} (h : r'.sm.placementStore = r.sm.placementStore) :
    r'.placements = r.placements := by
  rw [placements, h, placements]

theorem ensures_addPlacement {p : VmPlacement} {k : Unit → Handler StateMachineResponse}
    {post : Except String StateMachineResponse → Replica → Prop} (hnone : ∀ e, post (.error e) r)
    (hok : ∀ t : Replica, t.sm.storage = r.sm.storage → t.sm.placementTx = r.sm.placementTx →
      t.placements = r.placements.insert (PlacementStore.key p.vpcId p.vmId) p →
      Ensures (k ()) t post) :
    Ensures (placement (PlacementStore.addPlacement p) >>= k) r post := by
  have hset : ∀ db : PlacementDb, Ensures (PlacementStore.addPlacement p) (db, r.ambient)
      fun result t => result = .ok () ∧
        t.1 = db.set .vmPlacements (PlacementStore.key p.vpcId p.vmId) p :=
    fun db => ⟨rfl, rfl⟩
  refine .onStore (l := placementLens) (fun _ => hnone) (fun db _ => hset db) ?_ nofun
  rintro db _ t hstore ⟨-, hdb⟩
  refine hok _ rfl rfl ?_
  rw [placements_of_store hstore, ← LayerDb.table_set_self, ← hdb]
  exact placements_of_store rfl

theorem placeVm_changes (vmId hypervisorId subnetId ip mac : String) (generation : ℕ) (r : Replica) :
    Ensures (placeVm vmId hypervisorId subnetId ip mac generation) r
      (PlacementChanges (.placeVm vmId hypervisorId subnetId ip mac generation) r) := by
  have hstore : Ensures (placement (query fun _ => ())) r fun _ t => t = r :=
    (ensures_onStore_query _ r).1
  refine .bind hstore (fun _ t ht => ?_) fun e t ht => ht ▸ placementChanges_error
  rw [ht]
  refine .take (.bind_ok (org_query _ _) ?_)
  let p : VmPlacement :=
    ⟨r.placementVpc subnetId, vmId, mac, ip, subnetId, hypervisorId, .add, r.ambient.nowSecs.1,
      generation⟩
  refine ensures_addPlacement (p := p) (fun e => .other rfl rfl rfl) fun t₁ _ hevents hplacements => ?_
  refine .write (.pure (PlacementChange.placed (p := p) rfl hplacements ?_))
  exact congrArg (· ++ [_]) hevents

theorem requirePlacement_spec (vmId : String) (r : Replica) :
    Ensures (requirePlacement vmId) r fun result t =>
      t = r ∧ ∀ p, result = .ok p → (r.placementsOf vmId).head? = some p := by
  refine .bind (ensures_onStore_query _ r) ?_ fun e t ht => ⟨ht.1, nofun⟩
  rintro found t ⟨rfl, hfound⟩
  cases found with
  | none => exact ⟨rfl, nofun⟩
  | some p =>
      refine ⟨rfl, fun p' hp' => ?_⟩
      cases hp'
      obtain ⟨db, hdb, hp⟩ := hfound _ rfl
      rw [placementsOf, placements_of_store hdb, List.head?_filter]
      exact hp

theorem placements_removePlacement (vpcId vmId : String) (r : Replica) :
    (placement (PlacementStore.removePlacement vpcId vmId) r).2.placements =
      r.placements.erase (PlacementStore.key vpcId vmId) := by
  cases hstore : r.sm.placementStore with
  | none => simp [placement, onStore, placementLens, hstore, placements, LayerDb.empty]
  | some db =>
      have hdelete : (PlacementStore.removePlacement vpcId vmId (db, r.ambient)).2 =
          (db.delete .vmPlacements (PlacementStore.key vpcId vmId), r.ambient) := by
        change (Tx.rejectIf (!(db.get .vmPlacements _).isSome) _ _).2 = _
        cases (db.get .vmPlacements (PlacementStore.key vpcId vmId)).isSome <;> rfl
      rcases hrun : PlacementStore.removePlacement vpcId vmId (db, r.ambient) with ⟨result, t⟩
      obtain rfl : t = _ := (congrArg Prod.snd hrun).symm.trans hdelete
      simp [placement, onStore, placementLens, hstore, placements, hrun]

theorem placementTx_removePlacement (vpcId vmId : String) (r : Replica) :
    (placement (PlacementStore.removePlacement vpcId vmId) r).2.sm.placementTx =
      r.sm.placementTx := by
  unfold placement onStore
  split <;> rfl

theorem removeVm_changes (vmId : String) (r : Replica) :
    Ensures (removeVm vmId) r (PlacementChanges (.removeVm vmId) r) := by
  refine .bind (requirePlacement_spec vmId r) ?_ fun e t ht => ht.1 ▸ placementChanges_error
  rintro p t ⟨rfl, hfound⟩
  refine .result (.write (.pure (.removed (hfound p rfl) ?_ ?_)))
  · exact placements_removePlacement p.vpcId vmId t
  · exact congrArg (· ++ [_]) (placementTx_removePlacement p.vpcId vmId t)

theorem ensures_moveVolumes (vmId source target : String) (r : Replica) :
    Ensures (do
      let order ← nextOrder
      let moved ← storageOp fun s => .ok (s.rescheduleVm order vmId source target)
      Tx.each syncVolumeToStore moved
      return StateMachineResponse.ok) r fun result t =>
        result = .ok .ok ∧ t.placements = r.placements ∧ t.sm.placementTx = r.sm.placementTx ∧
          ∃ order, t.sm.storage = (r.sm.storage.rescheduleVm order vmId source target).2 := by
  refine .take ?_
  generalize r.ambient.nextOrder = next
  have hmove : storageOp (fun s => .ok (s.rescheduleVm next.1 vmId source target))
      { r with ambient := next.2 } = (.ok (r.sm.storage.rescheduleVm next.1 vmId source target).1,
        storageLens.set (r.sm.storage.rescheduleVm next.1 vmId source target).2
          { r with ambient := next.2 }) := rfl
  refine .bind_ok hmove ?_
  obtain ⟨_, t, hrun, hsame⟩ := passes_each (fun vol => passes_mirror (upsertVolume vol))
    (r.sm.storage.rescheduleVm next.1 vmId source target).1
    (storageLens.set (r.sm.storage.rescheduleVm next.1 vmId source target).2
      { r with ambient := next.2 })
  have hframe : Steps (Only [.storage] false) (Tx.each (fun vol => mirror (upsertVolume vol))
      (r.sm.storage.rescheduleVm next.1 vmId source target).1) :=
    .each (fun _ => only_mirror (List.mem_singleton_self _)) _
  have hmirrored := hframe (storageLens.set (r.sm.storage.rescheduleVm next.1 vmId source target).2
    { r with ambient := next.2 })
  rw [hrun] at hmirrored
  have hstore := hmirrored.store .placement (by decide)
  have hevents := hmirrored.placementTx (by decide)
  exact .bind_ok hrun (.pure ⟨rfl, placements_congr hstore, hevents, next.1, hsame⟩)

theorem rescheduleVm_changes (vmId source target : String) (generation : ℕ) (r : Replica) :
    Ensures (rescheduleVm vmId source target generation) r
      (PlacementChanges (.rescheduleVm vmId source target generation) r) := by
  refine .bind (requirePlacement_spec vmId r) ?_ fun e t ht => ht.1 ▸ placementChanges_error
  rintro p t ⟨rfl, hfound⟩
  refine ensures_addPlacement (fun e => placementChanges_error) fun t₁ hstorage htx hplacements => ?_
  have hmoved := ensures_moveVolumes vmId source target t₁
  unfold Ensures at hmoved ⊢
  obtain ⟨hok, hsame, hevents, order, horder⟩ := hmoved
  rw [hok]
  exact .rescheduled order (hfound p rfl) (hsame.trans hplacements) (horder.trans (by rw [hstorage]))
    (hevents.trans htx)

end Handle

/-- **Every applied command makes a placement change.** -/
theorem placementChange_applySingle (c : Command) (r : Replica) :
    PlacementChange r (applySingle c r).2 c (applySingle c r).1 := by
  cases c with
  | placeVm vmId hypervisorId subnetId ip mac generation =>
      exact Handle.placeVm_changes vmId hypervisorId subnetId ip mac generation r
  | removeVm vmId => exact Handle.removeVm_changes vmId r
  | rescheduleVm vmId source target generation =>
      exact Handle.rescheduleVm_changes vmId source target generation r
  | _ =>
      refine .other rfl ?_ ((only_applySingle _ r).placementTx (by simp [Command.stores]))
      exact Handle.placements_congr
        ((only_applySingle _ r).store .placement (by simp [Command.stores]))

theorem PlacementChange.step {r r' : Replica} {c : Command} {reply : StateMachineResponse}
    (h : PlacementChange r r' c reply) : PlacementStep r r' c reply := by
  cases h with
  | placed hvpc hplacements => exact .placed rfl rfl hvpc hplacements
  | removed hfound hplacements => exact .removed (List.mem_of_head? hfound) hplacements
  | rescheduled order hfound hplacements hstorage =>
      exact .rescheduled order (List.mem_of_head? hfound) hplacements hstorage
  | other hc hplacements => exact .other hc hplacements

/-! ### Fencing -/

def Replica.PlacedOnce (r : Replica) : Prop :=
  ∀ (k k' : String) p p', r.placements[k]? = some p → r.placements[k']? = some p' →
    p.vmId = p'.vmId → k = k'

/-- The generations of placements in one replica are at most those of the same VMs in another. -/
def Replica.GenerationsLe (r r' : Replica) : Prop :=
  ∀ vmId, ∀ p ∈ r.placementsOf vmId, ∀ p' ∈ r'.placementsOf vmId,
    p.placementGeneration ≤ p'.placementGeneration

/-- An accepted reschedule had the current hypervisor and a newer generation, and after it all
attached volumes of the VM are on its hypervisor. -/
def FencedReschedule (e : Step) : Prop :=
  ∀ vmId source target generation, e.action = .rescheduleVm vmId source target generation →
    e.reply = .ok →
    (∃ p ∈ e.before.placementsOf vmId,
      p.hypervisorId = source ∧ p.placementGeneration < generation) ∧
    ∀ p' ∈ e.after.placementsOf vmId, ∀ (id : VolumeId) vol,
      e.after.sm.storage.volumes[id]? = some vol → vol.state = .attached →
        vol.attachedVmId = some vmId → vol.attachedHypervisorId = some p'.hypervisorId

/-- Whether the attached volumes of a VM are on one of two hypervisors. -/
def volumesOn (s : StorageState) (vmId source target : String) : Bool :=
  (values s.volumes).all fun vol =>
    vol.state != .attached || vol.attachedVmId != some vmId ||
      vol.attachedHypervisorId == some source || vol.attachedHypervisorId == some target

/-- Commands that know what is stored: a VM is placed only in the VPC it is placed in, with a
generation that is not below any it ever had, and rescheduled only from its hypervisor, with a newer
generation, while its volumes are there or already on the target. -/
def fences (past : List Step) (e : Step) : Bool :=
  match e.action with
  | .placeVm vmId _ subnetId _ _ generation =>
      (e.before.placementsOf vmId).all (fun p => p.vpcId == e.before.placementVpc subnetId) &&
        (past ++ [e]).all fun e' =>
          (e'.before.placementsOf vmId).all fun p => p.placementGeneration ≤ generation
  | .rescheduleVm vmId source target generation =>
      (e.before.placementsOf vmId).all (fun p =>
        p.hypervisorId == source && p.placementGeneration < generation) &&
        volumesOn e.before.sm.storage vmId source target
  | _ => true

structure Placed (es : List Step) (t : Replica) : Prop where
  keyed : ∀ (k : String) p, t.placements[k]? = some p → k = PlacementStore.key p.vpcId p.vmId
  once : t.PlacedOnce
  generations : ∀ e ∈ es, e.before.GenerationsLe t
  fenced : ∀ e ∈ es, FencedReschedule e

theorem Replica.PlacedOnce.eq {r : Replica} (h : r.PlacedOnce) {vmId : String} {p p' : VmPlacement}
    (hp : p ∈ r.placementsOf vmId) (hp' : p' ∈ r.placementsOf vmId) : p = p' := by
  obtain ⟨⟨k, hk⟩, rfl⟩ := mem_placementsOf.mp hp
  obtain ⟨⟨k', hk'⟩, hvm⟩ := mem_placementsOf.mp hp'
  obtain rfl : k = k' := h k k' p p' hk hk' hvm.symm
  exact Option.some.inj (hk.symm.trans hk')

namespace Placed

variable {es : List Step} {e : Step} {r t : Replica} {p : VmPlacement}

theorem entry_of_insert
    (hplacements : t.placements = r.placements.insert (PlacementStore.key p.vpcId p.vmId) p)
    {k : String} {q : VmPlacement} (hq : t.placements[k]? = some q) :
    k = PlacementStore.key p.vpcId p.vmId ∧ q = p ∨
      k ≠ PlacementStore.key p.vpcId p.vmId ∧ r.placements[k]? = some q := by
  rw [hplacements, Std.ExtTreeMap.getElem?_insert] at hq
  by_cases hk : PlacementStore.key p.vpcId p.vmId = k
  · exact .inl ⟨hk.symm, by simpa [hk] using hq.symm⟩
  · exact .inr ⟨Ne.symm hk, by simpa [hk] using hq⟩

theorem generations_of_old (h : Placed es e.before) {vmId : String} {q' : VmPlacement}
    (hq' : q' ∈ e.before.placementsOf vmId) {e' : Step} (he' : e' ∈ es ++ [e]) {q : VmPlacement}
    (hq : q ∈ e'.before.placementsOf vmId) : q.placementGeneration ≤ q'.placementGeneration := by
  rcases List.mem_append.mp he' with he' | he'
  · exact h.generations e' he' vmId q hq q' hq'
  · obtain rfl := List.mem_singleton.mp he'
    rw [h.once.eq hq hq']

theorem insert (h : Placed es e.before)
    (hplacements : e.after.placements =
      e.before.placements.insert (PlacementStore.key p.vpcId p.vmId) p)
    (hplace : ∀ q ∈ e.before.placementsOf p.vmId, q.vpcId = p.vpcId)
    (hgeneration : ∀ e' ∈ es ++ [e], ∀ q ∈ e'.before.placementsOf p.vmId,
      q.placementGeneration ≤ p.placementGeneration)
    (hreschedule : e.after.PlacedOnce → FencedReschedule e) : Placed (es ++ [e]) e.after := by
  -- another entry of the VM would be filed under the same VPC, hence under the same key
  have hother : ∀ k q, k ≠ PlacementStore.key p.vpcId p.vmId → e.before.placements[k]? = some q →
      q.vmId ≠ p.vmId := by
    intro k q hk hq hvm
    have hvpc := hplace q (mem_placementsOf.mpr ⟨⟨k, hq⟩, hvm⟩)
    exact hk (by rw [h.keyed k q hq, hvpc, hvm])
  have honce : e.after.PlacedOnce := by
    intro k k' q q' hq hq' hvm
    rcases entry_of_insert hplacements hq with ⟨rfl, rfl⟩ | ⟨hk, hq⟩ <;>
      rcases entry_of_insert hplacements hq' with ⟨rfl, rfl⟩ | ⟨hk', hq'⟩
    · rfl
    · exact absurd hvm.symm (hother k' q' hk' hq')
    · exact absurd hvm (hother k q hk hq)
    · exact h.once k k' q q' hq hq' hvm
  refine ⟨fun k q hq => ?_, honce, fun e' he' vmId q hq q' hq' => ?_, fun e' he' => ?_⟩
  · rcases entry_of_insert hplacements hq with ⟨rfl, rfl⟩ | ⟨-, hq⟩
    · rfl
    · exact h.keyed k q hq
  · obtain ⟨⟨k, hk⟩, rfl⟩ := mem_placementsOf.mp hq'
    rcases entry_of_insert hplacements hk with ⟨rfl, rfl⟩ | ⟨-, hk⟩
    · exact hgeneration e' he' q hq
    · exact h.generations_of_old (mem_placementsOf.mpr ⟨⟨k, hk⟩, rfl⟩) he' hq
  · rcases List.mem_append.mp he' with he' | he'
    · exact h.fenced e' he'
    · rw [List.mem_singleton.mp he']
      exact hreschedule honce

theorem of_subset (h : Placed es e.before)
    (hsubset : ∀ (k : String) q, e.after.placements[k]? = some q → e.before.placements[k]? = some q)
    (hreschedule : FencedReschedule e) : Placed (es ++ [e]) e.after := by
  refine ⟨fun k q hq => h.keyed k q (hsubset k q hq), ?_, fun e' he' vmId q hq q' hq' => ?_,
    fun e' he' => ?_⟩
  · exact fun k k' q q' hq hq' => h.once k k' q q' (hsubset k q hq) (hsubset k' q' hq')
  · obtain ⟨⟨k, hk⟩, rfl⟩ := mem_placementsOf.mp hq'
    exact h.generations_of_old (mem_placementsOf.mpr ⟨⟨k, hsubset k q' hk⟩, rfl⟩) he' hq
  · rcases List.mem_append.mp he' with he' | he'
    · exact h.fenced e' he'
    · rwa [List.mem_singleton.mp he']

theorem volumes_on_target {s s' : StorageState} {vmId source target : String} {order : HashOrder}
    (hs' : s' = (s.rescheduleVm order vmId source target).2)
    (hvolumes : volumesOn s vmId source target = true) {id : VolumeId} {vol : VolumeRecord}
    (hget : s'.volumes[id]? = some vol) (hstate : vol.state = .attached)
    (hvm : vol.attachedVmId = some vmId) : vol.attachedHypervisorId = some target := by
  obtain ⟨volumes, hmoved, hrecord⟩ := s.rescheduleVm_spec order vmId source target
  rw [hs', hmoved, hrecord] at hget
  obtain ⟨vol₀, hget₀, heq⟩ := Option.map_eq_some_iff.mp hget
  split at heq
  · rw [← heq, relocated]
  · rename_i hserves
    subst heq
    have hmem : vol₀ ∈ values s.volumes :=
      List.mem_map.mpr ⟨(id, vol₀), Std.ExtTreeMap.mem_toList_iff_getElem?_eq_some.mpr hget₀, rfl⟩
    have hon := List.all_eq_true.mp hvolumes vol₀ hmem
    rw [hstate, hvm] at hon
    have hsource : vol₀.attachedHypervisorId ≠ some source := fun hsource =>
      hserves ⟨hstate, hvm, hsource⟩
    simpa [hsource] using hon

/-- **One command.** -/
theorem step (h : Placed es e.before) (hstep : PlacementStep e.before e.after e.action e.reply)
    (hfences : fences es e = true) : Placed (es ++ [e]) e.after := by
  obtain ⟨before, action, reply, after⟩ := e
  dsimp only at h hstep ⊢
  have hnot : ∀ {c : Command} {response : StateMachineResponse}, reschedules c response = false →
      FencedReschedule ⟨before, c, response, after⟩ := by
    rintro c response hc vmId source target generation rfl rfl
    cases hc
  cases hstep with
  | other hc hplacements => exact h.of_subset (by simp [hplacements]) (hnot hc)
  | removed _ hplacements =>
      refine h.of_subset (fun k q hq => ?_) (hnot rfl)
      rw [hplacements, Std.ExtTreeMap.getElem?_erase] at hq
      split at hq
      · cases hq
      · exact hq
  | placed hvm hgeneration hvpc hplacements =>
      subst hvm
      simp only [fences, Bool.and_eq_true, List.all_eq_true, beq_iff_eq, decide_eq_true_eq]
        at hfences
      refine h.insert hplacements (fun q hq => (hfences.1 q hq).trans hvpc.symm) ?_
        fun _ => hnot rfl
      rw [hgeneration]
      exact hfences.2
  | @rescheduled vmId source target generation p order hfound hplacements hstorage =>
      simp only [fences, Bool.and_eq_true, List.all_eq_true, beq_iff_eq, decide_eq_true_eq]
        at hfences
      obtain ⟨hcurrent, hvolumes⟩ := hfences
      have hvm : p.vmId = vmId := (mem_placementsOf.mp hfound).2
      subst hvm
      refine h.insert (p := { p with hypervisorId := target, placementGeneration := generation })
        hplacements (fun q hq => ?_) (fun e' he' q hq => ?_) fun honce => ?_
      · rw [h.once.eq hq hfound]
      · exact (h.generations_of_old hfound he' hq).trans (hcurrent p hfound).2.le
      · rintro _ _ _ _ heq -
        cases heq
        refine ⟨⟨p, hfound, hcurrent p hfound⟩, fun p' hp' id vol hget hstate hvm => ?_⟩
        have hwritten : { p with hypervisorId := target, placementGeneration := generation } ∈
            after.placementsOf p.vmId :=
          mem_placementsOf.mpr ⟨⟨PlacementStore.key p.vpcId p.vmId, by rw [hplacements]; simp⟩, rfl⟩
        rw [honce.eq hp' hwritten]
        exact volumes_on_target hstorage hvolumes hget hstate hvm

end Placed

/-- **Fencing of placements.** In every run whose commands know what is stored, each VM has at most
one placement, its generation never goes back, and every accepted reschedule was asked for the current
hypervisor with a newer generation and takes all attached volumes of the VM along. -/
theorem placements_fenced_of_log (log : List StateMachineCommand) (r : Replica)
    (hinit : r.placements = ∅) (hcond : Along (fun past e => fences past e = true) (executed log r)) :
    (applyLog log r).2.PlacedOnce ∧
      (∀ e ∈ executed log r, e.before.GenerationsLe (applyLog log r).2) ∧
      ∀ e ∈ executed log r, FencedReschedule e := by
  have hrun : Run applySingle r (executed log r) (applyLog log r).2 := Batch.run_executed log r
  have hplaced : Placed (executed log r) (applyLog log r).2 := by
    refine hrun.invariant (I := Placed) ?_ (fun es t c hI hc => ?_) hcond
    · refine ⟨?_, ?_, List.forall_mem_nil _, List.forall_mem_nil _⟩
      · simp [hinit]
      · simp [PlacedOnce, hinit]
    · exact Placed.step (e := Exec.of applySingle c t) hI (placementChange_applySingle c t).step hc
  exact ⟨hplaced.once, hplaced.generations, hplaced.fenced⟩

def Replica.withPlacements : Replica :=
  ⟨{ (RedbStateMachine.new .empty) with placementStore := some .empty }, .steady 0⟩

def movedVm : List StateMachineCommand :=
  [.single (.createVolume "vol" "disk" 10 "org" "proj" "env" .data none none),
    .single (.placeVm "vm" "hv-1" "vpc-1/sub" "10.0.0.5" "mac" 1),
    .single (.volumeAttach "vol" "vm" "hv-1"),
    .single (.rescheduleVm "vm" "hv-1" "hv-2" 2)]

theorem placements_fenced_of_moved_vm :
    Along (fun past e => fences past e = true) (executed movedVm .withPlacements) ∧
    (applyLog movedVm .withPlacements).2.PlacedOnce := by
  have hcond : Along (fun past e => fences past e = true) (executed movedVm .withPlacements) := by
    decide
  exact ⟨hcond, (placements_fenced_of_log movedVm .withPlacements (by decide) hcond).1⟩

/-- The move is asked for again from an older view: the VM is not on that hypervisor any more, and the
generation is the one it had there. -/
def staleReschedule : Step :=
  Exec.of applySingle (.rescheduleVm "vm" "hv-1" "hv-3" 1) (applyLog movedVm .withPlacements).2

/-- The stale command is accepted. It takes the generation of the VM back and leaves the volume on the
hypervisor that the VM is taken from. -/
theorem stale_reschedule_accepted :
    staleReschedule.reply.isError = false ∧ ¬ FencedReschedule staleReschedule ∧
      ¬ staleReschedule.before.GenerationsLe staleReschedule.after ∧
      (staleReschedule.after.placementsOf "vm").map (·.hypervisorId) = ["hv-3"] ∧
      (staleReschedule.after.sm.storage.volumes["vol"]?).map
        (fun vol => (vol.state, vol.attachedVmId, vol.attachedHypervisorId)) =
          some (.attached, some "vm", some "hv-2") := by
  have hbefore : (staleReschedule.before.placementsOf "vm").all
      (fun p => p.hypervisorId != "hv-1") = true := by decide
  refine ⟨by decide, fun h => ?_, fun h => ?_, by decide, by decide⟩
  · obtain ⟨⟨p, hp, hsource, -⟩, -⟩ := h "vm" "hv-1" "hv-3" 1 rfl rfl
    simpa [hsource] using List.all_eq_true.mp hbefore p hp
  · have hback : (staleReschedule.before.placementsOf "vm").any (fun p =>
        (staleReschedule.after.placementsOf "vm").any fun p' =>
          decide (p'.placementGeneration < p.placementGeneration)) = true := by decide
    simp only [List.any_eq_true, decide_eq_true_eq] at hback
    obtain ⟨p, hp, p', hp', hlt⟩ := hback
    exact absurd (h "vm" p hp p' hp') (not_le.mpr hlt)

end Syfrah
