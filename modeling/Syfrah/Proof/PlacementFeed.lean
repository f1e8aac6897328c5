import Syfrah.Proof.Placements
import Syfrah.Proof.Snapshot

/-!
# The feed of placement events

A subscriber starts from the table of placements and follows the events. Placing and removing a VM
announce what they write. A reschedule announces nothing, and an installed snapshot announces the rows
it has but not those that it drops.
-/

namespace Syfrah

open Replica

structure PlacementColumns where
  vmMac : String
  vmIp : String
  hypervisorId : String
deriving DecidableEq

namespace VmPlacement

def columns (p : VmPlacement) : PlacementColumns := ⟨p.vmMac, p.vmIp, p.hypervisorId⟩

def place (p : VmPlacement) : VpcId × String := (p.vpcId, p.vmId)

end VmPlacement

abbrev PlacementView := VpcId × String → Option PlacementColumns

namespace PlacementView

def follow (v : PlacementView) : PlacementEvent → PlacementView
  | .added vpcId vmId vmMac vmIp _ hypervisorId =>
      Function.update v (vpcId, vmId) (some ⟨vmMac, vmIp, hypervisorId⟩)
  | .removed vpcId vmId _ _ _ => Function.update v (vpcId, vmId) none

/-- A subscriber knows exactly the rows of a table. -/
def Describes (v : PlacementView) (table : Table VmPlacement) : Prop :=
  ∀ place columns, v place = some columns ↔
    ∃ (k : String) (p : VmPlacement), table[k]? = some p ∧ p.place = place ∧ p.columns = columns

end PlacementView

/-- Every placement is under the key of its VPC and VM. -/
def KeyedPlacements (table : Table VmPlacement) : Prop :=
  ∀ (k : String) p, table[k]? = some p → k = PlacementStore.key p.vpcId p.vmId

namespace KeyedPlacements

variable {table : Table VmPlacement} {p : VmPlacement}

theorem eq_key (h : KeyedPlacements table) {k : String} {q : VmPlacement} (hq : table[k]? = some q)
    (hplace : q.place = p.place) : k = PlacementStore.key p.vpcId p.vmId := by
  obtain ⟨hvpc, hvm⟩ := Prod.mk.inj hplace
  rw [h k q hq, hvpc, hvm]

theorem insert (h : KeyedPlacements table) (p : VmPlacement) :
    KeyedPlacements (table.insert (PlacementStore.key p.vpcId p.vmId) p) := by
  intro k q hq
  rcases Std.ExtTreeMap.of_getElem?_insert hq with ⟨rfl, rfl⟩ | ⟨-, hq⟩
  · rfl
  · exact h k q hq

theorem erase (h : KeyedPlacements table) (key : String) : KeyedPlacements (table.erase key) :=
  fun k q hq => h k q (Std.ExtTreeMap.of_getElem?_erase hq).2

end KeyedPlacements

namespace PlacementView

variable {v : PlacementView} {table table' : Table VmPlacement} {p : VmPlacement}

theorem Describes.insert (h : v.Describes table) (hkeyed : KeyedPlacements table)
    (hkey : ∀ q, table[PlacementStore.key p.vpcId p.vmId]? = some q → q.place = p.place) :
    Describes (Function.update v p.place (some p.columns))
      (table.insert (PlacementStore.key p.vpcId p.vmId) p) := by
  intro place columns
  by_cases hplace : place = p.place
  · subst hplace
    rw [Function.update_self]
    constructor
    · rintro ⟨rfl⟩
      exact ⟨_, p, Std.ExtTreeMap.getElem?_insert_self, rfl, rfl⟩
    · rintro ⟨k, q, hq, hqp, rfl⟩
      rcases Std.ExtTreeMap.of_getElem?_insert hq with ⟨-, rfl⟩ | ⟨hk, hq⟩
      · rfl
      · exact absurd (hkeyed.eq_key hq hqp) hk
  · rw [Function.update_of_ne hplace, h place columns]
    constructor
    · rintro ⟨k, q, hq, rfl, rfl⟩
      have hk : PlacementStore.key p.vpcId p.vmId ≠ k := fun hk => hplace (hkey q (hk ▸ hq))
      exact ⟨k, q, by rw [Std.ExtTreeMap.getElem?_insert]; simpa [hk] using hq, rfl, rfl⟩
    · rintro ⟨k, q, hq, rfl, rfl⟩
      rcases Std.ExtTreeMap.of_getElem?_insert hq with ⟨-, rfl⟩ | ⟨-, hq⟩
      · exact absurd rfl hplace
      · exact ⟨k, q, hq, rfl, rfl⟩

theorem Describes.erase (h : v.Describes table) (hkeyed : KeyedPlacements table)
    (hp : table[PlacementStore.key p.vpcId p.vmId]? = some p) :
    Describes (Function.update v p.place none)
      (table.erase (PlacementStore.key p.vpcId p.vmId)) := by
  intro place columns
  by_cases hplace : place = p.place
  · subst hplace
    rw [Function.update_self]
    refine ⟨nofun, ?_⟩
    rintro ⟨k, q, hq, hqp, rfl⟩
    obtain ⟨hk, hq⟩ := Std.ExtTreeMap.of_getElem?_erase hq
    exact absurd (hkeyed.eq_key hq hqp) hk
  · rw [Function.update_of_ne hplace, h place columns]
    constructor
    · rintro ⟨k, q, hq, rfl, rfl⟩
      have hk : PlacementStore.key p.vpcId p.vmId ≠ k := by
        rintro rfl
        exact hplace (congrArg VmPlacement.place (Option.some.inj (hq.symm.trans hp)))
      exact ⟨k, q, by rw [Std.ExtTreeMap.getElem?_erase]; simpa [hk] using hq, rfl, rfl⟩
    · rintro ⟨k, q, hq, rfl, rfl⟩
      exact ⟨k, q, (Std.ExtTreeMap.of_getElem?_erase hq).2, rfl, rfl⟩

theorem Describes.remote (h : v.Describes table) (localNode : String) (place : VpcId × String) :
    (v place).any (fun columns => columns.hypervisorId != localNode) = true ↔
      ∃ (k : String) (p : VmPlacement), table[k]? = some p ∧ p.place = place ∧
        p.hypervisorId ≠ localNode := by
  simp only [Option.any_eq_true, bne_iff_ne, h place]
  constructor
  · rintro ⟨columns, ⟨k, p, hp, hplace, rfl⟩, hremote⟩
    exact ⟨k, p, hp, hplace, hremote⟩
  · rintro ⟨k, p, hp, hplace, hremote⟩
    exact ⟨p.columns, ⟨k, p, hp, hplace, rfl⟩, hremote⟩

/-! ### Restored placements -/

def restore (v : PlacementView) (ps : List VmPlacement) : PlacementView :=
  (ps.map RedbStateMachine.addedEvent).foldl follow v

theorem restore_of_forall_ne {ps : List VmPlacement} {place : VpcId × String}
    (h : ∀ p ∈ ps, p.place ≠ place) : v.restore ps place = v place := by
  induction ps generalizing v with
  | nil => rfl
  | cons p ps ih =>
      obtain ⟨hp, hps⟩ := List.forall_mem_cons.mp h
      exact (ih hps).trans (Function.update_of_ne (Ne.symm hp) _ _)

theorem restore_of_mem {ps : List VmPlacement} (hp : p ∈ ps)
    (hplace : ∀ q ∈ ps, q.place = p.place → q = p) : v.restore ps p.place = some p.columns := by
  induction ps generalizing v with
  | nil => cases hp
  | cons q ps ih =>
      obtain ⟨hq, hps⟩ := List.forall_mem_cons.mp hplace
      by_cases hmem : p ∈ ps
      · exact ih hmem hps
      -- the last event of the place is that of the head
      · obtain rfl : p = q := (List.mem_cons.mp hp).resolve_right hmem
        have hnone : ∀ q ∈ ps, q.place ≠ p.place := fun q hqs heq => hmem (hps q hqs heq ▸ hqs)
        exact (restore_of_forall_ne hnone).trans (Function.update_self ..)

theorem Describes.restore (h : v.Describes table) (hkeyed : KeyedPlacements table')
    (hcover : ∀ (k : String) p, table[k]? = some p → ∃ (k' : String) (q : VmPlacement),
      table'[k']? = some q ∧ q.place = p.place) :
    (v.restore (table'.toList.map Prod.snd)).Describes table' := by
  have hmem : ∀ q, q ∈ table'.toList.map Prod.snd ↔ ∃ k : String, table'[k]? = some q := by
    simp [Std.ExtTreeMap.mem_toList_iff_getElem?_eq_some]
  have hunique : ∀ (k : String) p, table'[k]? = some p →
      ∀ q ∈ table'.toList.map Prod.snd, q.place = p.place → q = p := by
    intro k p hp q hq hplace
    obtain ⟨k', hk'⟩ := (hmem q).mp hq
    rw [hkeyed.eq_key hk' hplace, ← hkeyed k p hp, hp] at hk'
    exact (Option.some.inj hk').symm
  intro place columns
  by_cases hplace : ∃ (k : String) (p : VmPlacement), table'[k]? = some p ∧ p.place = place
  · obtain ⟨k, p, hp, rfl⟩ := hplace
    rw [restore_of_mem ((hmem p).mpr ⟨k, hp⟩) (hunique k p hp)]
    constructor
    · rintro ⟨rfl⟩
      exact ⟨k, p, hp, rfl, rfl⟩
    · rintro ⟨k', q, hq, hqp, rfl⟩
      rw [hunique k p hp q ((hmem q).mpr ⟨k', hq⟩) hqp]
  · have hnone : ∀ q ∈ table'.toList.map Prod.snd, q.place ≠ place := fun q hq heq =>
      hplace (((hmem q).mp hq).imp fun k hk => ⟨q, hk, heq⟩)
    rw [restore_of_forall_ne hnone, h place columns]
    constructor
    · rintro ⟨k, p, hp, rfl, rfl⟩
      obtain ⟨k', q, hq, hqp⟩ := hcover k p hp
      exact absurd ⟨k', q, hq, hqp⟩ hplace
    · rintro ⟨k, p, hp, rfl, rfl⟩
      exact absurd ⟨k, p, hp, rfl⟩ hplace

end PlacementView

/-! ### Runs -/

/-- Commands that announce all they do to the placements: the row that a VM is placed in is its own or
free, and a VM is rescheduled only to where it is. -/
def announces (r : Replica) : Command → Bool
  | .placeVm vmId _ subnetId _ _ _ =>
      (r.placements[PlacementStore.key (r.placementVpc subnetId) vmId]?).all fun p =>
        p.place == (r.placementVpc subnetId, vmId)
  | .rescheduleVm vmId _ target _ =>
      (r.placementsOf vmId).head?.all fun p => p.hypervisorId == target
  | _ => true

/-- Inputs that announce all they do to the placements: commands that do, and snapshots without a
table of placements or with one that has a row for every placement that exists. -/
def AnnouncesInput (r : Replica) : SmInput → Prop
  | .command cmd => ∀ e ∈ executed [cmd] r, announces e.before e.action = true
  | .snapshot ⟨_, .full data⟩ =>
      ∀ entries, data.tables[placementSchema.name .vmPlacements]? = some entries →
        KeyedPlacements (readRaw placementSchema .vmPlacements entries) ∧
        ∀ (k : String) p, r.placements[k]? = some p → ∃ (k' : String) (q : VmPlacement),
          (readRaw placementSchema .vmPlacements entries)[k']? = some q ∧ q.place = p.place
  | .snapshot _ => True

def emitted (r r' : Replica) : List PlacementEvent :=
  r'.sm.placementTx.drop r.sm.placementTx.length

structure Followed (r : Replica) (v : PlacementView) (r' : Replica) : Prop where
  sent : r'.sm.placementTx = r.sm.placementTx ++ emitted r r'
  describes : ((emitted r r').foldl PlacementView.follow v).Describes r'.placements
  keyed : KeyedPlacements r'.placements

namespace Followed

variable {r t t' : Replica} {v : PlacementView}

theorem refl (h : v.Describes r.placements) (hkeyed : KeyedPlacements r.placements) :
    Followed r v r := by
  have hnone : emitted r r = [] := by simp [emitted]
  exact ⟨by simp [hnone], by simpa [hnone] using h, hkeyed⟩

theorem snoc (h : Followed r v t) {events : List PlacementEvent}
    (hevents : t'.sm.placementTx = t.sm.placementTx ++ events) (hkeyed : KeyedPlacements t'.placements)
    (hdescribes : ∀ w : PlacementView, w.Describes t.placements →
      (events.foldl PlacementView.follow w).Describes t'.placements) : Followed r v t' := by
  have hall : emitted r t' = emitted r t ++ events := by
    rw [emitted, hevents, h.sent, List.append_assoc, List.drop_left]
  refine ⟨by rw [hevents, h.sent, hall, List.append_assoc], ?_, hkeyed⟩
  rw [hall, List.foldl_append]
  exact hdescribes _ h.describes

theorem getElem?_key (hkeyed : KeyedPlacements t.placements) {vmId : String} {p : VmPlacement}
    (hfound : (t.placementsOf vmId).head? = some p) :
    t.placements[PlacementStore.key p.vpcId p.vmId]? = some p ∧ p.vmId = vmId := by
  obtain ⟨⟨k, hk⟩, hvm⟩ := mem_placementsOf.mp (List.mem_of_head? hfound)
  exact ⟨hkeyed k p hk ▸ hk, hvm⟩

/-- **One command.** -/
theorem change (h : Followed r v t) {c : Command} {reply : StateMachineResponse}
    (hchange : PlacementChange t t' c reply) (hannounces : announces t c = true) :
    Followed r v t' := by
  cases hchange with
  | @placed p hvpc hplacements hevents =>
      have hkey : ∀ q, t.placements[PlacementStore.key p.vpcId p.vmId]? = some q →
          q.place = p.place := by
        intro q hq
        rw [announces, ← hvpc, hq] at hannounces
        exact beq_iff_eq.mp hannounces
      refine h.snoc hevents (hplacements ▸ h.keyed.insert p) fun w hw => ?_
      rw [hplacements]
      exact hw.insert h.keyed hkey
  | @removed vmId p hfound hplacements hevents =>
      obtain ⟨hp, rfl⟩ := getElem?_key h.keyed hfound
      refine h.snoc hevents (hplacements ▸ h.keyed.erase _) fun w hw => ?_
      rw [hplacements]
      exact hw.erase h.keyed hp
  | @rescheduled vmId source target generation p order hfound hplacements hstorage hevents =>
      obtain ⟨hp, rfl⟩ := getElem?_key h.keyed hfound
      rw [announces, hfound] at hannounces
      obtain rfl : p.hypervisorId = target := beq_iff_eq.mp hannounces
      let q : VmPlacement := { p with placementGeneration := generation }
      have hevents' : t'.sm.placementTx = t.sm.placementTx ++ [] := by rw [hevents, List.append_nil]
      refine h.snoc hevents' (hplacements ▸ h.keyed.insert q) fun w hw => ?_
      -- the new row says of the VM what the old one did
      have hsame : Function.update w q.place (some q.columns) = w :=
        Function.update_eq_self_iff.mpr ((hw p.place p.columns).mpr ⟨_, p, hp, rfl, rfl⟩).symm
      have hwritten := hw.insert (p := q) h.keyed fun q' hq' => by
        rw [show q' = p from Option.some.inj (hq'.symm.trans hp)]
        rfl
      rw [hsame] at hwritten
      rw [hplacements]
      exact hwritten
  | other _ hplacements hevents =>
      have hevents' : t'.sm.placementTx = t.sm.placementTx ++ [] := by rw [hevents, List.append_nil]
      refine h.snoc hevents' (hplacements ▸ h.keyed) fun w hw => ?_
      rw [hplacements]
      exact hw

theorem command (h : Followed r v t) {cmd : StateMachineCommand}
    (hannounces : ∀ e ∈ executed [cmd] t, announces e.before e.action = true) :
    Followed r v (applyCommand cmd t).2 := by
  have hrun : Run applySingle t (executed [cmd] t) (applyCommand cmd t).2 :=
    Batch.run_executed [cmd] t
  exact hrun.invariant (I := fun _ t => Followed r v t)
    (C := fun _ e => announces e.before e.action = true) h
    (fun _ t c ht hc => ht.change (placementChange_applySingle c t) hc) (.of_forall hannounces)

theorem installed (h : Followed r v t) {data : FullSnapshotData} {info : SnapshotMeta}
    (hannounces : AnnouncesInput t (.snapshot ⟨info, .full data⟩)) :
    Followed r v (t.input (.snapshot ⟨info, .full data⟩)).2 := by
  cases hstore : t.sm.placementStore with
  | none =>
      have hnone : (t.sm.importStoreTables data.tables).placementStore = none := by
        simp [RedbStateMachine.importStoreTables, hstore]
      have hsame : (t.input (.snapshot ⟨info, .full data⟩)).2.placements = t.placements := by
        refine (Handle.placements_congr ?_)
        rw [hstore]
        exact hnone
      have hevents : (t.input (.snapshot ⟨info, .full data⟩)).2.sm.placementTx =
          t.sm.placementTx ++ [] := by
        change t.sm.placementTx ++ RedbStateMachine.restoredEvents
          (t.sm.importStoreTables data.tables).placementStore = _
        rw [hnone]
        rfl
      exact h.snoc hevents (hsame ▸ h.keyed) fun w hw => hsame ▸ hw
  | some db =>
      let db' := importStore placementSchema data.tables db
      have hstore' : (t.sm.importStoreTables data.tables).placementStore = some db' := by
        simp [RedbStateMachine.importStoreTables, hstore, db']
      have htable : (t.input (.snapshot ⟨info, .full data⟩)).2.placements =
          db'.table .vmPlacements := Handle.placements_of_store hstore'
      have hevents : (t.input (.snapshot ⟨info, .full data⟩)).2.sm.placementTx =
          t.sm.placementTx ++ (PlacementStore.listAll db').map RedbStateMachine.addedEvent := by
        change t.sm.placementTx ++ RedbStateMachine.restoredEvents
          (t.sm.importStoreTables data.tables).placementStore = _
        rw [hstore']
        rfl
      have himport : KeyedPlacements (db'.table .vmPlacements) ∧
          ∀ (k : String) p, t.placements[k]? = some p → ∃ (k' : String) (q : VmPlacement),
            (db'.table .vmPlacements)[k']? = some q ∧ q.place = p.place := by
        rw [importStore_table]
        cases hentries : data.tables[placementSchema.name .vmPlacements]? with
        | some entries => exact hannounces entries hentries
        | none =>
            rw [Option.elim_none, ← Handle.placements_of_store hstore]
            exact ⟨h.keyed, fun k p hp => ⟨k, p, hp, rfl⟩⟩
      refine h.snoc hevents (htable ▸ himport.1) fun w hw => ?_
      rw [htable]
      exact hw.restore himport.1 himport.2

/-- **One input.** -/
theorem input (h : Followed r v t) {i : SmInput} (hannounces : AnnouncesInput t i) :
    Followed r v (t.input i).2 := by
  match i with
  | .command cmd => exact h.command hannounces
  | .snapshot ⟨info, .full data⟩ => exact h.installed hannounces
  | .snapshot ⟨_, .smState _⟩ => exact ⟨h.sent, h.describes, h.keyed⟩
  | .snapshot ⟨_, .other⟩ => exact h

end Followed

/-- **The feed describes the table.** In every run whose inputs announce all they do, a subscriber that
starts with the rows of the table and follows all events knows exactly its rows at the end, and so
exactly the VMs on other nodes. -/
theorem describes_of_announced (r : Replica) (inputs : List SmInput) (v : PlacementView)
    (hkeyed : KeyedPlacements r.placements) (hv : v.Describes r.placements)
    (hannounced : ∀ e ∈ trace Replica.input inputs r, AnnouncesInput e.before e.action) :
    let r' := reached Replica.input inputs r
    let v' := (emitted r r').foldl PlacementView.follow v
    v'.Describes r'.placements ∧ ∀ localNode place,
      (v' place).any (fun columns => columns.hypervisorId != localNode) = true ↔
        ∃ (k : String) (p : VmPlacement), r'.placements[k]? = some p ∧ p.place = place ∧
          p.hypervisorId ≠ localNode := by
  have hfollowed : Followed r v (reached Replica.input inputs r) :=
    invariant_reached (I := Followed r v) (C := fun e => AnnouncesInput e.before e.action)
      (.refl hv hkeyed) (fun _ _ h hannounces => h.input hannounces) hannounced
  exact ⟨hfollowed.describes, hfollowed.describes.remote⟩

theorem describes_empty : PlacementView.Describes (fun _ => none) Replica.withPlacements.placements := by
  have hempty : Replica.withPlacements.placements = ∅ := by decide
  intro place columns
  simp [hempty]

/-- A VM is placed, moved in the table by placing it again, and removed. -/
def announcedRun : List SmInput :=
  [.command (.single (.placeVm "vm" "hv-1" "vpc-1/sub" "10.0.0.5" "mac" 1)),
    .command (.single (.placeVm "vm" "hv-2" "vpc-1/sub" "10.0.0.5" "mac" 2)),
    .command (.single (.placeVm "vm2" "hv-2" "vpc-1/sub" "10.0.0.6" "mac2" 1)),
    .command (.single (.removeVm "vm"))]

theorem describes_of_announcedRun :
    (∀ e ∈ trace Replica.input announcedRun .withPlacements, AnnouncesInput e.before e.action) ∧
    PlacementView.Describes
      ((emitted .withPlacements (reached Replica.input announcedRun .withPlacements)).foldl
        PlacementView.follow fun _ => none)
      (reached Replica.input announcedRun .withPlacements).placements := by
  have hannounced : ∀ e ∈ trace Replica.input announcedRun .withPlacements,
      AnnouncesInput e.before e.action := by
    simp only [announcedRun, trace, List.forall_mem_cons]
    refine ⟨?_, ?_, ?_, ?_, List.forall_mem_nil _⟩ <;>
      · change ∀ e ∈ executed _ _, announces e.before e.action = true
        decide
  have hkeyed : KeyedPlacements Replica.withPlacements.placements := by
    have hempty : Replica.withPlacements.placements = ∅ := by decide
    intro k p
    simp [hempty]
  exact ⟨hannounced, (describes_of_announced _ announcedRun _ hkeyed describes_empty hannounced).1⟩

def unannouncedMove : List SmInput :=
  [.command (.single (.placeVm "vm" "hv-1" "vpc-1/sub" "10.0.0.5" "mac" 1)),
    .command (.single (.rescheduleVm "vm" "hv-1" "hv-2" 2))]

/-- A VM is placed, and a snapshot of a node that has another one is installed. -/
def unannouncedRemoval : List SmInput :=
  [.command (.single (.placeVm "vm" "hv-1" "vpc-1/sub" "10.0.0.5" "mac" 1)),
    .snapshot (reached Replica.input
      [.command (.single (.placeVm "vm2" "hv-1" "vpc-1/sub" "10.0.0.6" "mac2" 1))]
      .withPlacements).sm.buildSnapshot.1]

/-- What the subscriber makes of the events of a run describes the table it leaves. -/
def FollowedFromStart (inputs : List SmInput) : Prop :=
  PlacementView.Describes
    ((emitted .withPlacements (reached Replica.input inputs .withPlacements)).foldl
      PlacementView.follow fun _ => none)
    (reached Replica.input inputs .withPlacements).placements

theorem not_followed {inputs : List SmInput}
    (hview : (emitted .withPlacements (reached Replica.input inputs .withPlacements)).foldl
      PlacementView.follow (fun _ => none) ("vpc-1", "vm") = some ⟨"mac", "10.0.0.5", "hv-1"⟩)
    (hrows : ((reached Replica.input inputs .withPlacements).placementsOf "vm").all
      (fun p => p.hypervisorId != "hv-1") = true) : ¬ FollowedFromStart inputs := by
  intro h
  obtain ⟨k, p, hp, hplace, hcolumns⟩ := (h _ _).mp hview
  have hvm : p.vmId = "vm" := congrArg Prod.snd hplace
  have hrow := List.all_eq_true.mp hrows p (mem_placementsOf.mpr ⟨⟨k, hp⟩, hvm⟩)
  exact bne_iff_ne.mp hrow (congrArg PlacementColumns.hypervisorId hcolumns)

/-- After either run the subscriber has the VM on its old node, where the table has it no more. -/
theorem not_describes_of_unannounced :
    ¬ FollowedFromStart unannouncedMove ∧ ¬ FollowedFromStart unannouncedRemoval := by
  constructor
  · exact not_followed (by decide) (by decide)
  · exact not_followed (by decide) (by decide)

end Syfrah
