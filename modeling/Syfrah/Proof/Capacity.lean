import Syfrah.Forge.Capacity
import Syfrah.Lib.Slots

/-!
# Capacity is neither overbooked nor leaked

A reservation stands for the resources of a VM until its commit counts them. So the used amounts, the
live reservations and the commits that are under way never exceed what the node has, as long as each
commit finds its reservation, and no admission looks at the tracker in the middle of a commit. A
release gives back what was counted only after a deletion: after a failed creation it takes from the
counters what other VMs use.
-/

namespace Syfrah

namespace Capacity

open Std.ExtTreeMap

/-! ### Sums of reservations -/

namespace CapacityTracker

variable (t : CapacityTracker) {now : ℕ} {res : Resource}

def liveReserved (now : ℕ) (res : Resource) : ℕ :=
  t.reservations.total fun _ r => if r.live now then r.amount res else 0

def allReserved (res : Resource) : ℕ := t.reservations.total fun _ r => r.amount res

theorem liveReserved_le_allReserved (now : ℕ) (res : Resource) :
    t.liveReserved now res ≤ t.allReserved res := by
  refine total_mono fun k => ?_
  unfold weight
  cases t.reservations[k]? with
  | none => rfl
  | some r => by_cases hlive : r.live now = true <;> simp [hlive]

theorem liveReserved_later (now elapsed : ℕ) (res : Resource) :
    t.liveReserved (now + elapsed) res ≤ t.liveReserved now res := by
  refine total_mono fun k => ?_
  unfold weight
  cases t.reservations[k]? with
  | none => rfl
  | some r =>
      by_cases hlive : r.live (now + elapsed) = true
      · have hbefore : r.live now = true := by
          simp only [Reservation.live, decide_eq_true_eq] at hlive ⊢
          omega
        simp [hlive, hbefore]
      · simp [hlive]

theorem weight_retain (f : Reservation → ℕ) (k : String) :
    (t.retain now).reservations.weight (fun _ r => f r) k =
      t.reservations.weight (fun _ r => if r.live now then f r else 0) k := by
  unfold weight retain
  rw [Std.ExtTreeMap.getElem?_filter]
  cases t.reservations[k]? with
  | none => rfl
  | some r => by_cases hlive : r.live now = true <;> simp [Option.filter, hlive]

theorem allReserved_retain : (t.retain now).allReserved res = t.liveReserved now res :=
  total_eq_of_weight_eq fun k => t.weight_retain (fun r => r.amount res) k

theorem liveReserved_retain : (t.retain now).liveReserved now res = t.liveReserved now res := by
  refine total_eq_of_weight_eq fun k => (t.weight_retain _ k).trans ?_
  unfold weight
  cases t.reservations[k]? with
  | none => rfl
  | some r => by_cases hlive : r.live now = true <;> simp [hlive]

theorem liveReserved_remove_le (id : String) (now : ℕ) (res : Resource) :
    (t.remove id).liveReserved now res ≤ t.liveReserved now res :=
  Nat.le.intro (total_erase id)

theorem liveReserved_remove {id : String} {r : Reservation} (h : t.reservations[id]? = some r)
    (hlive : r.live now = true) (res : Resource) :
    (t.remove id).liveReserved now res + r.amount res = t.liveReserved now res := by
  have herase := total_erase (t := t.reservations)
    (f := fun _ r => if r.live now then r.amount res else 0) id
  rwa [weight_of_getElem?_eq_some h, if_pos hlive] at herase

theorem allReserved_insert_le (id : String) (r : Reservation) (res : Resource) :
    (t.insert id r).allReserved res ≤ t.allReserved res + r.amount res := by
  have hinsert := total_insert (t := t.reservations) (f := fun _ r => r.amount res) id r
  exact (Nat.le_add_right _ _).trans hinsert.le

theorem available_of_le {used : ℕ} (h : used + t.allReserved res ≤ t.total res) :
    t.available used res = t.total res - (used + t.allReserved res) := by
  have hwidth := t.total_lt res
  have hreserved : t.reserved res = t.allReserved res := Nat.mod_eq_of_lt (by unfold allReserved at *; omega)
  rw [available, hreserved, Nat.mod_eq_of_lt (by omega)]

end CapacityTracker

/-! ### What is claimed and when -/

namespace Handler

def inFlight : Handler → Bool
  | reserving .. | creating _ | committing .. | failing .. => true
  | _ => false

end Handler

namespace Node

/-- No creation is under way, and every VM that was committed has been deleted. -/
def AllDeleted (s : Node) : Prop :=
  (∀ h ∈ s.handlers, h.inFlight = false) ∧
    ∀ i spec, s.handlers[i]? = some (.committed spec) → .deleted i ∈ s.handlers

/-- The used amounts are those of the VMs that were committed and not released, there is room for them
and for the live reservations, and they return to zero. -/
structure InBooks (s : Node) : Prop where
  used : ∀ res, s.tracker.used res = ((s.booked res).map Prod.snd).sum
  within : ∀ res, s.tracker.used res + s.tracker.liveReserved s.now res ≤ s.tracker.total res
  returns : s.AllDeleted → ∀ res, s.tracker.used res = 0

/-- The reservation of the creation is still there and has not expired. -/
def hasReservation (s : Node) (spec : Spec) : Bool :=
  (s.tracker.reservations[spec.name]?).any fun r => r.live s.now &&
    r.amount .vcpus == spec.amount .vcpus && r.amount .memoryMb == spec.amount .memoryMb

end Node

/-- No admission during a commit, no commit without its reservation, no release after a failed creation
while resources are in use, and a release after a deletion only of what is booked. -/
def Act.orderly (s : Node) : Act → Bool
  | .create _ => !s.unlocked || s.handlers.all fun h => !h.isCommitting
  | .advance i ok =>
    match s.handlers[i]? with
    | some (.creating spec) => !s.unlocked || !ok || s.hasReservation spec
    | some (.failing spec res) => s.tracker.used res == 0 || spec.amount res == 0
    | some (.deleting vm spec res) => (s.booked res).contains (vm, spec.amount res)
    | _ => true
  | _ => true

/-! ### The used amounts and the reservations -/

def Handler.pending (res : Resource) : Handler → ℕ
  | .committing spec next => if res = .vcpus ∧ next = .memoryMb then 0 else spec.amount res
  | _ => 0

/-- What the commits that are under way still have to count. -/
def pending (handlers : List Handler) (res : Resource) : ℕ := (handlers.map (Handler.pending res)).sum

theorem sum_map_set {α : Type} (f : α → ℕ) {l : List α} {i : ℕ} {a : α} (h : l[i]? = some a) (b : α) :
    ((l.set i b).map f).sum + f a = (l.map f).sum + f b := by
  induction l generalizing i with
  | nil => simp at h
  | cons c l ih =>
      cases i with
      | zero =>
          obtain rfl : c = a := by simpa using h
          simp only [List.set_cons_zero, List.map_cons, List.sum_cons]
          omega
      | succ i =>
          have htail := ih (i := i) (by simpa using h)
          simp only [List.set_cons_succ, List.map_cons, List.sum_cons]
          omega

structure ReadsHold (t : CapacityTracker) (handlers : List Handler) (usedVcpus : ℕ) : Prop where
  quiet : ∀ res, pending handlers res = 0
  read : t.used .vcpus ≤ usedVcpus
  vcpus : usedVcpus + t.allReserved .vcpus ≤ t.total .vcpus
  memory : t.used .memoryMb + t.allReserved .memoryMb ≤ t.total .memoryMb

structure Fits (t : CapacityTracker) (now : ℕ) (handlers : List Handler) : Prop where
  within : ∀ res, t.used res + t.liveReserved now res + pending handlers res ≤ t.total res
  reads : ∀ (i : ℕ) spec u, handlers[i]? = some (.reserving spec u) → ReadsHold t handlers u
  alone : ∀ (i j : ℕ) spec spec' u u', handlers[i]? = some (.reserving spec u) →
    handlers[j]? = some (.reserving spec' u') → i = j

section Handlers

variable {handlers : List Handler} {i : ℕ} {h : Handler}

theorem pending_set (hi : handlers[i]? = some h) (h' : Handler) (res : Resource) :
    pending (handlers.set i h') res + h.pending res = pending handlers res + h'.pending res :=
  sum_map_set _ hi h'

theorem pending_append (h : Handler) (res : Resource) :
    pending (handlers ++ [h]) res = pending handlers res + h.pending res := by
  simp [pending]

theorem pending_le (hi : handlers[i]? = some h) (res : Resource) :
    h.pending res ≤ pending handlers res :=
  List.le_sum_of_mem (List.mem_map.mpr ⟨h, List.mem_of_getElem? hi, rfl⟩)

theorem pending_eq_zero (hquiet : (handlers.all fun h => !h.isCommitting) = true) (res : Resource) :
    pending handlers res = 0 := by
  refine List.sum_eq_zero_iff.mpr fun n hn => ?_
  obtain ⟨h, hmem, rfl⟩ := List.mem_map.mp hn
  have hnot := List.all_eq_true.mp hquiet h hmem
  cases h <;> first | rfl | simp [Handler.isCommitting] at hnot

theorem of_reserving_set {h' : Handler} (hh' : h'.isReserving = false) {j : ℕ} {spec : Spec} {u : ℕ}
    (h : (handlers.set i h')[j]? = some (.reserving spec u)) :
    j ≠ i ∧ handlers[j]? = some (.reserving spec u) := by
  rcases of_getElem?_set h with ⟨-, rfl⟩ | hold
  · cases hh'
  · exact hold

theorem of_reserving_append {h' : Handler} {j : ℕ} {spec : Spec} {u : ℕ}
    (h : (handlers ++ [h'])[j]? = some (.reserving spec u)) :
    handlers[j]? = some (.reserving spec u) ∨ j = handlers.length ∧ h' = .reserving spec u := by
  exact (of_getElem?_concat h).imp_right fun ⟨hj, heq⟩ => ⟨hj, heq.symm⟩

end Handlers

theorem Node.not_reserving_of_unlocked {s : Node} (h : s.unlocked = true) {i : ℕ} {spec : Spec}
    {u : ℕ} : s.handlers[i]? ≠ some (.reserving spec u) := by
  intro hi
  have hmem := List.all_eq_true.mp h _ (List.mem_of_getElem? hi)
  simp [Handler.isReserving] at hmem

namespace Fits

variable {t : CapacityTracker} {now i : ℕ} {handlers : List Handler} {spec : Spec} {res : Resource}

theorem tick (h : Fits t now handlers) (elapsed : ℕ) : Fits t (now + elapsed) handlers where
  within res := by
    have hwithin := h.within res
    have hlater := t.liveReserved_later now elapsed res
    omega
  reads := h.reads
  alone := h.alone

theorem purge (h : Fits t now handlers)
    (hfree : ∀ (j : ℕ) spec u, handlers[j]? ≠ some (.reserving spec u)) :
    Fits (t.retain now) now handlers where
  within res := by
    rw [CapacityTracker.liveReserved_retain]
    exact h.within res
  reads j spec u hj := absurd hj (hfree j spec u)
  alone := h.alone

theorem create (h : Fits t now handlers)
    (hfree : ∀ (j : ℕ) spec u, handlers[j]? ≠ some (.reserving spec u))
    (hquiet : ∀ res, pending handlers res = 0) (spec : Spec) :
    Fits (t.retain now) now (handlers ++ [.reserving spec (t.used .vcpus)]) where
  within res := by
    rw [CapacityTracker.liveReserved_retain, pending_append]
    exact h.within res
  reads j spec' u hj := by
    obtain ⟨-, heq⟩ := (of_reserving_append hj).resolve_left (hfree j spec' u)
    cases heq
    have hroom : ∀ res, t.used res + (t.retain now).allReserved res ≤ t.total res := by
      intro res
      rw [CapacityTracker.allReserved_retain]
      exact (Nat.le_add_right _ _).trans (h.within res)
    refine ⟨fun res => ?_, le_rfl, hroom .vcpus, hroom .memoryMb⟩
    rw [pending_append, hquiet res]
    rfl
  alone j k spec spec' u u' hj hk := by
    obtain ⟨hj, -⟩ := (of_reserving_append hj).resolve_left (hfree j spec u)
    obtain ⟨hk, -⟩ := (of_reserving_append hk).resolve_left (hfree k spec' u')
    exact hj.trans hk.symm

theorem delete (h : Fits t now handlers)
    (hfree : ∀ (j : ℕ) spec u, handlers[j]? ≠ some (.reserving spec u)) (id : String) (vm : ℕ)
    (spec : Spec) : Fits (t.remove id) now (handlers ++ [.deleting vm spec .vcpus]) := by
  have hnone : ∀ (j : ℕ) spec' u,
      (handlers ++ [Handler.deleting vm spec .vcpus])[j]? ≠ some (.reserving spec' u) := by
    intro j spec' u hj
    rcases of_reserving_append hj with hold | ⟨-, heq⟩
    · exact hfree j spec' u hold
    · cases heq
  refine ⟨fun res => ?_, fun j spec' u hj => absurd hj (hnone j spec' u),
    fun j _ spec' _ u _ hj => absurd hj (hnone j spec' u)⟩
  have hless := t.liveReserved_remove_le id now res
  rw [pending_append]
  exact (Nat.add_le_add_right (Nat.add_le_add_left hless _) _).trans (h.within res)

theorem commitBegins (h : Fits t now handlers)
    (hfree : ∀ (j : ℕ) spec u, handlers[j]? ≠ some (.reserving spec u))
    (hi : handlers[i]? = some (.creating spec)) {r : Reservation}
    (hr : t.reservations[spec.name]? = some r) (hlive : r.live now = true)
    (hamount : r.amount = spec.amount) :
    Fits (t.remove spec.name) now (handlers.set i (.committing spec .vcpus)) := by
  have hnone : ∀ (j : ℕ) spec' u,
      (handlers.set i (.committing spec .vcpus))[j]? ≠ some (.reserving spec' u) :=
    fun j spec' u hj => hfree j spec' u (of_reserving_set rfl hj).2
  refine ⟨fun res => ?_, fun j spec' u hj => absurd hj (hnone j spec' u),
    fun j _ spec' _ u _ hj => absurd hj (hnone j spec' u)⟩
  have hwithin := h.within res
  have hdropped := t.liveReserved_remove hr hlive res
  have hpending := pending_set hi (.committing spec .vcpus) res
  simp only [Handler.pending, reduceCtorEq, and_false, ↓reduceIte] at hpending
  rw [hamount] at hdropped
  change t.used res + _ + _ ≤ t.total res
  omega

theorem releaseBegins (h : Fits t now handlers)
    (hfree : ∀ (j : ℕ) spec u, handlers[j]? ≠ some (.reserving spec u))
    (hi : handlers[i]? = some (.creating spec)) :
    Fits (t.remove spec.name) now (handlers.set i (.failing spec .vcpus)) := by
  have hnone : ∀ (j : ℕ) spec' u,
      (handlers.set i (.failing spec .vcpus))[j]? ≠ some (.reserving spec' u) :=
    fun j spec' u hj => hfree j spec' u (of_reserving_set rfl hj).2
  refine ⟨fun res => ?_, fun j spec' u hj => absurd hj (hnone j spec' u),
    fun j _ spec' _ u _ hj => absurd hj (hnone j spec' u)⟩
  have hwithin := h.within res
  have hless := t.liveReserved_remove_le spec.name now res
  have hpending := pending_set hi (.failing spec .vcpus) res
  simp only [Handler.pending] at hpending
  change t.used res + _ + _ ≤ t.total res
  omega

theorem count (h : Fits t now handlers) {old new : Handler} (hi : handlers[i]? = some old)
    (hnew : new.isReserving = false) (hless : ∀ res', new.pending res' ≤ old.pending res') {used : ℕ}
    (hused : ∀ res', Function.update t.used res used res' + new.pending res' ≤
      t.used res' + old.pending res') : Fits (t.setUsed res used) now (handlers.set i new) := by
  have hpending := pending_set hi new
  refine ⟨fun res' => ?_, fun j spec u hj => ?_, fun j k spec spec' u u' hj hk => ?_⟩
  · have hwithin := h.within res'
    have hle := hused res'
    have hset := hpending res'
    change Function.update t.used res used res' + t.liveReserved now res' + _ ≤ t.total res'
    omega
  · have hreads := h.reads j spec u (of_reserving_set hnew hj).2
    have hzero : ∀ res', old.pending res' = 0 := fun res' =>
      Nat.le_zero.mp ((pending_le hi res').trans_eq (hreads.quiet res'))
    have hkept : ∀ res', Function.update t.used res used res' ≤ t.used res' ∧
        pending (handlers.set i new) res' = 0 := by
      intro res'
      have hnone := hless res'
      have hle := hused res'
      have hset := hpending res'
      rw [hzero res'] at hnone hle hset
      rw [hreads.quiet res'] at hset
      omega
    refine ⟨fun res' => (hkept res').2, (hkept .vcpus).1.trans hreads.read, hreads.vcpus, ?_⟩
    exact (Nat.add_le_add_right (hkept .memoryMb).1 _).trans hreads.memory
  · exact h.alone j k spec spec' u u' (of_reserving_set hnew hj).2 (of_reserving_set hnew hk).2

theorem reserve (h : Fits t now handlers) {u : ℕ} (hi : handlers[i]? = some (.reserving spec u))
    (hvcpus : spec.amount .vcpus ≤ t.available u .vcpus)
    (hmemory : spec.amount .memoryMb ≤ t.available (t.used .memoryMb) .memoryMb) :
    Fits (t.insert spec.name ⟨spec.amount, now⟩) now (handlers.set i (.creating spec)) := by
  have hreads := h.reads i spec u hi
  rw [t.available_of_le hreads.vcpus] at hvcpus
  rw [t.available_of_le hreads.memory] at hmemory
  have hnone : ∀ (j : ℕ) spec' u',
      (handlers.set i (.creating spec))[j]? ≠ some (.reserving spec' u') := by
    intro j spec' u' hj
    obtain ⟨hne, hold⟩ := of_reserving_set rfl hj
    exact hne (h.alone j i spec' spec u' u hold hi)
  refine ⟨fun res => ?_, fun j spec' u' hj => absurd hj (hnone j spec' u'),
    fun j _ spec' _ u' _ hj => absurd hj (hnone j spec' u')⟩
  have hlive := (t.insert spec.name ⟨spec.amount, now⟩).liveReserved_le_allReserved now res
  have hinsert := t.allReserved_insert_le spec.name ⟨spec.amount, now⟩ res
  have hpending := pending_set hi (.creating spec) res
  rw [hreads.quiet res] at hpending
  simp only [Handler.pending] at hpending
  have hroom : t.used res + (t.allReserved res + spec.amount res) ≤ t.total res := by
    have hread := hreads.read
    have hfitV := hreads.vcpus
    have hfitM := hreads.memory
    cases res with
    | vcpus => omega
    | memoryMb => omega
  change t.used res + _ + _ ≤ t.total res
  dsimp only at hinsert
  omega

theorem refuse (h : Fits t now handlers) {u : ℕ} (hi : handlers[i]? = some (.reserving spec u)) :
    Fits t now (handlers.set i .refused) := by
  have hnone : ∀ (j : ℕ) spec' u', (handlers.set i .refused)[j]? ≠ some (.reserving spec' u') := by
    intro j spec' u' hj
    obtain ⟨hne, hold⟩ := of_reserving_set rfl hj
    exact hne (h.alone j i spec' spec u' u hold hi)
  refine ⟨fun res => ?_, fun j spec' u' hj => absurd hj (hnone j spec' u'),
    fun j _ spec' _ u' _ hj => absurd hj (hnone j spec' u')⟩
  have hpending := pending_set hi .refused res
  simp only [Handler.pending] at hpending
  have hwithin := h.within res
  omega

end Fits

/-! ### The VMs behind the used amounts -/

namespace Handler

def hasCounted (res : Resource) : Handler → Bool
  | committed _ => true
  | committing _ next => res == .vcpus && next == .memoryMb
  | _ => false

def hasReleased (res : Resource) : Handler → Option ℕ
  | deleted vm => some vm
  | deleting vm _ next => if res = .vcpus ∧ next = .memoryMb then some vm else none
  | _ => none

end Handler

structure Ledger (used : Amount) (handlers : List Handler) (booked : Resource → List (ℕ × ℕ)) :
    Prop where
  used : ∀ res, used res = ((booked res).map Prod.snd).sum
  nodup : ∀ res, ((booked res).map Prod.fst).Nodup
  owner : ∀ res, ∀ e ∈ booked res, ∃ h, handlers[e.1]? = some h ∧ h.hasCounted res = true
  released : ∀ res (j : ℕ) h vm, handlers[j]? = some h → h.hasReleased res = some vm →
    vm ∉ (booked res).map Prod.fst ∧ ∃ h', handlers[vm]? = some h' ∧ h'.hasCounted res = true

namespace Ledger

variable {used : Amount} {handlers : List Handler} {booked : Resource → List (ℕ × ℕ)} {i : ℕ}
  {old new : Handler} {spec : Spec} {res : Resource}

theorem counted_set (hi : handlers[i]? = some old)
    (hcounted : old.hasCounted res = true → new.hasCounted res = true) {vm : ℕ}
    (h : ∃ h, handlers[vm]? = some h ∧ h.hasCounted res = true) :
    ∃ h, (handlers.set i new)[vm]? = some h ∧ h.hasCounted res = true := by
  obtain ⟨h, hvm, hres⟩ := h
  rw [List.getElem?_set]
  by_cases heq : i = vm
  · subst heq
    have hlt : i < handlers.length := (List.getElem?_eq_some_iff.mp hi).1
    rw [hvm] at hi
    cases hi
    exact ⟨new, by simp [hlt], hcounted hres⟩
  · exact ⟨h, by simp [heq, hvm], hres⟩

theorem append (h : Ledger used handlers booked) (hnew : ∀ res, new.hasReleased res = none) :
    Ledger used (handlers ++ [new]) booked := by
  have hkeep : ∀ {vm : ℕ} {res}, (∃ h, handlers[vm]? = some h ∧ h.hasCounted res = true) →
      ∃ h, (handlers ++ [new])[vm]? = some h ∧ h.hasCounted res = true := by
    rintro vm res ⟨h, hvm, hres⟩
    refine ⟨h, ?_, hres⟩
    rw [List.getElem?_append_left (List.getElem?_eq_some_iff.mp hvm).1, hvm]
  refine ⟨h.used, h.nodup, fun res e he => hkeep (h.owner res e he), fun res j h' vm hj hvm => ?_⟩
  rcases List.mem_append.mp (List.mem_of_getElem? hj) with hmem | hmem
  · obtain ⟨k, hk⟩ := List.getElem?_of_mem hmem
    exact (h.released res k h' vm hk hvm).imp_right hkeep
  · rw [List.mem_singleton.mp hmem, hnew res] at hvm
    cases hvm

theorem set (h : Ledger used handlers booked) (hi : handlers[i]? = some old)
    (hcounted : ∀ res, old.hasCounted res = true → new.hasCounted res = true)
    (hreleased : ∀ res, new.hasReleased res = none) : Ledger used (handlers.set i new) booked := by
  refine ⟨h.used, h.nodup, fun res e he => counted_set hi (hcounted res) (h.owner res e he),
    fun res j h' vm hj hvm => ?_⟩
  rcases of_getElem?_set hj with ⟨-, rfl⟩ | ⟨-, hold⟩
  · rw [hreleased res] at hvm
    cases hvm
  · exact (h.released res j h' vm hold hvm).imp_right (counted_set hi (hcounted res))

theorem commit (h : Ledger used handlers booked) (hi : handlers[i]? = some old)
    (hold : old.hasCounted res = false) (hcounted : new.hasCounted res = true)
    (hmono : ∀ res', old.hasCounted res' = true → new.hasCounted res' = true)
    (hreleased : ∀ res', new.hasReleased res' = none) (amount : ℕ) :
    Ledger (Function.update used res (used res + amount)) (handlers.set i new)
      (Function.update booked res ((i, amount) :: booked res)) := by
  have hframe := h.set hi hmono hreleased
  have hfresh : ∀ vm, (∃ h, handlers[vm]? = some h ∧ h.hasCounted res = true) → vm ≠ i := by
    rintro _ ⟨h, hvm, hres⟩ rfl
    rw [hi] at hvm
    cases hvm
    rw [hold] at hres
    cases hres
  have hlt : i < handlers.length := (List.getElem?_eq_some_iff.mp hi).1
  refine ⟨fun res' => ?_, fun res' => ?_, fun res' e he => ?_, fun res' j h' vm hj hvm => ?_⟩
    <;> by_cases hres : res' = res
  · subst hres
    simp only [Function.update_self, List.map_cons, List.sum_cons, h.used res']
    omega
  · simp only [Function.update_of_ne hres, h.used res']
  · subst hres
    simp only [Function.update_self, List.map_cons, List.nodup_cons]
    refine ⟨fun hmem => ?_, h.nodup res'⟩
    obtain ⟨e, he, heq⟩ := List.mem_map.mp hmem
    exact hfresh e.1 (h.owner res' e he) heq
  · rw [Function.update_of_ne hres]
    exact h.nodup res'
  · subst hres
    rw [Function.update_self] at he
    rcases List.mem_cons.mp he with rfl | hmem
    · exact ⟨new, by simp [hlt], hcounted⟩
    · exact hframe.owner res' e hmem
  · rw [Function.update_of_ne hres] at he
    exact hframe.owner res' e he
  · subst hres
    obtain ⟨hnot, hvmCounted⟩ := hframe.released res' j h' vm hj hvm
    refine ⟨?_, hvmCounted⟩
    simp only [Function.update_self, List.map_cons, List.mem_cons, not_or]
    refine ⟨?_, hnot⟩
    rcases of_getElem?_set hj with ⟨-, rfl⟩ | ⟨-, hbefore⟩
    · rw [hreleased res'] at hvm
      cases hvm
    · exact hfresh vm (h.released res' j h' vm hbefore hvm).2
  · rw [Function.update_of_ne hres]
    exact hframe.released res' j h' vm hj hvm

theorem release (h : Ledger used handlers booked) (hi : handlers[i]? = some old)
    (hold : ∀ res', old.hasCounted res' = false) {vm amount : ℕ}
    (hbooked : (vm, amount) ∈ booked res)
    (hreleased : ∀ res', new.hasReleased res' = if res' = res then some vm else old.hasReleased res') :
    Ledger (Function.update used res (used res - amount)) (handlers.set i new)
      (Function.update booked res ((booked res).erase (vm, amount))) := by
  have hkeep : ∀ {vm : ℕ} {res'}, (∃ h, handlers[vm]? = some h ∧ h.hasCounted res' = true) →
      ∃ h, (handlers.set i new)[vm]? = some h ∧ h.hasCounted res' = true := by
    intro vm res' hvm
    exact counted_set hi (fun hcounted => by rw [hold res'] at hcounted; cases hcounted) hvm
  have hsub : ∀ e, e ∈ (booked res).erase (vm, amount) → e ∈ booked res :=
    fun e he => List.mem_of_mem_erase he
  have hperm : (booked res).Perm ((vm, amount) :: (booked res).erase (vm, amount)) :=
    List.perm_cons_erase hbooked
  have hgone : vm ∉ ((booked res).erase (vm, amount)).map Prod.fst :=
    (List.nodup_cons.mp ((hperm.map Prod.fst).nodup_iff.mp (h.nodup res))).1
  refine ⟨fun res' => ?_, fun res' => ?_, fun res' e he => ?_, fun res' j h' vm' hj hvm' => ?_⟩
    <;> by_cases hres : res' = res
  · subst hres
    have hsum := (hperm.map Prod.snd).sum_eq
    rw [List.map_cons, List.sum_cons] at hsum
    simp only [Function.update_self, h.used res']
    omega
  · simp only [Function.update_of_ne hres, h.used res']
  · subst hres
    rw [Function.update_self]
    exact (h.nodup res').sublist (List.erase_sublist.map Prod.fst)
  · rw [Function.update_of_ne hres]
    exact h.nodup res'
  · subst hres
    rw [Function.update_self] at he
    exact hkeep (h.owner res' e (hsub e he))
  · rw [Function.update_of_ne hres] at he
    exact hkeep (h.owner res' e he)
  · subst hres
    rw [Function.update_self]
    rcases of_getElem?_set hj with ⟨-, rfl⟩ | ⟨-, hbefore⟩
    · rw [hreleased res', if_pos rfl] at hvm'
      cases hvm'
      exact ⟨hgone, hkeep (h.owner res' _ hbooked)⟩
    · obtain ⟨hnot, hcounted⟩ := h.released res' j h' vm' hbefore hvm'
      refine ⟨fun hmem => hnot ?_, hkeep hcounted⟩
      obtain ⟨e, he, rfl⟩ := List.mem_map.mp hmem
      exact List.mem_map.mpr ⟨e, hsub e he, rfl⟩
  · rw [Function.update_of_ne hres]
    rcases of_getElem?_set hj with ⟨-, rfl⟩ | ⟨-, hbefore⟩
    · rw [hreleased res', if_neg hres] at hvm'
      exact (h.released res' i old vm' hi hvm').imp_right hkeep
    · exact (h.released res' j h' vm' hbefore hvm').imp_right hkeep

end Ledger

/-! ### Whole runs -/

structure Node.Balanced (s : Node) : Prop where
  fits : Fits s.tracker s.now s.handlers
  ledger : Ledger s.tracker.used s.handlers s.booked

namespace Node.Balanced

variable {s : Node} {i : ℕ} {spec : Spec} {res : Resource}

theorem reservation (h : s.hasReservation spec = true) : ∃ r,
    s.tracker.reservations[spec.name]? = some r ∧ r.live s.now = true ∧ r.amount = spec.amount := by
  obtain ⟨r, hr, hmatch⟩ := (Option.any_eq_true _ _).mp h
  simp only [Bool.and_eq_true, beq_iff_eq] at hmatch
  refine ⟨r, hr, hmatch.1.1, funext fun res => ?_⟩
  cases res with
  | vcpus => exact hmatch.1.2
  | memoryMb => exact hmatch.2

theorem commit (h : s.Balanced) (hi : s.handlers[i]? = some (.committing spec res)) :
    (s.commit i spec res).Balanced := by
  have hpending : Handler.pending res (.committing spec res) = spec.amount res := by
    cases res <;> simp [Handler.pending]
  have hfit : s.tracker.used res + spec.amount res < res.width := by
    have hwithin := h.fits.within res
    have hle := pending_le hi res
    have htotal := s.tracker.total_lt res
    omega
  have hused : s.tracker.addUsed res spec.amount =
      s.tracker.setUsed res (s.tracker.used res + spec.amount res) := by
    rw [CapacityTracker.addUsed, Nat.mod_eq_of_lt hfit]
  cases res with
  | vcpus =>
      refine ⟨?_, ?_⟩
      · change Fits (s.tracker.addUsed _ _) _ _
        rw [hused]
        refine h.fits.count hi rfl (fun res' => ?_) fun res' => ?_
        all_goals cases res' <;> simp [Handler.pending]
      · change Ledger (s.tracker.addUsed _ _).used _ _
        rw [hused]
        exact h.ledger.commit hi rfl rfl (fun res' => by simp [Handler.hasCounted]) (fun _ => rfl) _
  | memoryMb =>
      refine ⟨?_, ?_⟩
      · change Fits (s.tracker.addUsed _ _) _ _
        rw [hused]
        refine h.fits.count hi rfl (fun res' => ?_) fun res' => ?_
        all_goals cases res' <;> simp [Handler.pending]
      · change Ledger (s.tracker.addUsed _ _).used _ _
        rw [hused]
        exact h.ledger.commit hi rfl rfl (fun _ _ => rfl) (fun _ => rfl) _

theorem releaseFailed (h : s.Balanced) (hi : s.handlers[i]? = some (.failing spec res))
    (hunused : s.tracker.used res = 0 ∨ spec.amount res = 0) :
    (s.releaseFailed i spec res).Balanced := by
  have hsame : s.tracker.used res - spec.amount res = s.tracker.used res := by omega
  have hused : Function.update s.tracker.used res (s.tracker.used res - spec.amount res) =
      s.tracker.used := by
    rw [hsame, Function.update_eq_self]
  have hfits := h.fits
  have hledger := h.ledger
  cases res with
  | vcpus =>
      refine ⟨hfits.count hi rfl (fun _ => by exact le_rfl) fun res' => ?_, ?_⟩
      · rw [hused]
        exact le_rfl
      · change Ledger (Function.update _ _ _) _ _
        rw [hused]
        exact hledger.set hi nofun fun _ => rfl
  | memoryMb =>
      refine ⟨hfits.count hi rfl (fun _ => by exact le_rfl) fun res' => ?_, ?_⟩
      · rw [hused]
        exact le_rfl
      · change Ledger (Function.update _ _ _) _ _
        rw [hused]
        exact hledger.set hi nofun fun _ => rfl

theorem releaseDeleted (h : s.Balanced) {vm : ℕ}
    (hi : s.handlers[i]? = some (.deleting vm spec res))
    (hbooked : (vm, spec.amount res) ∈ s.booked res) : (s.releaseDeleted i vm spec res).Balanced := by
  have hless : ∀ res', Function.update s.tracker.used res (s.tracker.used res - spec.amount res) res' ≤
      s.tracker.used res' := by
    intro res'
    by_cases hres : res' = res
    · subst hres
      rw [Function.update_self]
      exact Nat.sub_le _ _
    · rw [Function.update_of_ne hres]
  cases res with
  | vcpus =>
      refine ⟨h.fits.count hi rfl (fun _ => by exact le_rfl) fun res' => ?_, ?_⟩
      · exact Nat.add_le_add_right (hless res') _
      · refine h.ledger.release hi (fun _ => rfl) hbooked fun res' => ?_
        cases res' <;> simp [Handler.hasReleased]
  | memoryMb =>
      refine ⟨h.fits.count hi rfl (fun _ => by exact le_rfl) fun res' => ?_, ?_⟩
      · exact Nat.add_le_add_right (hless res') _
      · refine h.ledger.release hi (fun _ => rfl) hbooked fun res' => ?_
        cases res' <;> simp [Handler.hasReleased]

theorem advance (h : s.Balanced) {ok : Bool} (hact : (Act.advance i ok).orderly s = true) :
    (s.advance i ok).Balanced := by
  simp only [Act.orderly] at hact
  unfold Node.advance
  cases hi : s.handlers[i]? with
  | none => exact h
  | some handler =>
      rw [hi] at hact
      cases handler with
      | reserving spec u =>
          dsimp only
          unfold Node.finishReserve
          split
          · rename_i hroom
            exact ⟨h.fits.reserve hi hroom.1 hroom.2, h.ledger.set hi nofun fun _ => rfl⟩
          · exact ⟨h.fits.refuse hi, h.ledger.set hi nofun fun _ => rfl⟩
      | creating spec =>
          dsimp only
          split
          · rename_i hunlocked
            have hfree : ∀ (j : ℕ) spec u, s.handlers[j]? ≠ some (.reserving spec u) :=
              fun _ _ _ => not_reserving_of_unlocked hunlocked
            cases ok with
            | true =>
                obtain ⟨r, hr, hlive, hamount⟩ := reservation (by simpa [hunlocked] using hact)
                exact ⟨h.fits.commitBegins hfree hi hr hlive hamount,
                  h.ledger.set hi nofun fun _ => rfl⟩
            | false => exact ⟨h.fits.releaseBegins hfree hi, h.ledger.set hi nofun fun _ => rfl⟩
          · exact h
      | committing spec res => exact h.commit hi
      | failing spec res => exact h.releaseFailed hi (by simpa using hact)
      | deleting vm spec res => exact h.releaseDeleted hi (by simpa using hact)
      | refused | committed | failed | deleted => exact h

/-- **A step keeps the books in order.** -/
theorem step (h : s.Balanced) {act : Act} (hact : act.orderly s = true) :
    (Node.step act s).2.Balanced := by
  cases act with
  | tick elapsed => exact ⟨h.fits.tick elapsed, h.ledger⟩
  | purge =>
      dsimp only [Node.step]
      split
      · exact ⟨h.fits.purge fun _ _ _ => not_reserving_of_unlocked ‹_›, h.ledger⟩
      · exact h
  | create spec =>
      dsimp only [Node.step]
      split
      · rename_i hunlocked
        have hquiet := pending_eq_zero (by simpa [Act.orderly, hunlocked] using hact)
        exact ⟨h.fits.create (fun _ _ _ => not_reserving_of_unlocked hunlocked) hquiet spec,
          h.ledger.append fun _ => rfl⟩
      · exact h
  | delete vm id =>
      dsimp only [Node.step]
      split
      · split
        · rename_i hunlocked
          exact ⟨h.fits.delete (fun _ _ _ => not_reserving_of_unlocked hunlocked) id vm _,
            h.ledger.append fun _ => by simp [Handler.hasReleased]⟩
        · exact h
      · exact h
  | advance i ok => exact h.advance hact

theorem inBooks (h : s.Balanced) : s.InBooks where
  used := h.ledger.used
  within res := (Nat.le_add_right _ _).trans (h.fits.within res)
  returns hdeleted res := by
    rw [h.ledger.used res]
    have hempty : s.booked res = [] := by
      refine List.eq_nil_iff_forall_not_mem.mpr fun e he => ?_
      obtain ⟨handler, hvm, hcounted⟩ := h.ledger.owner res e he
      have hdone := hdeleted.1 handler (List.mem_of_getElem? hvm)
      cases handler with
      | committed spec =>
          obtain ⟨j, hj⟩ := List.getElem?_of_mem (hdeleted.2 e.1 spec hvm)
          exact (h.ledger.released res j _ e.1 hj rfl).1 (List.mem_map_of_mem he)
      | reserving | creating | committing | failing => cases hdone
      | refused | failed | deleting | deleted => cases hcounted
    rw [hempty]
    rfl

end Node.Balanced

theorem Node.balanced_start (total : Amount) (htotal : ∀ res, total res < res.width) :
    (Node.start total htotal).Balanced := by
  refine ⟨⟨fun res => ?_, nofun, nofun⟩, ⟨fun _ => rfl, fun _ => .nil, nofun, nofun⟩⟩
  have hnone : (Node.start total htotal).tracker.liveReserved 0 res = 0 :=
    total_eq_zero_iff.mpr fun k r hr => by simp [start] at hr
  simp [start, pending] at hnone ⊢
  omega

/-- **Capacity is in the books**, for every interleaving of orderly steps. -/
theorem inBooks_of_orderly (total : Amount) (htotal : ∀ res, total res < res.width)
    (acts : List Act)
    (hacts : ∀ e ∈ trace Node.step acts (.start total htotal), e.action.orderly e.before = true) :
    (reached Node.step acts (.start total htotal)).InBooks := by
  have hbalanced := invariant_reached (I := Node.Balanced) (Node.balanced_start total htotal)
    (fun _ _ h hact => h.step hact) hacts
  exact hbalanced.inBooks

def Amount.of (vcpus memoryMb : ℕ) : Amount
  | .vcpus => vcpus
  | .memoryMb => memoryMb

def Node.small : Node := .start (.of 4 4096) fun res => by cases res <;> decide

def twoVms : List Act :=
  [.create ⟨"a", .of 2 512⟩, .advance 0 true, .advance 0 true, .advance 0 true, .advance 0 true,
    .create ⟨"b", .of 2 256⟩, .advance 1 true, .tick 59000, .advance 1 true, .advance 1 true,
    .advance 1 true, .delete 0 "a", .advance 2 true, .advance 2 true, .delete 1 "b", .advance 3 true,
    .advance 3 true]

theorem inBooks_twoVms :
    (reached Node.step twoVms .small).InBooks ∧
      (reached Node.step (twoVms.take 11) .small).tracker.used .vcpus = 4 :=
  ⟨inBooks_of_orderly _ _ twoVms (by decide +kernel), by decide +kernel⟩

/-- One VM is in use when the creation of another one fails. -/
def failedCreation : List Act :=
  [.create ⟨"a", .of 2 512⟩, .advance 0 true, .advance 0 true, .advance 0 true, .advance 0 true,
    .create ⟨"b", .of 2 512⟩, .advance 1 true, .advance 1 false, .advance 1 true, .advance 1 true]

/-- The release gives back what the first VM uses. -/
theorem failed_creation_releases_other_vm : ¬ (reached Node.step failedCreation .small).InBooks := by
  intro h
  exact absurd (h.used .vcpus) (by decide +kernel)

end Capacity

end Syfrah
