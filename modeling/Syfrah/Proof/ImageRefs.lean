import Syfrah.Compute.ImageRefs
import Syfrah.Lib.Run
import Syfrah.Lib.TreeMap

/-!
# Images in use are kept

The counts and the map agree up to the calls between the two, as long as calls for one VM do not overlap
and no VM with an image survives a restart. An image with count 0 is then used by creations in progress
at most.
-/

namespace Syfrah

namespace Compute

namespace ImageRefs

open Std.ExtTreeMap

/-- The VM of a call. -/
def Call.isOf (vm : String) : Call → Bool
  | .lookedUp id _ | .inserted id _ | .readVm id _ | .removed id _ => id = vm
  | .checked _ => false

/-- A creation from an image. -/
def Call.creates (name : String) : Call → Bool
  | .lookedUp _ image | .inserted _ image => image = name
  | _ => false

def Call.inserts (vm : String) : Call → Bool
  | .inserted id _ => id = vm
  | _ => false

def Call.removes (name : String) : Call → Bool
  | .removed _ image => image = some name
  | _ => false

@[simp]
theorem Call.isOf_eq {vm : String} : (∀ id image, (lookedUp id image).isOf vm = decide (id = vm)) ∧
    (∀ id image, (inserted id image).isOf vm = decide (id = vm)) ∧
    (∀ id image, (readVm id image).isOf vm = decide (id = vm)) ∧
    (∀ id image, (removed id image).isOf vm = decide (id = vm)) ∧ ∀ name, (checked name).isOf vm = false :=
  ⟨fun _ _ => rfl, fun _ _ => rfl, fun _ _ => rfl, fun _ _ => rfl, fun _ => rfl⟩

@[simp]
theorem Call.creates_eq {name : String} : (∀ id image, (lookedUp id image).creates name = decide (image = name)) ∧
    (∀ id image, (inserted id image).creates name = decide (image = name)) ∧
    (∀ id image, (readVm id image).creates name = false) ∧ (∀ id image, (removed id image).creates name = false) ∧
    ∀ other, (checked other).creates name = false :=
  ⟨fun _ _ => rfl, fun _ _ => rfl, fun _ _ => rfl, fun _ _ => rfl, fun _ => rfl⟩

@[simp]
theorem Call.inserts_eq {vm : String} : (∀ id image, (lookedUp id image).inserts vm = false) ∧
    (∀ id image, (inserted id image).inserts vm = decide (id = vm)) ∧
    (∀ id image, (readVm id image).inserts vm = false) ∧ (∀ id image, (removed id image).inserts vm = false) ∧
    ∀ name, (checked name).inserts vm = false :=
  ⟨fun _ _ => rfl, fun _ _ => rfl, fun _ _ => rfl, fun _ _ => rfl, fun _ => rfl⟩

theorem Call.isOf_of_inserts {vm : String} {call : Call} (h : call.inserts vm = true) : call.isOf vm = true := by
  cases call <;> simp_all

@[simp]
theorem Call.removes_eq {name : String} : (∀ id image, (lookedUp id image).removes name = false) ∧
    (∀ id image, (inserted id image).removes name = false) ∧ (∀ id image, (readVm id image).removes name = false) ∧
    (∀ id image, (removed id image).removes name = decide (image = some name)) ∧
    ∀ other, (checked other).removes name = false :=
  ⟨fun _ _ => rfl, fun _ _ => rfl, fun _ _ => rfl, fun _ _ => rfl, fun _ => rfl⟩

namespace Manager

variable {images : List String} {vms : Table (Option String)} {counts : Table ℕ} {call : Call} {rest : Multiset Call}
variable {id image name : String}

/-- The VMs in the map that use an image. -/
def users (s : Manager) (name : String) : ℕ := s.vms.total fun _ image => if image = some name then 1 else 0

/-- A VM of an image whose creation has raised the count. -/
def settles (calls : Multiset Call) (name id : String) (image : Option String) : ℕ :=
  if image = some name ∧ calls.countP (·.inserts id) = 0 then 1 else 0

def settled (vms : Table (Option String)) (calls : Multiset Call) (name : String) : ℕ := vms.total (settles calls name)

/-- The calls in progress do not meet. -/
structure Apart (vms : Table (Option String)) (calls : Multiset Call) : Prop where
  alone : ∀ id, calls.countP (·.isOf id) ≤ 1
  lookedUp : ∀ id image, .lookedUp id image ∈ calls → vms[id]? = none
  inserted : ∀ id image, .inserted id image ∈ calls → vms[id]? = some (some image)
  readVm : ∀ id image, .readVm id image ∈ calls → vms[id]? = some image
  checked : ∀ name, .checked name ∈ calls → (∀ id : String, vms[id]? ≠ some (some name)) ∧
    calls.countP (·.creates name) = 0

/-- The counts are right up to the calls in progress. -/
structure Kept (s : Manager) : Prop extends Apart s.vms s.calls where
  counted : ∀ name, s.imageRefcounts[name]?.getD 0 = settled s.vms s.calls name + s.calls.countP (·.removes name)
  positive : ∀ name : String, s.imageRefcounts[name]? ≠ some 0

theorem kept_empty (images : List String) : Kept ⟨images, ∅, ∅, 0⟩ where
  alone := by simp
  lookedUp := by simp
  inserted := by simp
  readVm := by simp
  checked := by simp
  counted name := by
    rw [settled, total_eq_zero_iff.mpr (by simp)]
    simp
  positive := by simp

/-- Next to a call of a VM, the others are of other VMs. -/
theorem Apart.ne_of_mem (h : Apart vms (call ::ₘ rest)) (id : String) (hcall : call.isOf id = true) {other : Call}
    (hother : other ∈ rest) {id' : String} (hid' : other.isOf id' = true) : id' ≠ id := by
  rintro rfl
  have halone := h.alone id'
  simp only [Multiset.countP_cons, hcall, if_true] at halone
  exact Multiset.countP_eq_zero.mp (by omega : rest.countP (·.isOf id') = 0) other hother hid'

theorem Apart.countP_inserts (h : Apart vms (call ::ₘ rest)) (id : String) (hcall : call.isOf id = true) :
    rest.countP (·.inserts id) = 0 :=
  Multiset.countP_eq_zero.mpr fun _ hother hinserts => h.ne_of_mem id hcall hother (Call.isOf_of_inserts hinserts) rfl

theorem Apart.drop (h : Apart vms (call ::ₘ rest)) : Apart vms rest where
  alone id := (Multiset.countP_le_of_le _ (Multiset.le_cons_self rest call)).trans (h.alone id)
  lookedUp id image hmem := h.lookedUp id image (Multiset.mem_cons_of_mem hmem)
  inserted id image hmem := h.inserted id image (Multiset.mem_cons_of_mem hmem)
  readVm id image hmem := h.readVm id image (Multiset.mem_cons_of_mem hmem)
  checked name hmem := by
    obtain ⟨hvms, hcreates⟩ := h.checked name (Multiset.mem_cons_of_mem hmem)
    rw [Multiset.countP_cons] at hcreates
    exact ⟨hvms, (Nat.add_eq_zero_iff.mp hcreates).1⟩

/-- Only the settled VMs of one id can change. -/
theorem settled_add (vms vms' : Table (Option String)) (calls calls' : Multiset Call) (id : String)
    (hvms : ∀ other : String, other ≠ id → vms[other]? = vms'[other]?)
    (hcalls : ∀ other, other ≠ id → calls.countP (·.inserts other) = calls'.countP (·.inserts other)) (name : String) :
    settled vms calls name + vms'.weight (settles calls' name) id =
      settled vms' calls' name + vms.weight (settles calls name) id := by
  refine total_add_weight id fun other hne => ?_
  have hsettles : settles calls name other = settles calls' name other := by
    funext image
    rw [settles, settles, hcalls other hne]
  rw [weight, weight, hvms other hne, hsettles]

theorem settled_cons (hcall : ∀ id, call.inserts id = false) (name : String) :
    settled vms (call ::ₘ rest) name = settled vms rest name := by
  refine congrArg vms.total (funext₂ fun id image => ?_)
  simp only [settles, Multiset.countP_cons, hcall, Bool.false_eq_true, if_false, Nat.add_zero]

/-- A call that neither waits to count its VM nor to uncount it begins. -/
theorem Kept.begin (h : Kept ⟨images, vms, counts, rest⟩) (hinserts : ∀ id, call.inserts id = false)
    (hremoves : ∀ name, call.removes name = false) (hisOf : ∀ id, call.isOf id = true → rest.countP (·.isOf id) = 0)
    (hlookedUp : ∀ id image, call = .lookedUp id image → vms[id]? = none)
    (hreadVm : ∀ id image, call = .readVm id image → vms[id]? = some image)
    (hcreates : ∀ name, .checked name ∈ rest → call.creates name = false)
    (hchecked : ∀ name, call = .checked name → (∀ id : String, vms[id]? ≠ some (some name)) ∧
      rest.countP (·.creates name) = 0) (images' : List String) :
    Kept ⟨images', vms, counts, call ::ₘ rest⟩ where
  counted name := by
    rw [settled_cons hinserts, Multiset.countP_cons, hremoves, h.counted]
    simp
  positive := h.positive
  alone id := by
    have halone := h.alone id
    rw [Multiset.countP_cons]
    split
    · rename_i hid
      rw [hisOf id hid]
    · exact halone
  lookedUp id image hmem := by
    rcases Multiset.mem_cons.mp hmem with heq | hmem
    · exact hlookedUp id image heq.symm
    · exact h.lookedUp id image hmem
  inserted id image hmem := by
    rcases Multiset.mem_cons.mp hmem with rfl | hmem
    · simpa using hinserts id
    · exact h.inserted id image hmem
  readVm id image hmem := by
    rcases Multiset.mem_cons.mp hmem with heq | hmem
    · exact hreadVm id image heq.symm
    · exact h.readVm id image hmem
  checked name hmem := by
    rw [Multiset.countP_cons]
    rcases Multiset.mem_cons.mp hmem with rfl | hmem
    · simpa using hchecked name rfl
    · simpa [hcreates name hmem] using h.checked name hmem

/-- Such a call ends. -/
theorem Kept.drop (h : Kept ⟨images, vms, counts, call ::ₘ rest⟩) (hinserts : ∀ id, call.inserts id = false)
    (hremoves : ∀ name, call.removes name = false) (images' : List String) : Kept ⟨images', vms, counts, rest⟩ where
  toApart := h.toApart.drop
  counted name := by
    have hcounted := h.counted name
    rw [settled_cons hinserts, Multiset.countP_cons, hremoves] at hcounted
    simpa using hcounted
  positive := h.positive

theorem Apart.getElem?_insert_of_mem (h : Apart vms (.lookedUp id image ::ₘ rest)) {other : Call} (hother : other ∈ rest)
    {id' : String} (hid' : other.isOf id' = true) :
    (vms.insert id (some image))[id']? = vms[id']? := by
  have hne := h.ne_of_mem id (by simp) hother hid'
  rw [getElem?_insert, if_neg (by simpa using Ne.symm hne)]

/-- The VM of a creation enters the map. -/
theorem Kept.insert (h : Kept ⟨images, vms, counts, .lookedUp id image ::ₘ rest⟩) :
    Kept ⟨images, vms.insert id (some image), counts, .inserted id image ::ₘ rest⟩ where
  counted name := by
    have hcounted := h.counted name
    have hmoved := settled_add vms (vms.insert id (some image)) (.lookedUp id image ::ₘ rest)
      (.inserted id image ::ₘ rest) id (fun other hne => by simp [getElem?_insert, Ne.symm hne])
      (fun other hne => by simp [Ne.symm hne]) name
    rw [weight_of_getElem?_eq_some getElem?_insert_self,
      weight_of_getElem?_eq_none (h.lookedUp id image (Multiset.mem_cons_self _ _))] at hmoved
    simp [settles] at hmoved hcounted ⊢
    omega
  positive := h.positive
  alone other := by
    have halone := h.alone other
    rwa [Multiset.countP_cons] at halone ⊢
  lookedUp other image' hmem := by
    have hmem := (Multiset.mem_cons.mp hmem).resolve_left nofun
    rw [h.getElem?_insert_of_mem hmem (by simp)]
    exact h.lookedUp other image' (Multiset.mem_cons_of_mem hmem)
  inserted other image' hmem := by
    rcases Multiset.mem_cons.mp hmem with heq | hmem
    · cases heq
      exact getElem?_insert_self
    · rw [h.getElem?_insert_of_mem hmem (by simp)]
      exact h.inserted other image' (Multiset.mem_cons_of_mem hmem)
  readVm other image' hmem := by
    have hmem := (Multiset.mem_cons.mp hmem).resolve_left nofun
    rw [h.getElem?_insert_of_mem hmem (by simp)]
    exact h.readVm other image' (Multiset.mem_cons_of_mem hmem)
  checked name hmem := by
    have hmem := (Multiset.mem_cons.mp hmem).resolve_left nofun
    obtain ⟨hvms, hcreates⟩ := h.checked name (Multiset.mem_cons_of_mem hmem)
    rw [Multiset.countP_cons] at hcreates
    refine ⟨fun other hother => ?_, by rwa [Multiset.countP_cons]⟩
    rcases of_getElem?_insert hother with ⟨-, himage⟩ | ⟨-, hother⟩
    · cases himage
      simp at hcreates
    · exact hvms other hother

theorem getD_countImage (counts : Table ℕ) (image name : String) :
    (countImage counts image)[name]?.getD 0 = counts[name]?.getD 0 + if image = name then 1 else 0 := by
  rw [countImage, getElem?_insert]
  by_cases heq : image = name
  · simp [heq]
  · simp [heq]

/-- A creation counts its VM. -/
theorem Kept.count (h : Kept ⟨images, vms, counts, .inserted id image ::ₘ rest⟩) :
    Kept ⟨images, vms, countImage counts image, rest⟩ where
  toApart := h.toApart.drop
  counted name := by
    have hcounted := h.counted name
    have hvm := h.inserted id image (Multiset.mem_cons_self _ _)
    have hnone := h.countP_inserts id (by simp)
    have hmoved := settled_add vms vms (.inserted id image ::ₘ rest) rest id
      (fun _ _ => rfl) (fun other hne => by simp [Ne.symm hne]) name
    rw [weight_of_getElem?_eq_some hvm, weight_of_getElem?_eq_some hvm] at hmoved
    simp [settles, hnone] at hmoved hcounted
    dsimp only
    rw [getD_countImage]
    omega
  positive name := by
    simp only [countImage, getElem?_insert]
    split
    · simp
    · exact h.positive name

theorem Apart.getElem?_erase_of_mem {image : Option String} (h : Apart vms (.readVm id image ::ₘ rest)) {other : Call}
    (hother : other ∈ rest) {id' : String} (hid' : other.isOf id' = true) : (vms.erase id)[id']? = vms[id']? := by
  have hne := h.ne_of_mem id (by simp) hother hid'
  rw [getElem?_erase, if_neg (by simpa using Ne.symm hne)]

/-- A deletion takes its VM out of the map. -/
theorem Kept.erase {image : Option String} (h : Kept ⟨images, vms, counts, .readVm id image ::ₘ rest⟩) :
    Kept ⟨images, vms.erase id, counts, .removed id image ::ₘ rest⟩ where
  counted name := by
    have hcounted := h.counted name
    have hnone := h.countP_inserts id (by simp)
    have hmoved := settled_add vms (vms.erase id) (.readVm id image ::ₘ rest)
      (.removed id image ::ₘ rest) id (fun other hne => by simp [getElem?_erase, Ne.symm hne])
      (fun other hne => by simp) name
    rw [weight_of_getElem?_eq_some (h.readVm id image (Multiset.mem_cons_self _ _)),
      weight_of_getElem?_eq_none getElem?_erase_self] at hmoved
    simp [settles, hnone, Multiset.countP_cons] at hmoved hcounted ⊢
    omega
  positive := h.positive
  alone other := by
    have halone := h.alone other
    rwa [Multiset.countP_cons] at halone ⊢
  lookedUp other image' hmem := by
    have hmem := (Multiset.mem_cons.mp hmem).resolve_left nofun
    rw [h.getElem?_erase_of_mem hmem (by simp)]
    exact h.lookedUp other image' (Multiset.mem_cons_of_mem hmem)
  inserted other image' hmem := by
    have hmem := (Multiset.mem_cons.mp hmem).resolve_left nofun
    rw [h.getElem?_erase_of_mem hmem (by simp)]
    exact h.inserted other image' (Multiset.mem_cons_of_mem hmem)
  readVm other image' hmem := by
    have hmem := (Multiset.mem_cons.mp hmem).resolve_left nofun
    rw [h.getElem?_erase_of_mem hmem (by simp)]
    exact h.readVm other image' (Multiset.mem_cons_of_mem hmem)
  checked name hmem := by
    have hmem := (Multiset.mem_cons.mp hmem).resolve_left nofun
    obtain ⟨hvms, hcreates⟩ := h.checked name (Multiset.mem_cons_of_mem hmem)
    rw [Multiset.countP_cons] at hcreates
    exact ⟨fun other hother => hvms other (of_getElem?_erase hother).2, by rwa [Multiset.countP_cons]⟩

theorem getD_uncountImage (counts : Table ℕ) (image name : String) :
    (uncountImage counts image)[name]?.getD 0 = counts[name]?.getD 0 - if image = name then 1 else 0 := by
  by_cases heq : image = name
  · subst heq
    rw [if_pos rfl, uncountImage]
    cases hcount : counts[image]? with
    | none => simp [hcount]
    | some count =>
      dsimp only
      split
      · rw [getElem?_erase_self, Option.getD_none, Option.getD_some]
        omega
      · rw [getElem?_insert_self, Option.getD_some, Option.getD_some]
  · rw [if_neg heq, Nat.sub_zero, uncountImage]
    split
    · rfl
    · split
      · rw [getElem?_erase, if_neg (by simpa using heq)]
      · rw [getElem?_insert, if_neg (by simpa using heq)]

theorem uncountImage_ne_zero (h : ∀ name : String, counts[name]? ≠ some 0) (image : String) (name : String) :
    (uncountImage counts image)[name]? ≠ some 0 := by
  unfold uncountImage
  split
  · exact h name
  · intro hzero
    split at hzero
    · exact h name (of_getElem?_erase hzero).2
    · rcases of_getElem?_insert hzero with ⟨-, heq⟩ | ⟨-, heq⟩
      · exact absurd heq.symm ‹_›
      · exact h name heq

/-- A deletion uncounts its VM. -/
theorem Kept.uncount {image : Option String} (h : Kept ⟨images, vms, counts, .removed id image ::ₘ rest⟩) :
    Kept ⟨images, vms, image.elim counts (uncountImage counts), rest⟩ where
  toApart := h.toApart.drop
  counted name := by
    have hcounted := h.counted name
    rw [settled_cons (by simp), Multiset.countP_cons] at hcounted
    cases image with
    | none => simpa using hcounted
    | some image =>
      rw [Option.elim_some, getD_uncountImage, hcounted]
      simp
      split <;> omega
  positive name := by
    cases image with
    | none => exact h.positive name
    | some image => exact uncountImage_ne_zero h.positive image name

/-- Calls for one VM do not overlap, the creations from an image and its deletion do not, and no VM survives a
restart. -/
def Orderly (s : Manager) : Act → Prop
  | .createVm id image _ => s.calls.countP (·.isOf id) = 0 ∧ .checked image ∉ s.calls
  | .deleteVm id => s.calls.countP (·.isOf id) = 0
  | .deleteImage name => s.calls.countP (·.creates name) = 0
  | .advance _ | .fail _ => True
  | .restart recovered => recovered = ∅

/-- No VM uses an image, and none that is being created will. -/
def Unused (s : Manager) (name : String) : Prop :=
  (∀ id : String, s.vms[id]? ≠ some (some name)) ∧ s.calls.countP (·.creates name) = 0

/-- With count 0, the VMs of an image are those whose creation is still in progress. -/
theorem Kept.unused {s : Manager} (h : s.Kept) (hcount : s.imageRefcounts[name]?.getD 0 = 0)
    (hcreates : s.calls.countP (·.creates name) = 0) : s.Unused name := by
  refine ⟨fun id hid => ?_, hcreates⟩
  have hcounted := h.counted name
  rw [hcount] at hcounted
  have hsettles := total_eq_zero_iff.mp (by omega : settled s.vms s.calls name = 0) id (some name) hid
  have hinserts : s.calls.countP (·.inserts id) ≠ 0 := by
    intro hnone
    simp [settles, hnone] at hsettles
  obtain ⟨call, hcall, hid'⟩ := Multiset.countP_pos.mp (Nat.pos_of_ne_zero hinserts)
  cases call with
  | inserted id' image =>
      obtain rfl : id' = id := by simpa using hid'
      have himage : image = name := by simpa [h.inserted id' image hcall] using hid
      exact Multiset.countP_eq_zero.mp hcreates _ hcall (by simpa using himage)
  | lookedUp | readVm | removed | checked => simp at hid'

theorem Kept.advance {s : Manager} (h : s.Kept) {call : Call} (hcall : call ∈ s.calls) : (s.advance call).Kept := by
  obtain ⟨images, vms, counts, calls⟩ := s
  obtain ⟨rest, rfl⟩ := Multiset.exists_cons_of_mem hcall
  unfold Manager.advance
  simp only [Multiset.erase_cons_head]
  cases call with
  | lookedUp id image => exact h.insert
  | inserted id image => exact h.count
  | readVm id image => exact h.erase
  | removed id image => exact h.uncount
  | checked name => exact h.drop (by simp) (by simp) _

theorem Kept.fail {s : Manager} (h : s.Kept) {call : Call} (hinserts : ∀ id, call.inserts id = false)
    (hremoves : ∀ name, call.removes name = false) : Kept { s with calls := s.calls.erase call } := by
  obtain ⟨images, vms, counts, calls⟩ := s
  by_cases hcall : call ∈ calls
  · obtain ⟨rest, rfl⟩ := Multiset.exists_cons_of_mem hcall
    simp only [Multiset.erase_cons_head]
    exact h.drop hinserts hremoves _
  · simp only [Multiset.erase_of_notMem hcall]
    exact h

/-- **Step.** -/
theorem Kept.step {s : Manager} (h : s.Kept) {act : Act} (horderly : s.Orderly act) : (Manager.step act s).2.Kept := by
  unfold Manager.step
  cases act with
  | createVm id image pulls =>
      dsimp only
      split
      · exact h
      · rename_i hnew
        have hnone : s.vms[id]? = none := getElem?_eq_none fun hmem => hnew (.inl hmem)
        refine h.begin (by simp) (by simp) ?_ ?_ (by simp) ?_ (by simp) _
        · intro vm hvm
          obtain rfl : id = vm := by simpa using hvm
          exact horderly.1
        · intro vm image' heq
          cases heq
          exact hnone
        · intro name hchecked
          have hne : image ≠ name := fun heq => horderly.2 (heq ▸ hchecked)
          simpa using hne
  | deleteVm id =>
      dsimp only
      split
      · exact h
      · rename_i image hvm
        refine h.begin (by simp) (by simp) ?_ (by simp) ?_ (by simp) (by simp) _
        · intro vm hid
          obtain rfl : id = vm := by simpa using hid
          exact horderly
        · intro vm image' heq
          cases heq
          exact hvm
  | deleteImage name =>
      dsimp only
      split
      · rename_i hcount
        refine h.begin (by simp) (by simp) (by simp) (by simp) (by simp) (by simp) ?_ _
        intro name' heq
        cases heq
        exact h.unused hcount.2 horderly
      · exact h
  | advance call =>
      dsimp only
      split
      · exact h.advance ‹_›
      · exact h
  | fail call =>
      cases call with
      | lookedUp | readVm | checked => exact h.fail (by simp) (by simp)
      | inserted | removed => exact h
  | restart recovered =>
      obtain rfl : recovered = ∅ := horderly
      exact kept_empty s.images

/-- With no call in progress the counts are the numbers of VMs. -/
theorem Kept.getElem?_eq {s : Manager} (h : s.Kept) (hidle : s.calls = 0) (name : String) :
    s.imageRefcounts[name]? = if s.users name = 0 then none else some (s.users name) := by
  have hcounted := h.counted name
  have hsettled : settled s.vms s.calls name = s.users name := by
    rw [hidle]
    refine congrArg s.vms.total (funext₂ fun id image => ?_)
    simp [settles]
  rw [hsettled, hidle, Multiset.countP_zero, Nat.add_zero] at hcounted
  cases hcount : s.imageRefcounts[name]? with
  | none =>
      rw [hcount, Option.getD_none] at hcounted
      rw [if_pos hcounted.symm]
  | some count =>
      rw [hcount, Option.getD_some] at hcounted
      have hpositive : count ≠ 0 := fun hzero => h.positive name (hcount.trans (congrArg some hzero))
      rw [← hcounted, if_neg hpositive]

/-- **Images in use.** In every run of orderly acts, whenever no call is in progress the counts are the numbers of
VMs of each image, absent for 0, and an image is deleted only when no VM in the map and no creation in progress uses
it. -/
theorem images_in_use_kept (images : List String) (acts : List Act)
    (horderly : ∀ e ∈ trace step acts (start images), e.before.Orderly e.action) :
    ∀ e ∈ trace step acts (start images),
      (e.after.calls = 0 → ∀ name, e.after.imageRefcounts[name]? =
        if e.after.users name = 0 then none else some (e.after.users name)) ∧
      ∀ name, e.action = .advance (.checked name) → .checked name ∈ e.before.calls → e.before.Unused name := by
  refine forall_trace (I := Kept) (kept_empty images) (fun s act h horderly => ?_) horderly
  exact ⟨h.step horderly, fun hidle name => (h.step horderly).getElem?_eq hidle name, fun name _ => h.checked name⟩

/-- A creation from an image, with all its steps. -/
def creation (id image : String) : List Act :=
  [.createVm id image false, .advance (.lookedUp id image), .advance (.inserted id image)]

theorem images_in_use_kept_creation :
    (∀ e ∈ trace step (creation "vm-1" "ubuntu") (start ["ubuntu"]), e.before.Orderly e.action) ∧
    ∀ e ∈ trace step (creation "vm-1" "ubuntu") (start ["ubuntu"]),
      (e.after.calls = 0 → ∀ name, e.after.imageRefcounts[name]? =
        if e.after.users name = 0 then none else some (e.after.users name)) ∧
      ∀ name, e.action = .advance (.checked name) → .checked name ∈ e.before.calls → e.before.Unused name := by
  have horderly : ∀ e ∈ trace step (creation "vm-1" "ubuntu") (start ["ubuntu"]), e.before.Orderly e.action := by
    refine List.forall_mem_cons.mpr ⟨⟨rfl, Multiset.notMem_zero _⟩, ?_⟩
    exact List.forall_mem_cons.mpr ⟨trivial, List.forall_mem_singleton.mpr trivial⟩
  exact ⟨horderly, images_in_use_kept ["ubuntu"] _ horderly⟩

/-- **An image is lost**: a VM that survived a restart is not counted, and a creation in progress is not yet counted;
either way the image is deleted. -/
theorem image_of_survivor_deleted :
    let survived := reached step (creation "vm-1" "ubuntu" ++ [.restart {("vm-1", some "ubuntu")}]) (start ["ubuntu"])
    let deletion : List Act := [.deleteImage "ubuntu", .advance (.checked "ubuntu")]
    survived.calls = 0 ∧ survived.imageRefcounts["ubuntu"]? = none ∧ survived.vms["vm-1"]? = some (some "ubuntu") ∧
      (reached step deletion survived).images = [] ∧
      let created := reached step (.createVm "vm-1" "ubuntu" false :: deletion ++
        [.advance (.lookedUp "vm-1" "ubuntu"), .advance (.inserted "vm-1" "ubuntu")]) (start ["ubuntu"])
      created.images = [] ∧ created.vms["vm-1"]? = some (some "ubuntu") := by
  decide +kernel

end Manager

end ImageRefs

end Compute

end Syfrah
