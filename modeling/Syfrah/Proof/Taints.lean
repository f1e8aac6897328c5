import Syfrah.ControlPlane.Scheduler
import Syfrah.Proof.Hypervisors

/-!
# Taints from the operator to the scheduler

A taint is stored in parts and written out again for the scheduler. The text comes back as it was given
when it ends in one of the two effects, and otherwise with an effect added or replaced. Each command
replaces the taints of the one before it, and only a text with the word `NoSchedule` keeps VMs away.
-/

namespace Syfrah

namespace Scheduler.HypervisorCandidate

open Handle

/-- The effect that is stored for the text after the last colon. -/
def parseEffect (text : String) : TaintEffect := if text = "NoExecute" then .noExecute else .noSchedule

theorem parseEffect_effectText (e : TaintEffect) : parseEffect (effectText e) = e := by
  cases e <;> decide

theorem taintText_of_splitOnce (kv : String) (e : TaintEffect) :
    taintText (match Text.splitOnce '=' kv with
      | some (k, v) => ⟨k, some v, e⟩
      | none => ⟨kv, none, e⟩) = kv ++ (":" ++ effectText e) := by
  cases hsplit : Text.splitOnce '=' kv with
  | none => exact String.append_assoc ..
  | some parts =>
      rw [← String.toList_inj, String.toList_append, Text.toList_of_splitOnce hsplit]
      simp [taintText, toString]

/-- **What is written out** for a text: its own effect, or `NoSchedule`. -/
theorem taintText_parseTaint (t : String) : taintText (parseTaint t) =
    ((Text.rsplitOnce ':' t).getD (t, "NoSchedule")).1 ++
      (":" ++ effectText (parseEffect ((Text.rsplitOnce ':' t).getD (t, "NoSchedule")).2)) :=
  taintText_of_splitOnce _ _

def HasEffect (t : String) : Prop := ∃ kv e, t = kv ++ (":" ++ effectText e)

theorem hasEffect_taintText (t : String) : HasEffect (taintText (parseTaint t)) :=
  ⟨_, _, taintText_parseTaint t⟩

theorem taintText_of_hasEffect {t : String} (h : HasEffect t) : taintText (parseTaint t) = t := by
  obtain ⟨kv, e, rfl⟩ := h
  have hsplit : Text.rsplitOnce ':' (kv ++ (":" ++ effectText e)) = some (kv, effectText e) :=
    Text.rsplitOnce_of_toList (by simp) (by cases e <;> decide)
  rw [taintText_parseTaint, hsplit, Option.getD_some, parseEffect_effectText]

/-- A set of texts that has those of the last command comes back when it has no others and each of them
ends in an effect. -/
theorem taints_iff {last wanted : List String} (hlast : last ⊆ wanted) :
    (∀ t, t ∈ last.map (fun t => taintText (parseTaint t)) ↔ t ∈ wanted) ↔
      ∀ t ∈ wanted, t ∈ last ∧ HasEffect t := by
  constructor
  · intro h t ht
    have heffect : ∀ t ∈ wanted, HasEffect t := by
      intro t ht
      obtain ⟨given, -, rfl⟩ := List.mem_map.mp ((h t).mpr ht)
      exact hasEffect_taintText given
    obtain ⟨given, hgiven, rfl⟩ := List.mem_map.mp ((h t).mpr ht)
    rw [taintText_of_hasEffect (heffect given (hlast hgiven))]
    exact ⟨hgiven, heffect given (hlast hgiven)⟩
  · intro h t
    rw [List.mem_map]
    constructor
    · rintro ⟨given, hgiven, rfl⟩
      rw [taintText_of_hasEffect (h given (hlast hgiven)).2]
      exact hlast hgiven
    · intro ht
      exact ⟨t, (h t ht).1, taintText_of_hasEffect (h t ht).2⟩

end Scheduler.HypervisorCandidate

/-! ### Commands -/

namespace Replica

/-- A hypervisor is stored under its identifier, and its name leads there. -/
def Stores (r : Replica) (hv : Hypervisor) : Prop :=
  ∃ db, r.sm.hypervisorStore = some db ∧ db.get .nameIndex hv.name = some hv.id ∧
    db.get .hypervisors hv.id = some hv

variable {r : Replica} {hv : Hypervisor}

theorem Stores.updateTaints (h : r.Stores hv) (taints : List String) :
    Stores (applySingle (.updateHypervisorTaints hv.name taints) r).2
      { hv with taints := taints.map Handle.parseTaint } := by
  obtain ⟨db, hdb, hindex, hget⟩ := h
  change Tx.Ensures (Handle.updateHypervisorTaints hv.name taints) r fun _ r' =>
    r'.Stores { hv with taints := taints.map Handle.parseTaint }
  have hlookup : HypervisorStore.get db hv.name = some hv := by rw [HypervisorStore.get, hindex, ← hget]
  refine ensures_lookup hdb ?_
  rw [hlookup]
  refine ensures_hypervisor hdb ⟨_, rfl, ?_⟩
  rw [HypervisorStore.update_run (by rw [hget]; rfl)]
  refine ⟨?_, ?_⟩
  · exact (LayerDb.get_set ..).trans (if_pos rfl)
  · exact (HypervisorStore.get_put _).trans (if_pos rfl)

theorem Stores.updates (h : r.Stores hv) (commands : List (List String)) (last : List String) :
    Stores (reached (fun taints => applySingle (.updateHypervisorTaints hv.name taints))
        (commands ++ [last]) r)
      { hv with taints := last.map Handle.parseTaint } := by
  induction commands generalizing r hv with
  | nil => exact h.updateTaints last
  | cons taints commands ih => exact @ih _ { hv with taints := taints.map Handle.parseTaint } (h.updateTaints taints)

end Replica

namespace Scheduler.HypervisorCandidate

theorem tolerated_iff {c : HypervisorCandidate} {tolerations : List String} :
    c.tolerated tolerations = true ↔ ∀ t ∈ c.taints, Text.contains t "NoSchedule" = true → t ∈ tolerations := by
  simp [tolerated, imp_iff_not_or]

/-- Once the texts are right, they keep VMs away if all of them have the word the filter looks for. -/
theorem tolerated_subset_iff {c : HypervisorCandidate} {wanted : List String} (h : ∀ t, t ∈ c.taints ↔ t ∈ wanted) :
    (∀ tolerations, c.tolerated tolerations = true ↔ wanted ⊆ tolerations) ↔
      ∀ t ∈ wanted, Text.contains t "NoSchedule" = true := by
  constructor
  · intro htolerated t ht
    by_contra hword
    have hpass : c.tolerated (wanted.filter (· != t)) = true := by
      refine tolerated_iff.mpr fun u hu hcontains => List.mem_filter.mpr ⟨(h u).mp hu, ?_⟩
      rw [bne_iff_ne]
      rintro rfl
      exact hword hcontains
    have hmem := (htolerated _).mp hpass ht
    simp at hmem
  · intro hword tolerations
    rw [tolerated_iff]
    exact ⟨fun hall t ht => hall t ((h t).mpr ht) (hword t ht), fun hsub t ht _ => hsub ((h t).mp ht)⟩

end Scheduler.HypervisorCandidate

open Scheduler HypervisorCandidate in
/-- **Taints survive storage** and work just when the last command names all that are wanted, each text
ends in an effect, and each has the word `NoSchedule`. What is wanted includes the last command. -/
theorem taints_survive_iff (r : Replica) (hv : Hypervisor) (h : r.Stores hv) (commands : List (List String))
    (last wanted : List String) (hlast : last ⊆ wanted) :
    ∃ hv', Replica.Stores (reached (fun taints => applySingle (.updateHypervisorTaints hv.name taints))
        (commands ++ [last]) r) hv' ∧ hv'.id = hv.id ∧
      (((∀ t, t ∈ (fromHypervisor hv').taints ↔ t ∈ wanted) ∧
          ∀ tolerations, (fromHypervisor hv').tolerated tolerations = true ↔ wanted ⊆ tolerations) ↔
        ∀ t ∈ wanted, t ∈ last ∧ HasEffect t ∧ Text.contains t "NoSchedule" = true) := by
  refine ⟨_, h.updates commands last, rfl, ?_⟩
  set candidate := fromHypervisor { hv with taints := last.map Handle.parseTaint }
  have htaints : candidate.taints = last.map fun t => taintText (Handle.parseTaint t) := List.map_map
  have hiff := taints_iff hlast
  rw [← htaints] at hiff
  constructor
  · rintro ⟨hsame, htolerated⟩ t ht
    obtain ⟨hmem, heffect⟩ := hiff.mp hsame t ht
    exact ⟨hmem, heffect, (tolerated_subset_iff hsame).mp htolerated t ht⟩
  · intro hall
    have hsame := hiff.mpr fun t ht => ⟨(hall t ht).1, (hall t ht).2.1⟩
    exact ⟨hsame, (tolerated_subset_iff hsame).mpr fun t ht => (hall t ht).2.2⟩

def gpuNode : Hypervisor :=
  ⟨"hv-1", "gpu-node", "eu", "par-1", .available, "n1", "", "fd00::1", {}, ∅, [], 0⟩

def gpuReplica : Replica :=
  { Replica.fresh with
    sm.hypervisorStore := some ((LayerDb.empty.set .hypervisors gpuNode.id gpuNode).set .nameIndex gpuNode.name gpuNode.id) }

theorem stores_gpuNode : gpuReplica.Stores gpuNode :=
  ⟨_, rfl, by decide, by decide⟩

theorem taints_survive_scheduled :
    ∃ hv', Replica.Stores (reached (fun taints => applySingle (.updateHypervisorTaints gpuNode.name taints))
        ([] ++ [["gpu=true:NoSchedule"]]) gpuReplica) hv' ∧ hv'.id = gpuNode.id ∧
      (Scheduler.HypervisorCandidate.fromHypervisor hv').tolerated [] = false := by
  obtain ⟨hv', hstores, hid, hiff⟩ := taints_survive_iff gpuReplica gpuNode stores_gpuNode []
    ["gpu=true:NoSchedule"] ["gpu=true:NoSchedule"] (List.Subset.refl _)
  refine ⟨hv', hstores, hid, ?_⟩
  have hcond := hiff.mpr fun t ht => by
    cases List.mem_singleton.mp ht
    exact ⟨ht, ⟨"gpu=true", .noSchedule, by decide⟩, by decide⟩
  rw [Bool.eq_false_iff]
  exact fun htolerated => by simpa using (hcond.2 []).mp htolerated

def taintsAfter (commands : List (List String)) : Option Scheduler.HypervisorCandidate :=
  ((reached (fun taints => applySingle (.updateHypervisorTaints "gpu-node" taints)) commands gpuReplica).hypervisor?
    "hv-1").map .fromHypervisor

/-- **Three ways to lose a taint**: without an effect the text changes, a second command drops the first
one's, and one that evicts keeps nobody away. -/
theorem taints_lost :
    (taintsAfter [["gpu=true"]]).map (·.tolerated ["gpu=true"]) = some false ∧
      (taintsAfter [["gpu=true:NoSchedule"], ["dedicated=db:NoSchedule"]]).map (·.taints) =
        some ["dedicated=db:NoSchedule"] ∧
      (taintsAfter [["maintenance:NoExecute"]]).map (·.tolerated []) = some true := by
  decide +kernel

end Syfrah
