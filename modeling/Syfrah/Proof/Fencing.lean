import Syfrah.Proof.References

/-!
# Fencing by placement generations

While the record of a volume exists its generation never goes back, and whenever the volume gets a new
assignment it goes up. A writer with an old generation is therefore never heard again.
-/

namespace Syfrah

namespace StorageState

variable {s s' : StorageState} {id : VolumeId} {vol vol' : VolumeRecord}

theorem fenced_of_volumes_eq (h : s'.volumes[id]? = s.volumes[id]?)
    (hget : s.volumes[id]? = some vol) (hget' : s'.volumes[id]? = some vol') : vol.Fenced vol' := by
  obtain rfl : vol = vol' := Option.some.inj (hget.symm.trans (h.symm.trans hget'))
  exact ⟨le_rfl, fun _ hnew => absurd rfl hnew⟩

theorem fenced_setVolume {id₀ : VolumeId} {vol₀ vol₀' : VolumeRecord}
    (hvolumes : s'.volumes = s.volumes.insert id₀ vol₀') (hold : s.volumes[id₀]? = some vol₀)
    (hfenced : vol₀.Fenced vol₀') (hget : s.volumes[id]? = some vol)
    (hget' : s'.volumes[id]? = some vol') : vol.Fenced vol' := by
  by_cases hid : id₀ = id
  · subst hid
    obtain rfl : vol₀ = vol := Option.some.inj (hold.symm.trans hget)
    rw [hvolumes, Std.ExtTreeMap.getElem?_insert_self] at hget'
    exact Option.some.inj hget' ▸ hfenced
  · refine fenced_of_volumes_eq ?_ hget hget'
    rw [hvolumes, Std.ExtTreeMap.getElem?_insert]
    simp [hid]

theorem fenced_insert_fresh {id₀ : VolumeId} {vol₀ : VolumeRecord}
    (hvolumes : s'.volumes = s.volumes.insert id₀ vol₀) (hfresh : s.volumes[id₀]? = none)
    (hget : s.volumes[id]? = some vol) (hget' : s'.volumes[id]? = some vol') : vol.Fenced vol' := by
  have hid : id₀ ≠ id := by
    rintro rfl
    rw [hfresh] at hget
    cases hget
  refine fenced_of_volumes_eq ?_ hget hget'
  rw [hvolumes, Std.ExtTreeMap.getElem?_insert]
  simp [hid]

/-- **A command fences the records it keeps.** -/
theorem fenced_step {c : Command} {response : StateMachineResponse}
    (hstep : StorageStep c s response s') (hget : s.volumes[id]? = some vol)
    (hget' : s'.volumes[id]? = some vol') : vol.Fenced vol' := by
  cases hstep with
  | rejected => exact fenced_of_volumes_eq rfl hget hget'
  | unrelated hc => exact fenced_of_volumes_eq rfl hget hget'
  | setting hc hdata => exact fenced_of_volumes_eq (by rw [hdata.1]) hget hget'
  | created hfresh hstate => exact fenced_insert_fresh rfl hfresh hget hget'
  | rewritten hc hold hlive hlive' hfenced => exact fenced_setVolume rfl hold hfenced hget hget'
  | detached hold hstate hstate' hgeneration =>
      exact fenced_setVolume rfl hold (fenced_of_not_attached hgeneration (by simp [hstate'])) hget
        hget'
  | @deleted _ id₀ cascading deletedAt vol₀ ids hold hlive hids hnone =>
      have hkept : (if cascading then s.cascade ids else s).volumes = s.volumes := by
        cases cascading with
        | true => exact (unreferences_cascade hids).choose_spec.marks.volumes
        | false => rfl
      have hfenced : vol₀.Fenced (tombstone vol₀ deletedAt) :=
        fenced_of_not_attached rfl (by simp [tombstone])
      refine fenced_setVolume ?_ hold hfenced hget hget'
      rw [← hkept]
      rfl
  | purged order =>
      rcases (purgeTombstones_spec s order _ _).2 id with heq | ⟨hnone, -⟩
      · exact fenced_of_volumes_eq heq hget hget'
      · rw [hnone] at hget'
        cases hget'
  | moved order =>
      rcases (moves_rescheduleVm s order _ _ _).volumes id with
        heq | ⟨vol₀, vol₀', hget₀, hget₀', hfenced, -⟩
      · exact fenced_of_volumes_eq heq hget hget'
      · obtain rfl : vol₀ = vol := Option.some.inj (hget₀.symm.trans hget)
        obtain rfl : vol₀' = vol' := Option.some.inj (hget₀'.symm.trans hget')
        exact hfenced
  | snapshotCreated hfresh hstate hfiles hwal => exact fenced_of_volumes_eq rfl hget hget'
  | snapshotDeleted hsnap hlive hs' =>
      have hkept := (unreferences_snapshot releases_decrementSst sameRecords_decrementSst hsnap
        hlive).marks.volumes
      rw [← hs'] at hkept
      exact fenced_of_volumes_eq (by rw [hkept]) hget hget'
  | committed hold hstate hgeneration hpublisher hversion hpointer =>
      exact fenced_of_volumes_eq rfl hget hget'
  | restored hsnap hlive hfresh hstate hgeneration hversion =>
      exact fenced_insert_fresh rfl hfresh hget hget'
  | sstsCollected => exact fenced_of_volumes_eq rfl hget hget'
  | walCollected =>
      refine fenced_of_volumes_eq ?_ hget hget'
      unfold gcCompleteWalSegments
      split <;> rfl

theorem isError_of_generation_ne {generation manifestVersion : ℕ} {s3Key : String}
    {publishedBy : HypervisorId} {response : StateMachineResponse}
    (hstep : StorageStep (.commitManifest id generation manifestVersion s3Key publishedBy) s response
      s') (hget : s.volumes[id]? = some vol) (hne : generation ≠ vol.placementGeneration) :
    response.isError = true := by
  cases hstep with
  | rejected => rfl
  | unrelated hc => cases hc
  | setting hc => cases hc
  | rewritten hc => cases hc
  | committed hold hstate hgeneration hpublisher hversion hpointer =>
      obtain rfl := Option.some.inj (hold.symm.trans hget)
      exact absurd hgeneration hne

end StorageState

def Replica.volume (r : Replica) (id : VolumeId) : Option VolumeRecord := r.sm.storage.volumes[id]?

theorem generation_le_of_run {id : VolumeId} {r t : Replica} {es : List Step} {vol : VolumeRecord}
    (hrun : Run applySingle r es t) (hkept : ∀ e ∈ es, (e.after.volume id).isSome = true)
    (hvol : r.volume id = some vol) :
    ∃ vol', t.volume id = some vol' ∧ vol.placementGeneration ≤ vol'.placementGeneration := by
  refine hrun.invariant (I := fun _ t => ∃ vol', t.volume id = some vol' ∧
    vol.placementGeneration ≤ vol'.placementGeneration) ⟨vol, hvol, le_rfl⟩ ?_ (.of_forall hkept)
  rintro es t c ⟨vol₁, hvol₁, hle⟩ hsome
  obtain ⟨vol₂, hvol₂⟩ := Option.isSome_iff_exists.mp hsome
  have hfenced := StorageState.fenced_step (storageStep_applySingle c t) hvol₁ hvol₂
  exact ⟨vol₂, hvol₂, hle.trans hfenced.le⟩

/-- **Single writer.** When a command makes a volume attached or changes the assignment of an attached
one, its generation gets larger than in every state before, since the record exists; and from then
on, while the record exists, a commit with one of the old generations is refused. -/
theorem new_assignment_fences {id : VolumeId} {r t u : Replica} {es fs : List Step} {c : Command}
    {vol vol' : VolumeRecord} (hbefore : Run applySingle r es t)
    (hkept : ∀ e ∈ es, (e.after.volume id).isSome = true) (hvol : r.volume id = some vol)
    (hvol' : (applySingle c t).2.volume id = some vol') (hattached : vol'.assignment ≠ none)
    (hnew : ∀ old, t.volume id = some old → vol'.assignment ≠ old.assignment)
    (hafter : Run applySingle (applySingle c t).2 fs u)
    (hkept' : ∀ e ∈ fs, (e.after.volume id).isSome = true) :
    vol.placementGeneration < vol'.placementGeneration ∧
      ∀ manifestVersion s3Key publishedBy,
        (applySingle (.commitManifest id vol.placementGeneration manifestVersion s3Key publishedBy)
          u).1.isError = true := by
  obtain ⟨old, hold, hle⟩ := generation_le_of_run hbefore hkept hvol
  have hfenced := StorageState.fenced_step (storageStep_applySingle c t) hold hvol'
  have hlt : vol.placementGeneration < vol'.placementGeneration :=
    hle.trans_lt (hfenced.lt hattached (hnew old hold))
  obtain ⟨last, hlast, hle'⟩ := generation_le_of_run hafter hkept' hvol'
  refine ⟨hlt, fun manifestVersion s3Key publishedBy => ?_⟩
  exact StorageState.isError_of_generation_ne (storageStep_applySingle _ u) hlast
    (hlt.trans_le hle').ne

def attachedVolume (vmId : VmId) (hypervisorId : HypervisorId) (generation : ℕ) : VolumeRecord :=
  { id := "vol", name := "disk", sizeGb := 10, orgId := "org", projectId := "proj", envId := "env"
    volumeType := .data, state := .attached, attachedVmId := some vmId
    attachedHypervisorId := some hypervisorId, placementGeneration := generation, zone := none
    deletionProtection := false, deletedAt := none, migrationSourceZone := none
    migrationTargetZone := none, preMigrationHypervisor := none, preMigrationVmId := none }

/-- The replica after the first attachment of that volume. -/
def firstAttachment : Replica :=
  (applyLog [.single (.createVolume "vol" "disk" 10 "org" "proj" "env" .data none none),
    .single (.volumeAttach "vol" "vm-1" "hv-1")] .fresh).2

def detached : Replica := (applySingle (.volumeDetach "vol") firstAttachment).2

theorem second_attachment_fences :
    firstAttachment.volume "vol" = some (attachedVolume "vm-1" "hv-1" 1) ∧
    (applySingle (.volumeAttach "vol" "vm-2" "hv-2") detached).2.volume "vol" =
      some (attachedVolume "vm-2" "hv-2" 2) ∧
    (applySingle (.commitManifest "vol" 1 1 "key" "hv-1")
      (applySingle (.volumeAttach "vol" "vm-2" "hv-2") detached).2).1.isError = true := by
  have hfirst : firstAttachment.volume "vol" = some (attachedVolume "vm-1" "hv-1" 1) := by decide
  have hsecond : (applySingle (.volumeAttach "vol" "vm-2" "hv-2") detached).2.volume "vol" =
      some (attachedVolume "vm-2" "hv-2" 2) := by decide
  have hrun : Run applySingle firstAttachment
      [Exec.of applySingle (.volumeDetach "vol") firstAttachment] detached := Run.single _ _
  have hkept : ∀ e ∈ [Exec.of applySingle (.volumeDetach "vol") firstAttachment],
      (e.after.volume "vol").isSome = true := by decide
  have hunassigned : ∀ old, detached.volume "vol" = some old →
      (attachedVolume "vm-2" "hv-2" 2).assignment ≠ old.assignment := by
    intro old hold heq
    have hnone : (detached.volume "vol").bind VolumeRecord.assignment = none := by decide
    rw [hold, Option.bind_some, ← heq] at hnone
    cases hnone
  have hlast : Run applySingle (applySingle (.volumeAttach "vol" "vm-2" "hv-2") detached).2 []
      (applySingle (.volumeAttach "vol" "vm-2" "hv-2") detached).2 := .nil _
  have hrefused := (new_assignment_fences hrun hkept hfirst hsecond (by decide) hunassigned hlast
    (fun _ he => absurd he List.not_mem_nil)).2 1 "key" "hv-1"
  rw [show (attachedVolume "vm-1" "hv-1" 1).placementGeneration = 1 from rfl] at hrefused
  exact ⟨hfirst, hsecond, hrefused⟩

end Syfrah
