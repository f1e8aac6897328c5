import Syfrah.Proof.Fencing

/-!
# Manifest pointers

A pointer records the last manifest version of a volume. It is dropped when the volume is detached but
not when it is deleted, so a volume that is deleted with its pointer leaves it behind, and a later
volume with the same identifier inherits it. As long as that does not happen, the pointers belong to
volumes that are not deleted and the versions are consecutive.
-/

namespace Syfrah

/-- The versions committed for a volume since its history last started over, and the version that
history starts with. -/
structure Commits where
  first : ℕ
  versions : List ℕ
  deriving DecidableEq

/-- The commits of each volume, after one more command. -/
def recordCommit (commits : VolumeId → Commits) (c : Command) (response : StateMachineResponse) :
    VolumeId → Commits :=
  if response.isError then commits
  else
    match c with
    | .createVolume id .. | .volumeDetach id => Function.update commits id ⟨1, []⟩
    | .restoreSnapshot _ id _ => Function.update commits id ⟨2, []⟩
    | .commitManifest id _ manifestVersion _ _ =>
        Function.update commits id ⟨(commits id).first, (commits id).versions ++ [manifestVersion]⟩
    | _ => commits

/-- The commits of each volume, after some commands. -/
def commits (es : List Step) : VolumeId → Commits :=
  es.foldl (fun commits e => recordCommit commits e.action e.reply) fun _ => ⟨1, []⟩

theorem commits_snoc (es : List Step) (e : Step) :
    commits (es ++ [e]) = recordCommit (commits es) e.action e.reply := by
  simp [commits]

def Command.affectsVersions : Command → Bool
  | createVolume .. | volumeDetach .. | restoreSnapshot .. | commitManifest .. => true
  | _ => false

theorem recordCommit_of_not_affects (commits : VolumeId → Commits) {c : Command}
    (h : c.affectsVersions = false) (response : StateMachineResponse) :
    recordCommit commits c response = commits := by
  unfold recordCommit
  split
  · rfl
  · cases c <;> first | rfl | cases h

namespace StorageState

def lastVersion (s : StorageState) (id : VolumeId) : ℕ :=
  (s.manifestPointers[id]?.map (·.manifestVersion)).getD 0

/-- Every pointer belongs to a volume that is not deleted, and its generation is not ahead. -/
def PointersOfLive (s : StorageState) : Prop :=
  ∀ (id : VolumeId) pointer, s.manifestPointers[id]? = some pointer →
    ∃ vol, s.volumes[id]? = some vol ∧ vol.state ≠ .deleted ∧
      pointer.generation ≤ vol.placementGeneration

structure InStep (commits : VolumeId → Commits) (s : StorageState) : Prop where
  pointed : s.PointersOfLive
  next : ∀ (id : VolumeId) vol, s.volumes[id]? = some vol →
    s.lastVersion id + 1 = (commits id).first + (commits id).versions.length
  consecutive : ∀ id, (commits id).versions =
    List.range' (commits id).first (commits id).versions.length

/-- Whether a command deletes a volume that has a manifest pointer. -/
def strandsPointer (s : StorageState) : Command → Bool
  | .deleteVolume id .. => s.manifestPointers.contains id
  | _ => false

variable {s s' : StorageState} {commits : VolumeId → Commits} {id : VolumeId} {vol' : VolumeRecord}

theorem InStep.pointer_eq_none (h : InStep commits s) (hfresh : s.volumes[id]? = none) :
    s.manifestPointers[id]? = none := by
  rw [Option.eq_none_iff_forall_ne_some]
  intro pointer hpointer
  obtain ⟨vol, hvol, -⟩ := h.pointed id pointer hpointer
  rw [hfresh] at hvol
  cases hvol

theorem InStep.of_kept (h : InStep commits s) (hpointers : s'.manifestPointers = s.manifestPointers)
    (hfenced : ∀ (id : VolumeId) vol vol', s.volumes[id]? = some vol → s'.volumes[id]? = some vol' →
      vol.Fenced vol')
    (hlive : ∀ (id : VolumeId) vol, s.volumes[id]? = some vol → vol.state ≠ .deleted →
      s.manifestPointers[id]? ≠ none → ∃ vol', s'.volumes[id]? = some vol' ∧ vol'.state ≠ .deleted)
    (hfresh : ∀ id : VolumeId, s.volumes[id]? = none → s'.volumes[id]? = none) :
    InStep commits s' := by
  refine ⟨fun id pointer hget => ?_, fun id vol' hget' => ?_, h.consecutive⟩
  · rw [hpointers] at hget
    obtain ⟨vol, hvol, hstate, hle⟩ := h.pointed id pointer hget
    obtain ⟨vol', hvol', hstate'⟩ := hlive id vol hvol hstate (by simp [hget])
    exact ⟨vol', hvol', hstate', hle.trans (hfenced id vol vol' hvol hvol').le⟩
  · cases hget : s.volumes[id]? with
    | none =>
        rw [hfresh id hget] at hget'
        cases hget'
    | some vol =>
        rw [lastVersion, hpointers]
        exact h.next id vol hget

theorem InStep.started (h : InStep commits s) {first : ℕ}
    (hvolumes : s'.volumes = s.volumes.insert id vol') (hlive : vol'.state ≠ .deleted)
    (hothers : ∀ v : VolumeId, v ≠ id → s'.manifestPointers[v]? = s.manifestPointers[v]?)
    (hgeneration : ∀ pointer, s'.manifestPointers[id]? = some pointer →
      pointer.generation ≤ vol'.placementGeneration)
    (hfirst : s'.lastVersion id + 1 = first) :
    InStep (Function.update commits id ⟨first, []⟩) s' := by
  have hself : s'.volumes[id]? = some vol' := by rw [hvolumes, Std.ExtTreeMap.getElem?_insert_self]
  have hrest : ∀ v : VolumeId, v ≠ id → s'.volumes[v]? = s.volumes[v]? := by
    intro v hv
    rw [hvolumes, Std.ExtTreeMap.getElem?_insert]
    simp [Ne.symm hv]
  refine ⟨fun v pointer hget => ?_, fun v vol hget => ?_, fun v => ?_⟩
  all_goals
    by_cases hv : v = id
  · subst hv
    exact ⟨vol', hself, hlive, hgeneration pointer hget⟩
  · rw [hothers v hv] at hget
    rw [hrest v hv]
    exact h.pointed v pointer hget
  · subst hv
    simpa using hfirst
  · rw [hrest v hv] at hget
    rw [lastVersion, hothers v hv, Function.update_of_ne hv]
    exact h.next v vol hget
  · subst hv
    simp
  · rw [Function.update_of_ne hv]
    exact h.consecutive v

theorem InStep.committed (h : InStep commits s) {vol : VolumeRecord} (pointer : ManifestPointerRecord)
    (hget : s.volumes[id]? = some vol) (hlive : vol.state ≠ .deleted)
    (hgeneration : pointer.generation ≤ vol.placementGeneration)
    (hversion : pointer.manifestVersion = s.lastVersion id + 1) :
    InStep (Function.update commits id
        ⟨(commits id).first, (commits id).versions ++ [pointer.manifestVersion]⟩)
      { s with manifestPointers := s.manifestPointers.insert id pointer } := by
  have hnext := h.next id vol hget
  refine ⟨fun v pointer' hget' => ?_, fun v vol' hvol' => ?_, fun v => ?_⟩
  all_goals
    by_cases hv : v = id
  · subst hv
    rw [Std.ExtTreeMap.getElem?_insert_self] at hget'
    exact ⟨vol, hget, hlive, Option.some.inj hget' ▸ hgeneration⟩
  · refine h.pointed v pointer' ?_
    simpa [Std.ExtTreeMap.getElem?_insert, Ne.symm hv] using hget'
  · subst hv
    simp only [lastVersion, Std.ExtTreeMap.getElem?_insert_self, Option.map_some, Option.getD_some,
      Function.update_self, List.length_append, List.length_singleton]
    omega
  · rw [Function.update_of_ne hv, ← h.next v vol' hvol', lastVersion, lastVersion,
      Std.ExtTreeMap.getElem?_insert]
    simp [Ne.symm hv]
  · subst hv
    rw [Function.update_self, List.length_append, List.length_singleton, List.range'_1_concat,
      ← h.consecutive v, hversion, hnext]
  · rw [Function.update_of_ne hv]
    exact h.consecutive v

/-- **A command keeps the pointers in step**, unless it deletes a volume with its pointer. -/
theorem InStep.step {c : Command} {response : StateMachineResponse} (h : InStep commits s)
    (hstep : StorageStep c s response s') (hc : s.strandsPointer c = false) :
    InStep (recordCommit commits c response) s' := by
  have hfenced : ∀ (id : VolumeId) vol vol', s.volumes[id]? = some vol →
      s'.volumes[id]? = some vol' → vol.Fenced vol' := fun _ _ _ => fenced_step hstep
  -- a command that keeps the volumes as they are
  have hsame : c.affectsVersions = false → s'.volumes = s.volumes →
      s'.manifestPointers = s.manifestPointers → InStep (recordCommit commits c response) s' := by
    intro hc hvolumes hpointers
    rw [recordCommit_of_not_affects commits hc]
    refine h.of_kept hpointers hfenced (fun id vol hget hlive _ => ⟨vol, ?_, hlive⟩)
      fun id hnone => ?_
    · rw [hvolumes, hget]
    · rw [hvolumes, hnone]
  cases hstep with
  | rejected => exact h
  | unrelated hc => exact hsame (by cases c <;> first | rfl | cases hc) rfl rfl
  | setting hc hdata =>
      exact hsame (by cases c <;> first | rfl | cases hc) hdata.1 hdata.2.manifestPointers
  | created hfresh hstate =>
      have hnone := h.pointer_eq_none hfresh
      refine h.started rfl (by simp [hstate]) (fun _ _ => rfl) (fun pointer hget => ?_) ?_
      · exact absurd (hnone.symm.trans hget) (by simp)
      · simp [lastVersion, setVolume, hnone]
  | @rewritten _ _ id₀ vol₀ vol₀' hc hget hlive hlive' _ =>
      rw [recordCommit_of_not_affects commits (by cases c <;> first | rfl | cases hc)]
      refine h.of_kept rfl hfenced (fun id vol hvol hstate _ => ?_) fun id hnone => ?_
      · by_cases hid : id₀ = id
        · subst hid
          exact ⟨vol₀', Std.ExtTreeMap.getElem?_insert_self, hlive'⟩
        · refine ⟨vol, ?_, hstate⟩
          simpa [setVolume, Std.ExtTreeMap.getElem?_insert, hid] using hvol
      · have hid : id₀ ≠ id := by
          rintro rfl
          rw [hget] at hnone
          cases hnone
        simpa [setVolume, Std.ExtTreeMap.getElem?_insert, hid] using hnone
  | detached hget hstate hstate' hgeneration =>
      refine h.started rfl (by simp [hstate']) (fun v hv => ?_) (fun pointer hget => ?_) ?_
      · rw [Std.ExtTreeMap.getElem?_erase]
        simp [Ne.symm hv]
      · simp at hget
      · simp [lastVersion]
  | @deleted _ id₀ cascading deletedAt vol₀ ids hget hlive hids hnone =>
      have hkept : (if cascading then s.cascade ids else s).volumes = s.volumes ∧
          (if cascading then s.cascade ids else s).manifestPointers = s.manifestPointers := by
        cases cascading with
        | true =>
            have hmarks := (unreferences_cascade hids).choose_spec.marks
            exact ⟨hmarks.volumes, hmarks.manifestPointers⟩
        | false => exact ⟨rfl, rfl⟩
      have hvolumes : ∀ id : VolumeId, id₀ ≠ id → ((if cascading then s.cascade ids else s).setVolume
          id₀ (tombstone vol₀ deletedAt)).volumes[id]? = s.volumes[id]? := by
        intro id hid
        rw [setVolume, hkept.1, Std.ExtTreeMap.getElem?_insert]
        simp [hid]
      refine h.of_kept hkept.2 hfenced (fun id vol hvol hstate hpointer => ?_) fun id hfresh => ?_
      · have hid : id₀ ≠ id := by
          rintro rfl
          exact hpointer (Std.ExtTreeMap.getElem?_eq_none_of_contains_eq_false hc)
        exact ⟨vol, (hvolumes id hid).trans hvol, hstate⟩
      · have hid : id₀ ≠ id := by
          rintro rfl
          rw [hget] at hfresh
          cases hfresh
        exact (hvolumes id hid).trans hfresh
  | purged order =>
      obtain ⟨hledger, hvolumes⟩ := purgeTombstones_spec s order _ _
      refine h.of_kept hledger.manifestPointers hfenced (fun id vol hget hlive _ => ?_)
        fun id hfresh => ?_
      · rcases hvolumes id with heq | ⟨-, vol', hget', hstate⟩
        · exact ⟨vol, heq.trans hget, hlive⟩
        · obtain rfl := Option.some.inj (hget'.symm.trans hget)
          exact absurd hstate hlive
      · rcases hvolumes id with heq | ⟨hnone, -⟩
        · exact heq.trans hfresh
        · exact hnone
  | moved order =>
      obtain ⟨hledger, hvolumes⟩ := moves_rescheduleVm s order _ _ _
      refine h.of_kept hledger.manifestPointers hfenced (fun id vol hget hlive _ => ?_)
        fun id hfresh => ?_
      · rcases hvolumes id with heq | ⟨vol₀, vol₀', hget₀, hget₀', -, hstate⟩
        · exact ⟨vol, heq.trans hget, hlive⟩
        · obtain rfl := Option.some.inj (hget₀.symm.trans hget)
          exact ⟨vol₀', hget₀', hstate ▸ hlive⟩
      · rcases hvolumes id with heq | ⟨vol₀, vol₀', hget₀, -⟩
        · exact heq.trans hfresh
        · rw [hget₀] at hfresh
          cases hfresh
  | snapshotCreated hfresh hstate hfiles hwal => exact hsame rfl rfl rfl
  | snapshotDeleted hget hlive hs' =>
      have hmarks := (unreferences_snapshot releases_decrementSst sameRecords_decrementSst hget
        hlive).marks
      rw [← hs'] at hmarks
      exact hsame rfl hmarks.volumes hmarks.manifestPointers
  | committed hget hstate hgeneration hpublisher hversion hpointer =>
      subst hpointer
      exact h.committed ⟨_, _, _, _, _⟩ hget (by simp [hstate]) hgeneration.le hversion
  | restored hget hlive hfresh hstate hgeneration hversion =>
      refine h.started rfl (by simp [hstate]) (fun v hv => ?_) (fun pointer hget => ?_) ?_
      · rw [Std.ExtTreeMap.getElem?_insert]
        simp [Ne.symm hv]
      · rw [Std.ExtTreeMap.getElem?_insert_self] at hget
        exact Option.some.inj hget ▸ hgeneration
      · simp [lastVersion, hversion]
  | sstsCollected => exact hsame rfl rfl rfl
  | walCollected =>
      refine hsame rfl ?_ ?_
      all_goals
        unfold gcCompleteWalSegments
        split <;> rfl

end StorageState

open StorageState in
/-- **Manifest pointers.** As long as no volume is deleted that has a manifest pointer, every pointer
belongs to a volume that is not deleted and has a generation no larger than the volume's, and the
versions committed for a volume are consecutive: from `1` since its creation or its last detachment,
from `2` when it was restored and not detached since. -/
theorem manifests_in_step_of_log (log : List StateMachineCommand) (r : Replica)
    (hinit : r.sm.storage = {})
    (hcond : ∀ e ∈ executed log r, e.before.sm.storage.strandsPointer e.action = false) :
    (applyLog log r).2.sm.storage.PointersOfLive ∧
      ∀ id, (commits (executed log r) id).versions =
        List.range' (commits (executed log r) id).first
          (commits (executed log r) id).versions.length := by
  have hinv := storage_invariant (I := fun es s => InStep (commits es) s) log r ?_ ?_
    (.of_forall hcond)
  · exact ⟨hinv.pointed, hinv.consecutive⟩
  · rw [hinit]
    exact ⟨fun _ _ hget => by simp at hget, fun _ _ hget => by simp at hget, fun _ => rfl⟩
  · intro es e hstep hinv hc
    rw [commits_snoc]
    exact hinv.step hstep hc

/-- Two commits on a restored volume, which is then detached and attached elsewhere. -/
def restoredCommitsLog : List StateMachineCommand :=
  [.single (.createVolume "vol" "disk" 10 "org" "proj" "env" .data none none),
    .single (.createSnapshot "snap" "vol" ["a.sst"] 10),
    .single (.restoreSnapshot "snap" "copy" "disk-copy"),
    .single (.volumeAttach "copy" "vm-1" "hv-1"),
    .single (.commitManifest "copy" 1 2 "key-2" "hv-1"),
    .single (.commitManifest "copy" 1 3 "key-3" "hv-1"),
    .single (.volumeDetach "copy"),
    .single (.volumeAttach "copy" "vm-2" "hv-2"),
    .single (.commitManifest "copy" 2 1 "key-1" "hv-2")]

theorem manifests_in_step_of_restored :
    (∀ e ∈ executed restoredCommitsLog .fresh,
      e.before.sm.storage.strandsPointer e.action = false) ∧
    (applyLog restoredCommitsLog .fresh).2.sm.storage.PointersOfLive ∧
      ∀ id, (commits (executed restoredCommitsLog .fresh) id).versions =
        List.range' (commits (executed restoredCommitsLog .fresh) id).first
          (commits (executed restoredCommitsLog .fresh) id).versions.length := by
  have hcond : ∀ e ∈ executed restoredCommitsLog .fresh,
      e.before.sm.storage.strandsPointer e.action = false := by decide
  exact ⟨hcond, manifests_in_step_of_log restoredCommitsLog .fresh rfl hcond⟩

/-- A root volume that is deleted after a commit: it cannot be detached before. -/
def deletedRootLog : List StateMachineCommand :=
  [.single (.createVolume "vol" "disk" 10 "org" "proj" "env" .root none none),
    .single (.volumeAttach "vol" "vm-1" "hv-1"),
    .single (.commitManifest "vol" 1 1 "key" "hv-1"),
    .single (.deleteVolume "vol" false 100)]

/-- The volume is created anew once its tombstone is gone. -/
def recreatedRootLog : List StateMachineCommand :=
  deletedRootLog ++
    [.single (.purgeTombstones 1000 10),
      .single (.createVolume "vol" "disk" 10 "org" "proj" "env" .root none none),
      .single (.volumeAttach "vol" "vm-2" "hv-2"),
      .single (.commitManifest "vol" 1 1 "key" "hv-2"),
      .single (.commitManifest "vol" 1 2 "key" "hv-2")]

/-- The pointer of the deleted volume stays, and the first version accepted from the volume created
in its place is `2`. -/
theorem pointer_of_deleted_volume_stays :
    ¬ (applyLog deletedRootLog .fresh).2.sm.storage.PointersOfLive ∧
    (commits (executed recreatedRootLog .fresh) "vol").first = 1 ∧
    (commits (executed recreatedRootLog .fresh) "vol").versions = [2] := by
  refine ⟨fun h => ?_, by decide, by decide⟩
  have hpointer : (applyLog deletedRootLog .fresh).2.sm.storage.manifestPointers["vol"]? =
      some ⟨"vol", 1, 1, "key", "hv-1"⟩ := by decide
  obtain ⟨vol, hget, hlive, -⟩ := h "vol" _ hpointer
  have hdeleted : (applyLog deletedRootLog .fresh).2.sm.storage.volumes["vol"]?.map
      (fun vol => vol.state) = some .deleted := by decide
  rw [hget] at hdeleted
  exact hlive (Option.some.inj hdeleted)

end Syfrah
