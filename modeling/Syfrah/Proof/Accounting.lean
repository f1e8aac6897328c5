import Syfrah.Proof.References

/-!
# Accounting of SST references

The references to a file are the snapshots that list it and the restored volumes whose snapshot lists
it. A restored volume takes references but no command gives them back, so the counts cover the uses
of a file without always being equal to them. From that, a file listed for collection is unused as
long as no new snapshot names it; and the counts are exact as long as no restored volume is deleted.
-/

namespace Syfrah

/-- Which snapshot each volume was restored from, after one more command. -/
def recordSource (src : VolumeId → Option SnapshotId) (c : Command)
    (response : StateMachineResponse) : VolumeId → Option SnapshotId :=
  if response.isError then src
  else
    match c with
    | .restoreSnapshot snapshotId newVolumeId _ => Function.update src newVolumeId (some snapshotId)
    | .createVolume id .. => Function.update src id none
    | _ => src

/-- Which snapshot each volume was restored from, after some commands. -/
def sources (es : List Step) : VolumeId → Option SnapshotId :=
  es.foldl (fun src e => recordSource src e.action e.reply) fun _ => none

theorem sources_snoc (es : List Step) (e : Step) :
    sources (es ++ [e]) = recordSource (sources es) e.action e.reply := by
  simp [sources]

def Command.insertsVolume : Command → Bool
  | createVolume .. | restoreSnapshot .. => true
  | _ => false

theorem recordSource_of_not_inserts (src : VolumeId → Option SnapshotId) {c : Command}
    (h : c.insertsVolume = false) (response : StateMachineResponse) :
    recordSource src c response = src := by
  unfold recordSource
  split
  · rfl
  · cases c <;> first | rfl | cases h

namespace StorageState

def isLive (s : StorageState) (id : VolumeId) : Bool :=
  (s.volumes[id]?).any fun vol => vol.state != .deleted

/-- The files of the snapshot a volume was restored from. -/
def filesOf (s : StorageState) (source : Option SnapshotId) : List String :=
  (source.bind fun id => s.snapshots[id]?).elim [] (·.sstFiles)

/-- How often restored volumes that are not deleted use a file. -/
def restoredUses (s : StorageState) (src : VolumeId → Option SnapshotId) (k : String) : ℕ :=
  s.volumes.total fun id vol => if vol.state = .deleted then 0 else (s.filesOf (src id)).count k

/-- How often a file is used, by snapshots and by restored volumes. -/
def uses (s : StorageState) (src : VolumeId → Option SnapshotId) (k : String) : ℕ :=
  s.snapshotUses k + s.restoredUses src k

/-- The files a volume uses because it was restored. -/
def held (s : StorageState) (src : VolumeId → Option SnapshotId) (id : VolumeId) : List String :=
  if s.isLive id then s.filesOf (src id) else []

def Sourced (src : VolumeId → Option SnapshotId) (s : StorageState) : Prop :=
  ∀ v id, src v = some id → ∃ snap, s.snapshots[id]? = some snap

variable {s s' : StorageState} {src src' : VolumeId → Option SnapshotId}

theorem weight_restored (k : String) (id : VolumeId) :
    s.volumes.weight (fun id vol => if vol.state = .deleted then 0 else
      (s.filesOf (src id)).count k) id = (s.held src id).count k := by
  unfold held isLive Std.ExtTreeMap.weight
  cases s.volumes[id]? with
  | none => rfl
  | some vol =>
      by_cases hstate : vol.state = .deleted
      · simp [hstate]
      · simp [hstate]

theorem restoredUses_eq (h : ∀ id, s'.held src' id = s.held src id) (k : String) :
    s'.restoredUses src' k = s.restoredUses src k := by
  refine Std.ExtTreeMap.total_eq_of_weight_eq fun id => ?_
  rw [weight_restored, weight_restored, h]

theorem restoredUses_add (id₀ : VolumeId) (h : ∀ id, id ≠ id₀ → s'.held src' id = s.held src id)
    (k : String) :
    s'.restoredUses src' k + (s.held src id₀).count k =
      s.restoredUses src k + (s'.held src' id₀).count k := by
  rw [← weight_restored, ← weight_restored]
  refine Std.ExtTreeMap.total_add_weight id₀ fun id hid => ?_
  rw [weight_restored, weight_restored, h id hid]

theorem Sourced.mono (h : Sourced src s) (hkeeps : KeepsFiles s s') : Sourced src s' := by
  intro v id hid
  obtain ⟨snap, hget⟩ := h v id hid
  obtain ⟨snap', hget', -⟩ := hkeeps id snap hget
  exact ⟨snap', hget'⟩

theorem filesOf_eq (hsrc : Sourced src s) (hkeeps : KeepsFiles s s') (v : VolumeId) :
    s'.filesOf (src v) = s.filesOf (src v) := by
  unfold filesOf
  cases hv : src v with
  | none => rfl
  | some id =>
      obtain ⟨snap, hget⟩ := hsrc v id hv
      obtain ⟨snap', hget', hfiles⟩ := hkeeps id snap hget
      simp [hget, hget', hfiles]

theorem held_eq (hsrc : Sourced src s) (hkeeps : KeepsFiles s s') {v : VolumeId}
    (hlive : s'.isLive v = s.isLive v) : s'.held src v = s.held src v := by
  rw [held, held, hlive, filesOf_eq hsrc hkeeps]

theorem keepsFiles_of_eq (h : s'.snapshots = s.snapshots) : KeepsFiles s s' :=
  fun _ snap hget => ⟨snap, h ▸ hget, rfl⟩

theorem snapshotUses_eq (h : s'.snapshots = s.snapshots) (k : String) :
    s'.snapshotUses k = s.snapshotUses k := by
  rw [snapshotUses, snapshotUses, h]

theorem isLive_setVolume {id v : VolumeId} {vol : VolumeRecord} :
    (s.setVolume id vol).isLive v = if id = v then vol.state != .deleted else s.isLive v := by
  unfold isLive setVolume
  rw [Std.ExtTreeMap.getElem?_insert]
  by_cases hid : id = v
  · simp [hid]
  · simp [hid]

theorem isLive_congr (h : s'.volumes = s.volumes) (v : VolumeId) : s'.isLive v = s.isLive v := by
  rw [isLive, isLive, h]

theorem uses_unreferences (hsrc : Sourced src s) {files : List String}
    (h : Unreferences s files s') (k : String) :
    s'.uses src k + files.count k = s.uses src k := by
  have hheld : ∀ v, s'.held src v = s.held src v := fun v =>
    held_eq hsrc h.marks.kept (isLive_congr h.marks.volumes v)
  have huses := h.uses k
  have hrestored := restoredUses_eq hheld k
  unfold uses
  omega

theorem snapshotUses_insert {id : SnapshotId} {snap : SnapshotRecord}
    (hfresh : s.snapshots[id]? = none) (hlive : snap.state ≠ .deleted)
    (h : s'.snapshots = s.snapshots.insert id snap) (k : String) :
    s'.snapshotUses k = s.snapshotUses k + snap.sstFiles.count k := by
  have htotal := Std.ExtTreeMap.total_insert (t := s.snapshots) (f := fun _ snap => snap.uses k)
    id snap
  rw [Std.ExtTreeMap.weight_of_getElem?_eq_none hfresh, Nat.add_zero] at htotal
  rw [snapshotUses, h, htotal, SnapshotRecord.uses, if_neg hlive, snapshotUses]

theorem keepsFiles_insert {id : SnapshotId} {snap : SnapshotRecord}
    (hfresh : s.snapshots[id]? = none) (h : s'.snapshots = s.snapshots.insert id snap) :
    KeepsFiles s s' := by
  intro id' snap' hget
  have hne : id ≠ id' := by
    rintro rfl
    rw [hfresh] at hget
    cases hget
  refine ⟨snap', ?_, rfl⟩
  rw [h, Std.ExtTreeMap.getElem?_insert]
  simpa [hne] using hget

theorem snapshotUses_pos {id : SnapshotId} {snap : SnapshotRecord}
    (hget : s.snapshots[id]? = some snap) (hlive : snap.state ≠ .deleted) {k : String}
    (hk : k ∈ snap.sstFiles) : 0 < s.snapshotUses k := by
  rw [Nat.pos_iff_ne_zero]
  intro hzero
  have hweight := Std.ExtTreeMap.total_eq_zero_iff.mp hzero id snap hget
  rw [SnapshotRecord.uses, if_neg hlive, List.count_eq_zero] at hweight
  exact hweight hk

/-! ### What a command does to the counts and the uses -/

inductive Accounting (c : Command) (src : VolumeId → Option SnapshotId) (s : StorageState)
    (src' : VolumeId → Option SnapshotId) (s' : StorageState) : Prop
  | keep (hcounts : s'.sstRefcounts = s.sstRefcounts)
      (hpending : ∀ k ∈ s'.pendingGcSsts, k ∈ s.pendingGcSsts)
      (hcollected : ∀ k ∈ s.pendingGcSsts, k ∉ s'.pendingGcSsts →
        ∃ keys, c = .gcCompleteSsts keys ∧ k ∈ keys)
      (huses : ∀ k, s'.uses src' k = s.uses src k)
  | acquire (files : List String)
      (horigin : (∃ id source wal, c = .createSnapshot id source files wal) ∨
        ∀ k ∈ files, 0 < s.snapshotUses k)
      (hcounts : s'.sstRefcounts = files.foldl incrementSst s.sstRefcounts)
      (hpending : s'.pendingGcSsts = s.pendingGcSsts)
      (huses : ∀ k, s'.uses src' k = s.uses src k + files.count k)
  | drop (files lost : List String)
      (hlost : lost = [] ∨ ∃ id cascading deletedAt, c = .deleteVolume id cascading deletedAt ∧
        lost = s.held src id)
      (hreleases : Releases s files s')
      (huses : ∀ k, s'.uses src' k + files.count k + lost.count k = s.uses src k)

theorem Accounting.of_eq {c : Command} (hsrc : Sourced src s)
    (hsnapshots : s'.snapshots = s.snapshots) (hcounts : s'.sstRefcounts = s.sstRefcounts)
    (hpending : s'.pendingGcSsts = s.pendingGcSsts) (hlive : ∀ v, s'.isLive v = s.isLive v) :
    Accounting c src s src s' := by
  refine .keep hcounts (fun k hk => hpending ▸ hk) (fun k hk hk' => absurd (hpending ▸ hk) hk')
    fun k => ?_
  rw [uses, uses, snapshotUses_eq hsnapshots,
    restoredUses_eq fun v => held_eq hsrc (keepsFiles_of_eq hsnapshots) (hlive v)]

theorem accounting_created {id : VolumeId} {vol : VolumeRecord} {c : Command}
    (hsrc : Sourced src s) (hfresh : s.volumes[id]? = none) :
    Sourced (Function.update src id none) (s.setVolume id vol) ∧
      Accounting c src s (Function.update src id none) (s.setVolume id vol) := by
  have hold : s.isLive id = false := by rw [isLive, hfresh]; rfl
  constructor
  · intro v sid hv
    by_cases hid : v = id
    · simp [hid] at hv
    · exact hsrc v sid (by simpa [hid] using hv)
  · have hheld : ∀ v,
        (s.setVolume id vol).held (Function.update src id none) v = s.held src v := by
      intro v
      by_cases hid : v = id
      · subst hid
        simp [held, hold, filesOf]
      · rw [held, held, isLive_setVolume, if_neg (Ne.symm hid), Function.update_of_ne hid]
        rfl
    have hsnapshots : ∀ k, (s.setVolume id vol).snapshotUses k = s.snapshotUses k :=
      snapshotUses_eq rfl
    refine .keep rfl (fun _ hk => hk) (fun _ hk hk' => absurd hk hk') fun k => ?_
    rw [uses, uses, hsnapshots, restoredUses_eq hheld]

theorem accounting_restored {snapshotId : SnapshotId} {id : VolumeId} {vol : VolumeRecord}
    {snap : SnapshotRecord} {c : Command} (hsrc : Sourced src s)
    (hget : s.snapshots[snapshotId]? = some snap) (hsnap : snap.state ≠ .deleted)
    (hfresh : s.volumes[id]? = none) (hvol : vol.state ≠ .deleted)
    (hvolumes : s'.volumes = s.volumes.insert id vol) (hsnapshots : s'.snapshots = s.snapshots)
    (hcounts : s'.sstRefcounts = snap.sstFiles.foldl incrementSst s.sstRefcounts)
    (hpending : s'.pendingGcSsts = s.pendingGcSsts) :
    Sourced (Function.update src id (some snapshotId)) s' ∧
      Accounting c src s (Function.update src id (some snapshotId)) s' := by
  have hold : s.isLive id = false := by rw [isLive, hfresh]; rfl
  have hlive : ∀ v, s'.isLive v = (s.setVolume id vol).isLive v := fun v => isLive_congr hvolumes v
  constructor
  · intro v sid hv
    rw [hsnapshots]
    by_cases hid : v = id
    · subst hid
      simp only [Function.update_self, Option.some.injEq] at hv
      exact ⟨snap, hv ▸ hget⟩
    · exact hsrc v sid (by simpa [hid] using hv)
  · refine .acquire snap.sstFiles (.inr fun k hk => snapshotUses_pos hget hsnap hk) hcounts hpending
      fun k => ?_
    have hother : ∀ v, v ≠ id →
        s'.held (Function.update src id (some snapshotId)) v = s.held src v := by
      intro v hid
      rw [held, held, hlive, isLive_setVolume, if_neg (Ne.symm hid), Function.update_of_ne hid,
        filesOf, filesOf, hsnapshots]
    have hnew : s'.held (Function.update src id (some snapshotId)) id = snap.sstFiles := by
      rw [held, hlive, isLive_setVolume, Function.update_self, filesOf, hsnapshots]
      simp [hvol, hget]
    have hnone : s.held src id = [] := by simp [held, hold]
    have hrestored := restoredUses_add id hother k
    rw [hnew, hnone, List.count_nil, Nat.add_zero] at hrestored
    rw [uses, uses, snapshotUses_eq hsnapshots, hrestored, Nat.add_assoc]

theorem accounting_snapshotCreated {id : SnapshotId} {snap : SnapshotRecord} {c : Command}
    (hsrc : Sourced src s) (hfresh : s.snapshots[id]? = none) (hlive : snap.state ≠ .deleted)
    (hc : ∃ id source wal, c = .createSnapshot id source snap.sstFiles wal)
    (hvolumes : s'.volumes = s.volumes) (hsnapshots : s'.snapshots = s.snapshots.insert id snap)
    (hcounts : s'.sstRefcounts = snap.sstFiles.foldl incrementSst s.sstRefcounts)
    (hpending : s'.pendingGcSsts = s.pendingGcSsts) :
    Sourced src s' ∧ Accounting c src s src s' := by
  have hkeeps := keepsFiles_insert hfresh hsnapshots
  refine ⟨hsrc.mono hkeeps, .acquire snap.sstFiles (.inl hc) hcounts hpending fun k => ?_⟩
  have hrestored : s'.restoredUses src k = s.restoredUses src k :=
    restoredUses_eq (fun v => held_eq hsrc hkeeps (isLive_congr hvolumes v)) k
  rw [uses, uses, hrestored, snapshotUses_insert hfresh hlive hsnapshots]
  omega

theorem accounting_deleted {id : VolumeId} {vol : VolumeRecord} {cascading : Bool} {deletedAt : ℕ}
    {ids : List SnapshotId} (hsrc : Sourced src s) (hids : ids.Perm (s.liveSnapshotsOf id)) :
    Sourced src ((if cascading then s.cascade ids else s).setVolume id (tombstone vol deletedAt)) ∧
      Accounting (.deleteVolume id cascading deletedAt) src s src
        ((if cascading then s.cascade ids else s).setVolume id (tombstone vol deletedAt)) := by
  obtain ⟨files, hfiles⟩ :
      ∃ files, Unreferences s files (if cascading then s.cascade ids else s) := by
    cases cascading with
    | true => exact unreferences_cascade hids
    | false => exact ⟨[], refl_of MarksDeleted s, .nil rfl rfl, fun _ => rfl⟩
  generalize (if cascading then s.cascade ids else s) = t at *
  have hkeeps : KeepsFiles s (t.setVolume id (tombstone vol deletedAt)) := hfiles.marks.kept
  refine ⟨hsrc.mono hkeeps, .drop files (s.held src id) (.inr ⟨id, cascading, deletedAt, rfl, rfl⟩)
    ?_ fun k => ?_⟩
  · have hset : Releases t [] (t.setVolume id (tombstone vol deletedAt)) := .nil rfl rfl
    simpa using hfiles.releases.append hset
  · have huses := uses_unreferences hsrc hfiles k
    have hlive : ∀ v, t.isLive v = s.isLive v := isLive_congr hfiles.marks.volumes
    have hsame : ∀ v, v ≠ id →
        (t.setVolume id (tombstone vol deletedAt)).held src v = t.held src v := by
      intro v hid
      rw [held, held, isLive_setVolume, if_neg (Ne.symm hid)]
      rfl
    have hnone : (t.setVolume id (tombstone vol deletedAt)).held src id = [] := by
      simp [held, isLive_setVolume, tombstone]
    have hrestored := restoredUses_add id hsame k
    rw [hnone, List.count_nil, Nat.add_zero,
      held_eq hsrc hfiles.marks.kept (hlive id)] at hrestored
    have hsnapshots : (t.setVolume id (tombstone vol deletedAt)).snapshotUses k =
        t.snapshotUses k := snapshotUses_eq rfl k
    unfold uses at huses ⊢
    omega

/-- **Accounting of a command.** -/
theorem accounting_step {c : Command} {response : StateMachineResponse} (hsrc : Sourced src s)
    (h : StorageStep c s response s') :
    Sourced (recordSource src c response) s' ∧
      Accounting c src s (recordSource src c response) s' := by
  have hsame : c.insertsVolume = false → s'.snapshots = s.snapshots →
      s'.sstRefcounts = s.sstRefcounts → s'.pendingGcSsts = s.pendingGcSsts →
      (∀ v, s'.isLive v = s.isLive v) →
      Sourced (recordSource src c response) s' ∧
        Accounting c src s (recordSource src c response) s' := by
    intro hc hsnapshots hcounts hpending hlive
    rw [recordSource_of_not_inserts src hc]
    exact ⟨hsrc.mono (keepsFiles_of_eq hsnapshots), .of_eq hsrc hsnapshots hcounts hpending hlive⟩
  -- a record that is replaced by one that is not deleted either
  have hreplaced : ∀ {id : VolumeId} {vol vol' : VolumeRecord}, s.volumes[id]? = some vol →
      vol.state ≠ .deleted → vol'.state ≠ .deleted →
      ∀ v, (s.setVolume id vol').isLive v = s.isLive v := by
    intro id vol vol' hget hlive hlive' v
    rw [isLive_setVolume]
    split
    · rename_i hid
      subst hid
      rw [isLive, hget, Option.any_some, bne_iff_ne.mpr hlive, bne_iff_ne.mpr hlive']
    · rfl
  cases h with
  | rejected => exact ⟨hsrc, .of_eq hsrc rfl rfl rfl fun _ => rfl⟩
  | unrelated hc =>
      refine hsame ?_ rfl rfl rfl fun _ => rfl
      cases c <;> first | rfl | cases hc
  | setting hc hdata =>
      refine hsame ?_ hdata.2.snapshots hdata.2.sstRefcounts hdata.2.pendingGcSsts
        (isLive_congr hdata.1)
      cases c <;> first | rfl | cases hc
  | created hfresh hstate => exact accounting_created hsrc hfresh
  | rewritten hc hget hlive hlive' hfenced =>
      refine hsame ?_ rfl rfl rfl (hreplaced hget hlive hlive')
      cases c <;> first | rfl | cases hc
  | detached hget hstate hstate' hgeneration =>
      exact hsame rfl rfl rfl rfl (hreplaced hget (by simp [hstate]) (by simp [hstate']))
  | deleted ids hget hlive hids hnone => exact accounting_deleted hsrc hids
  | purged order =>
      obtain ⟨hledger, hvolumes⟩ := purgeTombstones_spec s order _ _
      refine hsame rfl hledger.snapshots hledger.sstRefcounts hledger.pendingGcSsts fun v => ?_
      rcases hvolumes v with heq | ⟨hnone, vol, hget, hstate⟩
      · rw [isLive, isLive, heq]
      · simp [isLive, hnone, hget, hstate]
  | moved order =>
      obtain ⟨hledger, hvolumes⟩ := moves_rescheduleVm s order _ _ _
      refine hsame rfl hledger.snapshots hledger.sstRefcounts hledger.pendingGcSsts fun v => ?_
      rcases hvolumes v with heq | ⟨vol, vol', hget, hget', -, hstate⟩
      · rw [isLive, isLive, heq]
      · simp [isLive, hget, hget', hstate]
  | snapshotCreated hfresh hstate hfiles hwal =>
      subst hfiles
      exact accounting_snapshotCreated hsrc hfresh (by simp [hstate]) ⟨_, _, _, rfl⟩ rfl rfl rfl rfl
  | snapshotDeleted hget hlive hs' =>
      have hfiles := unreferences_snapshot releases_decrementSst sameRecords_decrementSst hget hlive
      rw [← hs'] at hfiles
      refine ⟨hsrc.mono hfiles.marks.kept, .drop _ [] (.inl rfl) (hfiles.setMinWal _).releases
        fun k => ?_⟩
      rw [List.count_nil, Nat.add_zero]
      exact uses_unreferences hsrc (hfiles.setMinWal _) k
  | committed hget hstate hgeneration hpublisher hversion hpointer =>
      exact hsame rfl rfl rfl rfl fun _ => rfl
  | restored hget hlive hfresh hstate hgeneration hversion =>
      exact accounting_restored hsrc hget hlive hfresh (by simp [hstate]) rfl rfl rfl rfl
  | sstsCollected =>
      refine ⟨hsrc, .keep rfl (fun k hk => (List.mem_filter.mp hk).1) (fun k hk hk' => ?_)
        fun _ => rfl⟩
      refine ⟨_, rfl, ?_⟩
      simpa [gcCompleteSsts, hk] using hk'
  | walCollected =>
      refine hsame rfl ?_ ?_ ?_ fun v => ?_
      all_goals
        unfold gcCompleteWalSegments
        split <;> rfl

/-! ### Taking references -/

theorem references_foldl_incrementSst (files : List String) (counts : Table ℕ) (k : String) :
    ((files.foldl incrementSst counts)[k]?).getD 0 = (counts[k]?).getD 0 + files.count k := by
  induction files generalizing counts with
  | nil => simp
  | cons sst files ih =>
      rw [List.foldl_cons, ih, incrementSst, Std.ExtTreeMap.getElem?_insert]
      by_cases hk : sst = k
      · simp [hk]
        omega
      · simp [hk]

theorem positive_foldl_incrementSst (files : List String) (counts : Table ℕ)
    (h : ∀ k : String, counts[k]? ≠ some 0) :
    ∀ k : String, (files.foldl incrementSst counts)[k]? ≠ some 0 := by
  induction files generalizing counts with
  | nil => exact h
  | cons sst files ih =>
      refine ih _ fun k => ?_
      rw [incrementSst, Std.ExtTreeMap.getElem?_insert]
      split
      · simp
      · exact h k

structure Counted (src : VolumeId → Option SnapshotId) (s : StorageState) : Prop where
  sourced : Sourced src s
  covered : ∀ k, s.uses src k ≤ s.references k

theorem Counted.step {c : Command} {response : StateMachineResponse} (h : Counted src s)
    (hstep : StorageStep c s response s') : Counted (recordSource src c response) s' := by
  obtain ⟨hsourced, haccounting⟩ := accounting_step h.sourced hstep
  refine ⟨hsourced, fun k => ?_⟩
  have hcovered := h.covered k
  cases haccounting with
  | keep hcounts hpending hcollected huses =>
      rw [huses, references, hcounts]
      exact hcovered
  | acquire files horigin hcounts hpending huses =>
      rw [huses, references, hcounts, references_foldl_incrementSst]
      exact Nat.add_le_add_right hcovered _
  | drop files lost hlost hreleases huses =>
      have hdropped := huses k
      rw [hreleases.count]
      omega

/-! ### Files listed for collection -/

/-- Whether a command creates a snapshot with a file that is listed for collection. -/
def namesPending (s : StorageState) : Command → Bool
  | .createSnapshot _ _ sstFiles _ => sstFiles.any fun k => s.pendingGcSsts.contains k
  | _ => false

structure Covered (src : VolumeId → Option SnapshotId) (s : StorageState) : Prop where
  sourced : Sourced src s
  covered : ∀ k, s.uses src k ≤ s.references k
  unused : ∀ k ∈ s.pendingGcSsts, s.uses src k = 0

theorem Covered.step {c : Command} {response : StateMachineResponse} (h : Covered src s)
    (hstep : StorageStep c s response s') (hc : s.namesPending c = false) :
    Covered (recordSource src c response) s' := by
  obtain ⟨hsourced, hcovered⟩ := Counted.step ⟨h.sourced, h.covered⟩ hstep
  refine ⟨hsourced, hcovered, fun k hk => ?_⟩
  obtain ⟨-, haccounting⟩ := accounting_step h.sourced hstep
  cases haccounting with
  | keep hcounts hpending hcollected huses =>
      rw [huses]
      exact h.unused k (hpending k hk)
  | acquire files horigin hcounts hpending huses =>
      rw [hpending] at hk
      have hunused := h.unused k hk
      have hfresh : k ∉ files := by
        intro hfiles
        rcases horigin with ⟨id, source, wal, rfl⟩ | hused
        · simp only [namesPending, List.any_eq_false] at hc
          exact hc k hfiles (by simpa using hk)
        · have := hused k hfiles
          unfold uses at hunused
          omega
      rw [huses, hunused, List.count_eq_zero.mpr hfresh]
  | drop files lost hlost hreleases huses =>
      rcases hreleases.listed k hk with hk | hzero
      · have := h.unused k hk
        have := huses k
        omega
      · have := hcovered k
        omega

/-- No file listed for collection is a file of a snapshot that is not deleted, or of a snapshot that
a volume which is not deleted was restored from. -/
def CollectsUnused (s : StorageState) (src : VolumeId → Option SnapshotId) : Prop :=
  ∀ k ∈ s.pendingGcSsts,
    (∀ (id : SnapshotId) snap, s.snapshots[id]? = some snap → snap.state ≠ .deleted →
      k ∉ snap.sstFiles) ∧
    ∀ (v : VolumeId) vol id snap, s.volumes[v]? = some vol → vol.state ≠ .deleted →
      src v = some id → s.snapshots[id]? = some snap → k ∉ snap.sstFiles

theorem Covered.collectsUnused (h : Covered src s) : s.CollectsUnused src := by
  intro k hk
  have hunused := h.unused k hk
  rw [uses, Nat.add_eq_zero_iff] at hunused
  refine ⟨fun id snap hget hlive hfile => ?_, fun v vol id snap hvol hlive hv hget hfile => ?_⟩
  · exact absurd hunused.1 (snapshotUses_pos hget hlive hfile).ne'
  · have hweight := Std.ExtTreeMap.total_eq_zero_iff.mp hunused.2 v vol hvol
    rw [if_neg hlive, List.count_eq_zero, filesOf, hv, Option.bind_some, hget] at hweight
    exact hweight hfile

end StorageState

open StorageState in
/-- **Collection.** As long as no snapshot is created with a file that is listed for collection, the
files listed for collection are unused. -/
theorem collectsUnused_of_log (log : List StateMachineCommand) (r : Replica)
    (hinit : r.sm.storage = {})
    (hcond : ∀ e ∈ executed log r, e.before.sm.storage.namesPending e.action = false) :
    (applyLog log r).2.sm.storage.CollectsUnused (sources (executed log r)) := by
  refine (storage_invariant (I := fun es s => Covered (sources es) s) log r ?_ ?_
    (.of_forall hcond)).collectsUnused
  · rw [hinit]
    exact ⟨nofun, fun _ => Nat.zero_le _, nofun⟩
  · intro es e hstep hcovered hc
    rw [sources_snoc]
    exact hcovered.step hstep hc

/-- A volume with one snapshot, which is deleted again. -/
def releasedSnapshotLog : List StateMachineCommand :=
  [.single (.createVolume "vol" "disk" 10 "org" "proj" "env" .data none none),
    .single (.createSnapshot "snap-1" "vol" ["a.sst"] 10),
    .single (.deleteSnapshot "snap-1")]

theorem collectsUnused_of_released_snapshot :
    (∀ e ∈ executed releasedSnapshotLog .fresh,
      e.before.sm.storage.namesPending e.action = false) ∧
    (applyLog releasedSnapshotLog .fresh).2.sm.storage.CollectsUnused
      (sources (executed releasedSnapshotLog .fresh)) := by
  have hcond : ∀ e ∈ executed releasedSnapshotLog .fresh,
      e.before.sm.storage.namesPending e.action = false := by decide
  exact ⟨hcond, collectsUnused_of_log releasedSnapshotLog .fresh rfl hcond⟩

/-- A file that the deleted snapshot released is listed for collection, and a new snapshot takes it
up without taking it off the list. -/
theorem collects_file_of_new_snapshot :
    ¬ (applyLog (releasedSnapshotLog ++ [.single (.createSnapshot "snap-2" "vol" ["a.sst"] 20)])
        .fresh).2.sm.storage.CollectsUnused
      (sources (executed
        (releasedSnapshotLog ++ [.single (.createSnapshot "snap-2" "vol" ["a.sst"] 20)]) .fresh)) := by
  intro h
  have hsnap : (applyLog (releasedSnapshotLog ++
      [.single (.createSnapshot "snap-2" "vol" ["a.sst"] 20)]) .fresh).2.sm.storage.snapshots["snap-2"]? =
      some ⟨"snap-2", "vol", ["a.sst"], 20, "org", "proj", 10, "env", .data, .available⟩ := by decide
  exact (h "a.sst" (by decide)).1 "snap-2" _ hsnap (by decide) (by decide)

/-! ### Exact counts -/

/-- Whether a command created a snapshot with the file. -/
def names (e : Step) (k : String) : Bool :=
  match e.action with
  | .createSnapshot _ _ sstFiles _ => !e.reply.isError && sstFiles.contains k
  | _ => false

theorem exists_of_names {e : Step} {k : String} (h : names e k = true) :
    ∃ id source files wal, e.action = .createSnapshot id source files wal ∧
      e.reply.isError = false ∧ k ∈ files := by
  unfold names at h
  split at h
  · rename_i id source files wal haction
    simp only [Bool.and_eq_true, Bool.not_eq_true', List.contains_iff_mem] at h
    exact ⟨id, source, files, wal, haction, h⟩
  · cases h

/-- Whether a snapshot with the file was ever created. -/
def named (es : List Step) (k : String) : Bool := es.any fun e => names e k

/-- Which files were acknowledged as collected, after one more command: those listed for collection
that a `GcCompleteSsts` names, until a new snapshot takes them up. -/
def recordCollected (done : String → Bool) (e : Step) (k : String) : Bool :=
  match e.action with
  | .gcCompleteSsts sstKeys =>
      done k || (sstKeys.contains k && e.before.sm.storage.pendingGcSsts.contains k)
  | .createSnapshot _ _ sstFiles _ => done k && (e.reply.isError || !sstFiles.contains k)
  | _ => done k

def collected (es : List Step) : String → Bool := es.foldl recordCollected fun _ => false

theorem collected_snoc (es : List Step) (e : Step) :
    collected (es ++ [e]) = recordCollected (collected es) e := by
  simp [collected]

namespace StorageState

variable {s s' : StorageState} {src : VolumeId → Option SnapshotId}

/-- Whether a command deletes a volume that was restored from a snapshot with files. -/
def deletesRestored (s : StorageState) (src : VolumeId → Option SnapshotId) : Command → Bool
  | .deleteVolume id .. => !(s.held src id).isEmpty
  | _ => false

/-- The counts are the uses, with no entry for files that are not used. -/
structure Exact (src : VolumeId → Option SnapshotId) (s : StorageState) : Prop where
  sourced : Sourced src s
  exact : ∀ k, s.references k = s.uses src k
  positive : ∀ k : String, s.sstRefcounts[k]? ≠ some 0

theorem Exact.getElem? (h : Exact src s) (k : String) :
    s.sstRefcounts[k]? = if s.uses src k = 0 then none else some (s.uses src k) := by
  have hexact := h.exact k
  have hpositive := h.positive k
  unfold references at hexact
  cases hk : s.sstRefcounts[k]? with
  | none =>
      rw [hk, Option.getD_none] at hexact
      rw [if_pos hexact.symm]
  | some n =>
      rw [hk, Option.getD_some] at hexact
      rw [hk] at hpositive
      rw [if_neg fun hzero => hpositive (by rw [hexact, hzero]), hexact]

theorem lost_eq_nil {c : Command} {lost : List String} (hc : s.deletesRestored src c = false)
    (hlost : lost = [] ∨ ∃ id cascading deletedAt, c = .deleteVolume id cascading deletedAt ∧
      lost = s.held src id) : lost = [] := by
  rcases hlost with rfl | ⟨id, cascading, deletedAt, rfl, rfl⟩
  · rfl
  · simpa [deletesRestored] using hc

theorem Exact.step {c : Command} {response : StateMachineResponse} (h : Exact src s)
    (hstep : StorageStep c s response s') (hc : s.deletesRestored src c = false) :
    Exact (recordSource src c response) s' := by
  obtain ⟨hsourced, haccounting⟩ := accounting_step h.sourced hstep
  cases haccounting with
  | keep hcounts hpending hcollected huses =>
      refine ⟨hsourced, fun k => ?_, fun k => hcounts ▸ h.positive k⟩
      rw [huses, ← h.exact, references, hcounts, references]
  | acquire files horigin hcounts hpending huses =>
      refine ⟨hsourced, fun k => ?_, fun k => ?_⟩
      · rw [huses, ← h.exact, references, hcounts, references_foldl_incrementSst, references]
      · rw [hcounts]
        exact positive_foldl_incrementSst files _ h.positive k
  | drop files lost hlost hreleases huses =>
      refine ⟨hsourced, fun k => ?_, hreleases.positive h.positive⟩
      have hexact := h.exact k
      have hdropped := huses k
      rw [lost_eq_nil hc hlost, List.count_nil] at hdropped
      rw [hreleases.count]
      omega

theorem snapshotUses_pos_of_created {id : SnapshotId} {source : VolumeId} {files : List String}
    {wal : ℕ} {response : StateMachineResponse}
    (hstep : StorageStep (.createSnapshot id source files wal) s response s')
    (hok : response.isError = false) {k : String} (hk : k ∈ files) : 0 < s'.snapshotUses k := by
  cases hstep with
  | rejected => cases hok
  | unrelated hc => cases hc
  | setting hc => cases hc
  | rewritten hc => cases hc
  | snapshotCreated hfresh hstate hfiles hwal =>
      exact snapshotUses_pos Std.ExtTreeMap.getElem?_insert_self (by simp [hstate]) (hfiles ▸ hk)

/-- A file that was named and is not used any more is listed or acknowledged. -/
def Settled (es : List Step) (s : StorageState) : Prop :=
  ∀ k, named es k = true → s.uses (sources es) k = 0 →
    k ∈ s.pendingGcSsts ∨ collected es k = true

theorem Settled.step {es : List Step} {e : Step} (h : Settled es e.before.sm.storage)
    (hexact : Exact (sources es) e.before.sm.storage)
    (hstep : StorageStep e.action e.before.sm.storage e.reply e.after.sm.storage)
    (hc : e.before.sm.storage.deletesRestored (sources es) e.action = false) :
    Settled (es ++ [e]) e.after.sm.storage := by
  intro k hnamed hunused
  rw [sources_snoc] at hunused
  -- an accepted command that names the file would make it used
  have hnew : ∀ id source files wal, e.action = .createSnapshot id source files wal →
      e.reply.isError = false → k ∉ files := by
    intro id source files wal haction hok hk
    rw [haction] at hstep
    have := snapshotUses_pos_of_created hstep hok hk
    unfold uses at hunused
    omega
  have hold : named es k = true := by
    rw [named, List.any_append, Bool.or_eq_true] at hnamed
    rcases hnamed with hnamed | hnamed
    · exact hnamed
    · rw [List.any_cons, List.any_nil, Bool.or_false] at hnamed
      obtain ⟨id, source, files, wal, haction, hok, hk⟩ := exists_of_names hnamed
      exact absurd hk (hnew id source files wal haction hok)
  have hkept : collected es k = true → collected (es ++ [e]) k = true := by
    intro hk
    rw [collected_snoc, recordCollected]
    split
    · simp [hk]
    · rename_i id source files wal haction
      cases hok : e.reply.isError with
      | true => simp [hk]
      | false => simp [hk, hnew id source files wal haction hok]
    · exact hk
  obtain ⟨-, haccounting⟩ := accounting_step hexact.sourced hstep
  cases haccounting with
  | keep hcounts hpending hcollected huses =>
      rw [huses] at hunused
      rcases h k hold hunused with hk | hk
      · by_cases hk' : k ∈ e.after.sm.storage.pendingGcSsts
        · exact .inl hk'
        · obtain ⟨keys, haction, hkeys⟩ := hcollected k hk hk'
          refine .inr ?_
          rw [collected_snoc, recordCollected, haction]
          simp [hk, hkeys]
      · exact .inr (hkept hk)
  | acquire files horigin hcounts hpending huses =>
      rw [huses, Nat.add_eq_zero_iff] at hunused
      rcases h k hold hunused.1 with hk | hk
      · exact .inl (hpending ▸ hk)
      · exact .inr (hkept hk)
  | drop files lost hlost hreleases huses =>
      have hdropped := huses k
      rw [lost_eq_nil hc hlost, List.count_nil, hunused] at hdropped
      by_cases hbefore : e.before.sm.storage.uses (sources es) k = 0
      · rcases h k hold hbefore with hk | hk
        · exact .inl (hreleases.pending k hk)
        · exact .inr (hkept hk)
      · have hcount := hreleases.count k
        rw [hexact.exact] at hcount
        exact .inl (hreleases.released k (by rw [hexact.exact]; omega) (by omega))

end StorageState

open StorageState in
/-- **Reference counts.** As long as no volume is deleted that was restored from a snapshot with
files, the count of a file is the number of its uses, there is no entry for a file without uses, and
a file that is not used any more is listed for collection or was acknowledged. -/
theorem exact_refcounts_of_log (log : List StateMachineCommand) (r : Replica)
    (hinit : r.sm.storage = {})
    (hcond : Along (fun past e =>
      e.before.sm.storage.deletesRestored (sources past) e.action = false) (executed log r)) :
    (∀ k : String, (applyLog log r).2.sm.storage.sstRefcounts[k]? =
      if (applyLog log r).2.sm.storage.uses (sources (executed log r)) k = 0 then none
      else some ((applyLog log r).2.sm.storage.uses (sources (executed log r)) k)) ∧
    ∀ k, named (executed log r) k = true →
      (applyLog log r).2.sm.storage.uses (sources (executed log r)) k = 0 →
      k ∈ (applyLog log r).2.sm.storage.pendingGcSsts ∨ collected (executed log r) k = true := by
  have hinv := storage_invariant (I := fun es s => Exact (sources es) s ∧ Settled es s) log r
    ?_ ?_ hcond
  · exact ⟨hinv.1.getElem?, hinv.2⟩
  · rw [hinit]
    exact ⟨⟨nofun, fun _ => rfl, fun _ => by simp⟩, nofun⟩
  · intro es e hstep hI hc
    refine ⟨?_, hI.2.step hI.1 hstep hc⟩
    rw [sources_snoc]
    exact hI.1.step hstep hc

/-- A snapshot, a volume restored from it, and the snapshot deleted. -/
def restoredLog : List StateMachineCommand :=
  [.single (.createVolume "vol" "disk" 10 "org" "proj" "env" .data none none),
    .single (.createSnapshot "snap" "vol" ["a.sst"] 10),
    .single (.restoreSnapshot "snap" "copy" "disk-copy"),
    .single (.deleteSnapshot "snap")]

theorem exact_refcounts_of_restored :
    Along (fun past e => e.before.sm.storage.deletesRestored (sources past) e.action = false)
      (executed restoredLog .fresh) ∧
    (∀ k : String, (applyLog restoredLog .fresh).2.sm.storage.sstRefcounts[k]? =
      if (applyLog restoredLog .fresh).2.sm.storage.uses (sources (executed restoredLog .fresh)) k = 0
      then none
      else some ((applyLog restoredLog .fresh).2.sm.storage.uses
        (sources (executed restoredLog .fresh)) k)) := by
  have hcond : Along (fun past e =>
      e.before.sm.storage.deletesRestored (sources past) e.action = false)
      (executed restoredLog .fresh) := by decide
  exact ⟨hcond, (exact_refcounts_of_log restoredLog .fresh rfl hcond).1⟩

def deletedCopyLog : List StateMachineCommand :=
  restoredLog ++ [.single (.deleteVolume "copy" false 100)]

/-- The deletion of the restored volume does not give its reference back: nothing uses the file, but
its count stays at one, and it is never listed for collection. -/
theorem refcount_of_deleted_restored_volume :
    (applyLog deletedCopyLog .fresh).2.sm.storage.uses
      (sources (executed deletedCopyLog .fresh)) "a.sst" = 0 ∧
    (applyLog deletedCopyLog .fresh).2.sm.storage.sstRefcounts["a.sst"]? = some 1 ∧
    named (executed deletedCopyLog .fresh) "a.sst" = true ∧
    "a.sst" ∉ (applyLog deletedCopyLog .fresh).2.sm.storage.pendingGcSsts ∧
    collected (executed deletedCopyLog .fresh) "a.sst" = false := by
  decide

end Syfrah
