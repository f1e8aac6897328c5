import Syfrah.Proof.VolumeStep

/-!
# Storage quotas

Usage is a total over the records of a scope, so a command can push it over a limit only through the
one record it creates or enlarges. Each such command asks for the quota of the record's own project,
or else of its org, and the scope it compares with is the scope of that quota.
-/

namespace Syfrah

open StorageState

namespace StorageState

variable {s s' : StorageState} {c : Command} {scope : QuotaScope} {q : StorageQuota}

/-! ### Usage as a total -/

def volumeShare (scope : QuotaScope) (f : VolumeRecord → ℕ) (_ : VolumeId) (vol : VolumeRecord) : ℕ :=
  if vol.state != .deleted && inScope scope vol.orgId vol.projectId then f vol else 0

def snapshotShare (scope : QuotaScope) (_ : SnapshotId) (snap : SnapshotRecord) : ℕ :=
  if snap.state != .deleted && inScope scope snap.orgId snap.projectId then 1 else 0

theorem computeVolumeUsage_eq (s : StorageState) (scope : QuotaScope) :
    computeVolumeUsage s scope = (s.volumes.total (volumeShare scope fun _ => 1),
      s.volumes.total (volumeShare scope (·.sizeGb))) := by
  have hcount := Std.ExtTreeMap.sum_filter_values s.volumes
    (fun vol => vol.state != .deleted && inScope scope vol.orgId vol.projectId) fun _ => 1
  refine Prod.ext (Eq.trans ?_ hcount) (Std.ExtTreeMap.sum_filter_values s.volumes _ _)
  simp [computeVolumeUsage, scopeVolumes, values]

theorem computeSnapshotCount_eq (s : StorageState) (scope : QuotaScope) :
    computeSnapshotCount s scope = s.snapshots.total (snapshotShare scope) := by
  have hcount := Std.ExtTreeMap.sum_filter_values s.snapshots
    (fun snap => snap.state != .deleted && inScope scope snap.orgId snap.projectId) fun _ => 1
  refine Eq.trans ?_ hcount
  simp [computeSnapshotCount, values]

structure Within (s : StorageState) (scope : QuotaScope) (q : StorageQuota) : Prop where
  volumes : (s.computeVolumeUsage scope).1 ≤ q.maxVolumes
  totalGb : (s.computeVolumeUsage scope).2 ≤ q.maxTotalGb
  snapshots : s.computeSnapshotCount scope ≤ q.maxSnapshots

/-! ### The quota that is checked -/

structure Governs (s : StorageState) (scope : QuotaScope) (q : StorageQuota) : Prop where
  quota : s.quotas[quotaKey scope]? = some q
  own : ∀ orgId, scope = .org orgId →
    ∀ projectId, s.quotas[quotaKey (.project orgId projectId)]? = none

theorem Governs.effective (h : s.Governs scope q) {orgId : OrgId} {projectId : ProjectId}
    (hscope : inScope scope orgId projectId = true) :
    s.effectiveQuotaFrom orgId projectId = some q ∧
      s.effectiveQuotaScopeFrom orgId projectId = scope := by
  unfold effectiveQuotaFrom effectiveQuotaScopeFrom
  rw [Std.ExtTreeMap.contains_eq_isSome_getElem?]
  cases scope with
  | org oid =>
      obtain rfl : orgId = oid := by simpa [inScope] using hscope
      simp [h.own orgId rfl projectId, h.quota]
  | project oid pid =>
      obtain ⟨rfl, rfl⟩ : orgId = oid ∧ projectId = pid := by simpa [inScope] using hscope
      simp [h.quota]

theorem Governs.checkVolumeQuota_ok (h : s.Governs scope q) {orgId : OrgId} {projectId : ProjectId}
    {sizeGb : ℕ} (hscope : inScope scope orgId projectId = true)
    (hok : s.checkVolumeQuota orgId projectId sizeGb = .ok ()) :
    (s.computeVolumeUsage scope).1 < q.maxVolumes ∧
      (s.computeVolumeUsage scope).2 + sizeGb ≤ q.maxTotalGb := by
  obtain ⟨hquota, heffective⟩ := h.effective hscope
  simp only [checkVolumeQuota, hquota, heffective] at hok
  split at hok
  · cases hok
  · split at hok
    · cases hok
    · constructor <;> omega

theorem Governs.checkResizeQuota_ok (h : s.Governs scope q) {orgId : OrgId} {projectId : ProjectId}
    {deltaGb : ℕ} (hscope : inScope scope orgId projectId = true)
    (hok : s.checkResizeQuota orgId projectId deltaGb = .ok ()) :
    (s.computeVolumeUsage scope).2 + deltaGb ≤ q.maxTotalGb := by
  obtain ⟨hquota, heffective⟩ := h.effective hscope
  simp only [checkResizeQuota, hquota, heffective] at hok
  split at hok
  · cases hok
  · omega

theorem Governs.checkSnapshotQuota_ok (h : s.Governs scope q) {orgId : OrgId}
    {projectId : ProjectId} (hscope : inScope scope orgId projectId = true)
    (hok : s.checkSnapshotQuota orgId projectId = .ok ()) :
    s.computeSnapshotCount scope < q.maxSnapshots := by
  obtain ⟨hquota, heffective⟩ := h.effective hscope
  simp only [checkSnapshotQuota, hquota, heffective] at hok
  split at hok
  · cases hok
  · omega

/-! ### Growth of one record -/

def entryShare (scope : QuotaScope) (f : VolumeRecord → ℕ) (id : VolumeId)
    (entry : Option VolumeRecord) : ℕ :=
  entry.elim 0 (volumeShare scope f id)

def grows : Command → Option VolumeId
  | .resizeVolume id _ => some id
  | c => c.newVolume

theorem share_le_of_change {id : VolumeId} {vol vol' : VolumeRecord} {f : VolumeRecord → ℕ}
    (h : VolumeChange s c id vol vol') (hf : f vol' ≤ f vol) :
    volumeShare scope f id vol' ≤ volumeShare scope f id vol := by
  have hlive : (vol.state != .deleted) = true := by simpa using h.live.1
  have howner : vol'.orgId = vol.orgId ∧ vol'.projectId = vol.projectId := by
    cases h <;> exact ⟨rfl, rfl⟩
  simp only [volumeShare, howner.1, howner.2, hlive, Bool.true_and]
  by_cases hscope : inScope scope vol.orgId vol.projectId = true
  · rw [if_pos hscope]
    split
    · exact hf
    · exact Nat.zero_le _
  · simp [hscope]

theorem sizeGb_of_change {id : VolumeId} {vol vol' : VolumeRecord}
    (h : VolumeChange s c id vol vol') :
    vol'.sizeGb = vol.sizeGb ∨
      grows c = some id ∧ vol.state = .available ∧ vol.sizeGb < vol'.sizeGb ∧
        vol' = { vol with sizeGb := vol'.sizeGb } ∧
        s.checkResizeQuota vol.orgId vol.projectId (vol'.sizeGb - vol.sizeGb) = .ok () := by
  cases h with
  | resized hstate hlarger hquota => exact .inr ⟨rfl, hstate, hlarger, rfl, hquota⟩
  | _ => exact .inl rfl

theorem entryShare_le {id : VolumeId} {entry entry' : Option VolumeRecord} {f : VolumeRecord → ℕ}
    (hstep : RecordStep s c id entry entry') (hc : grows c ≠ some id)
    (hf : ∀ vol vol' : VolumeRecord, vol'.sizeGb = vol.sizeGb → f vol' ≤ f vol) :
    entryShare scope f id entry' ≤ entryShare scope f id entry := by
  cases hstep with
  | kept => exact le_rfl
  | created hnew =>
      have hgrows : grows c = some id := by cases c <;> first | exact hnew | cases hnew
      exact absurd hgrows hc
  | changed hchange =>
      rcases sizeGb_of_change hchange with hsize | ⟨hgrows, -⟩
      · exact share_le_of_change hchange (hf _ _ hsize)
      · exact absurd hgrows hc
  | purged => exact Nat.zero_le _

theorem count_growth (h : s.Governs scope q) {id : VolumeId} {entry entry' : Option VolumeRecord}
    (hstep : RecordStep s c id entry entry') :
    entryShare scope (fun _ => 1) id entry' ≤ entryShare scope (fun _ => 1) id entry ∨
      (s.computeVolumeUsage scope).1 + entryShare scope (fun _ => 1) id entry' ≤
        q.maxVolumes + entryShare scope (fun _ => 1) id entry := by
  cases hstep with
  | kept => exact .inl le_rfl
  | @changed vol vol' hchange =>
      exact .inl (share_le_of_change (f := fun _ => 1) hchange le_rfl)
  | purged => exact .inl (Nat.zero_le _)
  | @created vol _ hnew hquota =>
      by_cases hscope : inScope scope vol.orgId vol.projectId = true
      · have hroom := (h.checkVolumeQuota_ok hscope hquota).1
        refine .inr ?_
        simp only [entryShare, Option.elim, volumeShare, hnew.state, hscope]
        simpa using hroom
      · exact .inl (by simp [entryShare, volumeShare, hscope])

theorem size_growth (h : s.Governs scope q) {id : VolumeId} {entry entry' : Option VolumeRecord}
    (hstep : RecordStep s c id entry entry') :
    entryShare scope (·.sizeGb) id entry' ≤ entryShare scope (·.sizeGb) id entry ∨
      (s.computeVolumeUsage scope).2 + entryShare scope (·.sizeGb) id entry' ≤
        q.maxTotalGb + entryShare scope (·.sizeGb) id entry := by
  cases hstep with
  | kept => exact .inl le_rfl
  | purged => exact .inl (Nat.zero_le _)
  | @created vol _ hnew hquota =>
      by_cases hscope : inScope scope vol.orgId vol.projectId = true
      · have hroom := (h.checkVolumeQuota_ok hscope hquota).2
        refine .inr ?_
        simp only [entryShare, Option.elim, volumeShare, hnew.state, hscope]
        simpa using hroom
      · exact .inl (by simp [entryShare, volumeShare, hscope])
  | @changed vol vol' hchange =>
      rcases sizeGb_of_change hchange with hsize | ⟨-, hstate, hlarger, hvol', hquota⟩
      · exact .inl (share_le_of_change (f := (·.sizeGb)) hchange hsize.le)
      · by_cases hscope : inScope scope vol.orgId vol.projectId = true
        · have hroom := h.checkResizeQuota_ok hscope hquota
          refine .inr ?_
          rw [hvol']
          simp only [entryShare, Option.elim, volumeShare, hstate, hscope]
          change _ + vol'.sizeGb ≤ _ + vol.sizeGb
          omega
        · exact .inl (by rw [hvol']; simp [entryShare, volumeShare, hscope])

theorem snapshot_growth (h : s.Governs scope q) (heffect : StorageEffect s c s') (id : SnapshotId) :
    s'.snapshots.weight (snapshotShare scope) id ≤ s.snapshots.weight (snapshotShare scope) id ∨
      c.newSnapshot = some id ∧
        s.computeSnapshotCount scope + s'.snapshots.weight (snapshotShare scope) id ≤
          q.maxSnapshots + s.snapshots.weight (snapshotShare scope) id := by
  cases hget : s'.snapshots[id]? with
  | none =>
      rw [Std.ExtTreeMap.weight_of_getElem?_eq_none hget]
      exact .inl (Nat.zero_le _)
  | some snap =>
      rw [Std.ExtTreeMap.weight_of_getElem?_eq_some hget, snapshotShare]
      split
      · rename_i hcounted
        rw [Bool.and_eq_true, bne_iff_ne] at hcounted
        rcases heffect.snapshot id snap hget hcounted.1 with hsame | ⟨hc, hfresh, hquota⟩
        · rw [Std.ExtTreeMap.weight_of_getElem?_eq_some hsame, snapshotShare]
          simp [hcounted]
        · exact .inr ⟨hc, (h.checkSnapshotQuota_ok hcounted.2 hquota).trans_le (Nat.le_add_right _ _)⟩
      · exact .inl (Nat.zero_le _)

/-- **One command.** A scope whose quota governs stays within it. -/
theorem Within.step (h : s.Within scope q) (hgoverns : s.Governs scope q)
    (heffect : StorageEffect s c s') : s'.Within scope q := by
  have hother : ∀ {o : Option VolumeId} {id : VolumeId}, id ≠ o.getD "" → o ≠ some id := by
    rintro _ id hid rfl
    exact hid rfl
  obtain ⟨hvolumes, htotalGb, hsnapshots⟩ := h
  have hcount := fun id => count_growth hgoverns (heffect.volume id)
  have hsize := fun id => size_growth hgoverns (heffect.volume id)
  rw [computeVolumeUsage_eq] at hvolumes htotalGb hcount hsize
  refine ⟨?_, ?_, ?_⟩
  · rw [computeVolumeUsage_eq]
    refine Std.ExtTreeMap.total_le_of_weight_le ((grows c).getD "") (fun id hid => ?_) (hcount _)
      hvolumes
    exact entryShare_le (heffect.volume id) (hother hid) fun _ _ _ => le_rfl
  · rw [computeVolumeUsage_eq]
    refine Std.ExtTreeMap.total_le_of_weight_le ((grows c).getD "") (fun id hid => ?_) (hsize _)
      htotalGb
    exact entryShare_le (heffect.volume id) (hother hid) fun _ _ hsize => hsize.le
  · have hgrowth := snapshot_growth hgoverns heffect
    rw [computeSnapshotCount_eq] at hsnapshots hgrowth ⊢
    refine Std.ExtTreeMap.total_le_of_weight_le (c.newSnapshot.getD "") (fun id hid => ?_)
      ((hgrowth _).imp_right And.right) hsnapshots
    exact (hgrowth id).resolve_right fun hnew => hother hid hnew.1

end StorageState

/-! ### Quotas set by commands -/

def QuotaScope.slashFree : QuotaScope → Bool
  | .org orgId => !orgId.toList.contains '/'
  | .project orgId projectId => !orgId.toList.contains '/' && !projectId.toList.contains '/'

theorem toList_quotaKey_project (orgId : OrgId) (projectId : ProjectId) :
    (quotaKey (.project orgId projectId)).toList =
      "project:".toList ++ (orgId.toList ++ '/' :: projectId.toList) := by
  change ("project:" ++ orgId ++ "/" ++ projectId).toList = _
  simp

theorem toList_quotaKey_org (orgId : OrgId) :
    (quotaKey (.org orgId)).toList = "org:".toList ++ orgId.toList := by
  change ("org:" ++ orgId).toList = _
  simp

theorem quotaKey_inj {scope scope' : QuotaScope} (hscope : scope.slashFree = true)
    (h : quotaKey scope = quotaKey scope') : scope = scope' := by
  have hchars := congrArg String.toList h
  cases scope with
  | org orgId =>
      cases scope' with
      | org orgId' =>
          rw [toList_quotaKey_org, toList_quotaKey_org, List.append_cancel_left_eq] at hchars
          rw [String.ext hchars]
      | project orgId' projectId' =>
          rw [toList_quotaKey_org, toList_quotaKey_project] at hchars
          simp at hchars
  | project orgId projectId =>
      cases scope' with
      | org orgId' =>
          rw [toList_quotaKey_org, toList_quotaKey_project] at hchars
          simp at hchars
      | project orgId' projectId' =>
          rw [toList_quotaKey_project, toList_quotaKey_project, List.append_cancel_left_eq] at hchars
          obtain ⟨horg, hproject⟩ : '/' ∉ orgId.toList ∧ '/' ∉ projectId.toList := by
            simpa [QuotaScope.slashFree] using hscope
          -- there is one slash on the left, so there is no other on the right
          have hcount := congrArg (List.count '/') hchars
          simp only [List.count_append, List.count_cons_self, List.count_eq_zero.mpr horg,
            List.count_eq_zero.mpr hproject] at hcount
          have hright : '/' ∉ projectId'.toList := List.count_eq_zero.mp (by omega)
          obtain ⟨horg, hproject⟩ := Text.append_separator_inj hproject hright hchars
          rw [String.ext horg, String.ext hproject]

def quotaLog (settings : List (QuotaScope × StorageQuota)) : List StateMachineCommand :=
  settings.map fun (scope, q) =>
    .single (.setStorageQuota scope q.maxVolumes q.maxTotalGb q.maxSnapshots)

/-- The quota that some settings give a scope: the last one counts. -/
def quotaOf (settings : List (QuotaScope × StorageQuota)) (scope : QuotaScope) :
    Option StorageQuota :=
  (settings.reverse.find? fun setting => setting.1 = scope).map Prod.snd

theorem storage_setStorageQuota (scope : QuotaScope) (q : StorageQuota) (r : Replica) :
    (applySingle (.setStorageQuota scope q.maxVolumes q.maxTotalGb q.maxSnapshots) r).2.sm.storage =
      r.sm.storage.setStorageQuota scope q := by
  obtain ⟨_, r', hrun, hsame⟩ := Handle.passes_mirror
    (StorageStore.setStorageQuota (quotaKey scope) ⟨q.maxVolumes, q.maxTotalGb, q.maxSnapshots⟩)
    (Replica.storageLens.set (r.sm.storage.setStorageQuota scope q) r)
  have hset : Replica.storageStep (fun s => .ok (s.setStorageQuota scope q)) r =
      (.ok (), Replica.storageLens.set (r.sm.storage.setStorageQuota scope q) r) := rfl
  change (Handle.setStorageQuota scope q r).2.sm.storage = _
  rw [Handle.setStorageQuota, Tx.bind_apply_ok hset, Replica.syncQuotaToStore,
    Tx.bind_apply_ok hrun]
  exact hsame

theorem storage_quotaLog (settings : List (QuotaScope × StorageQuota)) (r : Replica)
    (hinit : r.sm.storage = {}) :
    (applyLog (quotaLog settings) r).2.sm.storage =
      { quotas := settings.foldl (fun t e => t.insert (quotaKey e.1) e.2) ∅ } := by
  have hfold : ∀ (settings : List (QuotaScope × StorageQuota)) (r : Replica),
      (applyLog (quotaLog settings) r).2.sm.storage = { r.sm.storage with
        quotas := settings.foldl (fun t e => t.insert (quotaKey e.1) e.2) r.sm.storage.quotas } := by
    intro settings
    induction settings with
    | nil => exact fun r => rfl
    | cons setting settings ih =>
        intro r
        have hfirst := storage_setStorageQuota setting.1 setting.2 r
        refine (ih (applySingle _ r).2).trans ?_
        rw [hfirst]
        rfl
  rw [hfold, hinit]

theorem getElem?_quotas (settings : List (QuotaScope × StorageQuota)) (scope : QuotaScope)
    (hids : ∀ setting ∈ settings, setting.1.slashFree = true) :
    (settings.foldl (fun (t : Table StorageQuota) e => t.insert (quotaKey e.1) e.2) ∅)[quotaKey scope]? =
      quotaOf settings scope := by
  induction settings using List.reverseRecOn with
  | nil => simp [quotaOf]
  | append_singleton settings setting ih =>
      rw [List.foldl_append, List.foldl_cons, List.foldl_nil, Std.ExtTreeMap.getElem?_insert]
      have hrest := ih fun e he => hids e (List.mem_append_left _ he)
      by_cases heq : setting.1 = scope
      · simp [heq, quotaOf]
      · have hne : quotaKey setting.1 ≠ quotaKey scope := fun h =>
          heq (quotaKey_inj (hids setting (by simp)) h)
        simpa [hne, heq, quotaOf] using hrest

/-- **Quotas are never exceeded.** Quotas are set at the start, for scopes whose ids have no slash, and
not changed any more. Then every project with a quota of its own stays within it, and so does every
org with a quota none of whose projects has one. -/
theorem within_quota_of_log (settings : List (QuotaScope × StorageQuota))
    (log : List StateMachineCommand) (r : Replica) (hinit : r.sm.storage = {})
    (hids : ∀ setting ∈ settings, setting.1.slashFree = true)
    (hlog : ∀ c ∈ Batch.leavesAll log, c.setsQuota = false) :
    ∀ scope q, quotaOf settings scope = some q →
      (∀ orgId, scope = .org orgId → ∀ projectId, quotaOf settings (.project orgId projectId) = none) →
      (applyLog (quotaLog settings ++ log) r).2.sm.storage.Within scope q := by
  intro scope q hquota hown
  have hstart : (applyLog (quotaLog settings ++ log) r).2 =
      (applyLog log (applyLog (quotaLog settings) r).2).2 := Batch.applyLog_append _ _ r
  rw [hstart]
  have hstorage := storage_quotaLog settings r hinit
  generalize (applyLog (quotaLog settings) r).2 = t at hstorage ⊢
  have hrun : Run applySingle t (executed log t) (applyLog log t).2 := Batch.run_executed log t
  have hinvariant := hrun.invariant
    (I := fun _ t => t.sm.storage.Governs scope q ∧ t.sm.storage.Within scope q)
    (C := fun _ e => e.action.setsQuota = false) ?_ ?_ (.of_forall ?_)
  · exact hinvariant.2
  · rw [hstorage]
    refine ⟨⟨?_, ?_⟩, ?_⟩
    · exact (getElem?_quotas settings scope hids).trans hquota
    · exact fun orgId horg projectId => (getElem?_quotas settings _ hids).trans (hown orgId horg projectId)
    · exact ⟨Nat.zero_le _, Nat.zero_le _, Nat.zero_le _⟩
  · rintro _ t c ⟨hgoverns, hwithin⟩ hc
    have heffect := effect_applySingle c t
    refine ⟨⟨?_, ?_⟩, hwithin.step hgoverns heffect⟩
    · rw [heffect.quotas hc]
      exact hgoverns.quota
    · rw [heffect.quotas hc]
      exact hgoverns.own
  · exact fun e he => hlog e.action (Batch.action_mem_of_mem_executed he)

/-- A project with room for two volumes, and commands that ask for three. -/
def threeVolumes : List StateMachineCommand :=
  [.single (.createVolume "vol-1" "a" 40 "org" "proj" "env" .data none none),
    .single (.createVolume "vol-2" "b" 40 "org" "proj" "env" .data none none),
    .single (.createVolume "vol-3" "c" 10 "org" "proj" "env" .data none none),
    .single (.resizeVolume "vol-1" 70)]

theorem within_quota_of_three_volumes :
    (applyLog (quotaLog [(.project "org" "proj", ⟨2, 100, 1⟩)] ++ threeVolumes)
      .fresh).2.sm.storage.Within (.project "org" "proj") ⟨2, 100, 1⟩ :=
  within_quota_of_log [(.project "org" "proj", ⟨2, 100, 1⟩)] threeVolumes .fresh rfl (by decide)
    (by decide) (.project "org" "proj") ⟨2, 100, 1⟩ (by decide) (by simp)

end Syfrah
