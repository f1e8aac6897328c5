import Syfrah.Lib.InvertedIndex
import Syfrah.ControlPlane.Apply

/-!
# The tables of the storage mirror

The storage store repeats volumes, with two indexes from environments and hypervisors to volumes.
`Mirrors` says that its tables show some volumes: the volume table is their projection, and each
index lists every volume once, under its key. Writing a volume and deleting one keep that.
-/

namespace Syfrah

open StorageStore Replica

/-! ### Index tables -/

namespace StorageStore

variable {index : Index} {db : StorageDb} {ambient : Ambient} {key id : String}

def entry (db : StorageDb) : Index → String → Option (List String)
  | .env, key => db.get .volumesByEnv key
  | .hypervisor, key => db.get .volumesByHypervisor key

theorem indexed_eq (db : StorageDb) (index : Index) (key : String) :
    indexed db index key = (entry db index key).getD [] := by
  cases index <;> rfl

/-- A database with a new list under a key of an index, or none when the list is empty. -/
def putIndex (db : StorageDb) : Index → String → List String → StorageDb
  | .env, key, ids =>
      if ids.isEmpty then db.delete .volumesByEnv key else db.set .volumesByEnv key ids
  | .hypervisor, key, ids =>
      if ids.isEmpty then db.delete .volumesByHypervisor key
      else db.set .volumesByHypervisor key ids

theorem get_putIndex (ids : List String) (id : String) :
    (putIndex db index key ids).get .volumes id = db.get .volumes id := by
  cases index with
  | env =>
      simp only [putIndex]
      split
      · exact LayerDb.get_delete_of_ne db (by decide) key id
      · exact LayerDb.get_set_of_ne (t := .volumesByEnv) db (by decide) key id ids
  | hypervisor =>
      simp only [putIndex]
      split
      · exact LayerDb.get_delete_of_ne db (by decide) key id
      · exact LayerDb.get_set_of_ne (t := .volumesByHypervisor) db (by decide) key id ids

theorem entry_putIndex (ids : List String) (key' : String) :
    entry (putIndex db index key ids) index key' =
      if key = key' then (if ids.isEmpty then none else some ids) else entry db index key' := by
  cases index with
  | env =>
      simp only [putIndex]
      split
      · exact LayerDb.get_delete db .volumesByEnv key key'
      · exact LayerDb.get_set db StorageTable.volumesByEnv key key' ids
  | hypervisor =>
      simp only [putIndex]
      split
      · exact LayerDb.get_delete db .volumesByHypervisor key key'
      · exact LayerDb.get_set db StorageTable.volumesByHypervisor key key' ids

theorem entry_putIndex_of_ne {index' : Index} (h : index' ≠ index) (ids : List String)
    (key' : String) : entry (putIndex db index key ids) index' key' = entry db index' key' := by
  cases index with
  | env =>
      cases index' with
      | env => exact absurd rfl h
      | hypervisor =>
          simp only [putIndex]
          split
          · exact LayerDb.get_delete_of_ne db (by decide) key key'
          · exact LayerDb.get_set_of_ne (t := .volumesByEnv) db (by decide) key key' ids
  | hypervisor =>
      cases index' with
      | hypervisor => exact absurd rfl h
      | env =>
          simp only [putIndex]
          split
          · exact LayerDb.get_delete_of_ne db (by decide) key key'
          · exact LayerDb.get_set_of_ne (t := .volumesByHypervisor) db (by decide) key key' ids

theorem addToIndex_apply : addToIndex index key id (db, ambient) =
    (.ok (), (if id ∈ indexed db index key then db
      else putIndex db index key (indexed db index key ++ [id]), ambient)) := by
  change (if (indexed db index key).contains id then pure () else
    setIndex index key (indexed db index key ++ [id]) : StorageStoreM Unit) (db, ambient) = _
  by_cases hmem : id ∈ indexed db index key
  · rw [if_pos (by simpa using hmem), if_pos hmem]
    rfl
  · rw [if_neg (by simpa using hmem), if_neg hmem]
    have hne : (indexed db index key ++ [id]).isEmpty = false := by simp
    cases index <;> simp only [putIndex, hne, Bool.false_eq_true, if_false] <;> rfl

theorem removeFromIndex_apply : removeFromIndex index key id (db, ambient) =
    (.ok (), (putIndex db index key ((indexed db index key).filter fun id' => id' != id),
      ambient)) := by
  change (if ((indexed db index key).filter fun id' => id' != id).isEmpty then
      deleteIndex index key
    else setIndex index key ((indexed db index key).filter fun id' => id' != id) :
      StorageStoreM Unit) (db, ambient) = _
  generalize (indexed db index key).filter (fun id' => id' != id) = ids
  cases hempty : ids.isEmpty <;> cases index <;> simp only [putIndex, hempty] <;> rfl

theorem updateVolume_apply {vol old : Volume} (h : getVolume db vol.id = some old) :
    StorageStore.updateVolume vol (db, ambient) =
      (.ok (), (db.set .volumes vol.id vol, ambient)) := by
  change (Tx.rejectIf (!(getVolume db vol.id).isSome) (.notFound s!"volume '{vol.id}'") >>= fun _ =>
    dbSet .volumes vol.id vol : StorageStoreM Unit) (db, ambient) = _
  rw [h]
  rfl

theorem createVolume_apply {vol : Volume} (h : getVolume db vol.id = none) :
    StorageStore.createVolume vol (db, ambient) =
      addToEnvIndex vol.envId vol.id (db.set .volumes vol.id vol, ambient) := by
  change (Tx.rejectIf (getVolume db vol.id).isSome (.alreadyExists vol.id) >>= fun _ => do
    dbSet .volumes vol.id vol
    addToEnvIndex vol.envId vol.id : StorageStoreM Unit) (db, ambient) = _
  rw [h]
  rfl

def Tidy (db : StorageDb) : Prop := ∀ index key, entry db index key ≠ some []

structure Relists (db : StorageDb) (index : Index) (lists : String → List String)
    (db' : StorageDb) : Prop where
  volumes : ∀ id, db'.get .volumes id = db.get .volumes id
  lists : indexed db' index = lists
  others : ∀ index', index' ≠ index → indexed db' index' = indexed db index'
  tidy : Tidy db → Tidy db'

theorem relists_refl : Relists db index (indexed db index) db :=
  ⟨fun _ => rfl, rfl, fun _ _ => rfl, fun h => h⟩

theorem relists_putIndex (ids : List String) :
    Relists db index (Function.update (indexed db index) key ids) (putIndex db index key ids) := by
  refine ⟨get_putIndex ids, ?_, fun index' h => ?_, fun h index' key' => ?_⟩
  · funext key'
    rw [indexed_eq, entry_putIndex]
    by_cases hkey : key = key'
    · subst hkey
      cases ids <;> simp
    · rw [if_neg hkey, Function.update_of_ne (Ne.symm hkey), indexed_eq]
  · funext key'
    rw [indexed_eq, entry_putIndex_of_ne h, indexed_eq]
  · by_cases hindex : index' = index
    · subst hindex
      rw [entry_putIndex]
      by_cases hkey : key = key'
      · cases ids <;> simp [hkey]
      · rw [if_neg hkey]
        exact h index' key'
    · rw [entry_putIndex_of_ne hindex]
      exact h index' key'

theorem Relists.trans {lists lists' : String → List String} {db₁ db₂ : StorageDb}
    (h : Relists db index lists db₁) (h' : Relists db₁ index lists' db₂) :
    Relists db index lists' db₂ :=
  ⟨fun id => (h'.volumes id).trans (h.volumes id), h'.lists,
    fun index' hne => (h'.others index' hne).trans (h.others index' hne),
    fun ht => h'.tidy (h.tidy ht)⟩

theorem addToIndex_run (index : Index) (key id : String) (db : StorageDb) (ambient : Ambient) :
    ∃ db', addToIndex index key id (db, ambient) = (.ok (), (db', ambient)) ∧
    Relists db index (InvertedIndex.add (indexed db index) key id) db' := by
  refine ⟨_, addToIndex_apply, ?_⟩
  unfold InvertedIndex.add
  by_cases hmem : id ∈ indexed db index key
  · rw [if_pos hmem, if_pos hmem, Function.update_eq_self]
    exact relists_refl
  · rw [if_neg hmem, if_neg hmem]
    exact relists_putIndex _

theorem removeFromIndex_run (index : Index) (key id : String) (db : StorageDb)
    (ambient : Ambient) : ∃ db',
    removeFromIndex index key id (db, ambient) = (.ok (), (db', ambient)) ∧
    Relists db index (InvertedIndex.remove (indexed db index) key id) db' :=
  ⟨_, removeFromIndex_apply, relists_putIndex _⟩

end StorageStore

/-! ### The mirror -/

/-- A stored volume repeats a record, apart from its two timestamps. -/
def Repeats (vol : VolumeRecord) (stored : StorageStore.Volume) : Prop :=
  stored = storeVolume vol stored.createdAt stored.updatedAt

def envKey (volumes : Table VolumeRecord) (id : VolumeId) : Option String :=
  (volumes[id]?).map (·.envId)

def hypervisorKey (volumes : Table VolumeRecord) (id : VolumeId) : Option String :=
  (volumes[id]?).bind (·.attachedHypervisorId)

/-- The volume table and the two indexes of a database mirror some volumes. -/
structure Mirrors (volumes : Table VolumeRecord) (db : StorageDb) : Prop where
  key : ∀ (id : VolumeId) vol, volumes[id]? = some vol → vol.id = id
  volume : ∀ id : VolumeId, Option.Rel Repeats volumes[id]? (getVolume db id)
  env : Indexes (indexed db .env) (envKey volumes)
  hypervisor : Indexes (indexed db .hypervisor) (hypervisorKey volumes)
  tidy : Tidy db

section Updates

variable {volumes : Table VolumeRecord} {db : StorageDb} {ambient : Ambient}

theorem envKey_insert (volumes : Table VolumeRecord) (id : VolumeId) (vol : VolumeRecord) :
    envKey (volumes.insert id vol) = Function.update (envKey volumes) id (some vol.envId) := by
  funext id'
  by_cases hid : id' = id
  · simp [envKey, hid]
  · simp [envKey, Function.update_of_ne hid, Std.ExtTreeMap.getElem?_insert, Ne.symm hid]

theorem hypervisorKey_insert (volumes : Table VolumeRecord) (id : VolumeId) (vol : VolumeRecord) :
    hypervisorKey (volumes.insert id vol) =
      Function.update (hypervisorKey volumes) id vol.attachedHypervisorId := by
  funext id'
  by_cases hid : id' = id
  · simp [hypervisorKey, hid]
  · simp [hypervisorKey, Function.update_of_ne hid, Std.ExtTreeMap.getElem?_insert, Ne.symm hid]

theorem envKey_erase (volumes : Table VolumeRecord) (id : VolumeId) :
    envKey (volumes.erase id) = Function.update (envKey volumes) id none := by
  funext id'
  by_cases hid : id' = id
  · simp [envKey, hid]
  · simp [envKey, Function.update_of_ne hid, Std.ExtTreeMap.getElem?_erase, Ne.symm hid]

theorem hypervisorKey_erase (volumes : Table VolumeRecord) (id : VolumeId) :
    hypervisorKey (volumes.erase id) = Function.update (hypervisorKey volumes) id none := by
  funext id'
  by_cases hid : id' = id
  · simp [hypervisorKey, hid]
  · simp [hypervisorKey, Function.update_of_ne hid, Std.ExtTreeMap.getElem?_erase, Ne.symm hid]

theorem update_same {κ : Type} {key : String → Option κ} {id : String} {k : Option κ}
    (h : key id = k) : Function.update key id k = key := by
  rw [← h, Function.update_eq_self]

section Attachments

variable {key : String → Option String} {id : String}

theorem removeAttachment_run (h : Indexes (indexed db .hypervisor) key) (id : String)
    (ambient : Ambient) :
    ∃ db', removeAttachment (key id) id (db, ambient) = (.ok (), (db', ambient)) ∧
      Relists db .hypervisor (indexed db' .hypervisor) db' ∧
      Indexes (indexed db' .hypervisor) (Function.update key id none) := by
  cases hkey : key id with
  | none =>
      rw [update_same hkey]
      exact ⟨db, rfl, relists_refl, h⟩
  | some hv =>
      obtain ⟨db', hrun, hlists⟩ := removeFromIndex_run .hypervisor hv id db ambient
      refine ⟨db', hrun, hlists.lists ▸ hlists, ?_⟩
      rw [hlists.lists]
      exact h.remove hkey

theorem addAttachment_run (h : Indexes (indexed db .hypervisor) key) (hkey : key id = none)
    (newHv : Option String) (ambient : Ambient) :
    ∃ db', addAttachment newHv id (db, ambient) = (.ok (), (db', ambient)) ∧
      Relists db .hypervisor (indexed db' .hypervisor) db' ∧
      Indexes (indexed db' .hypervisor) (Function.update key id newHv) := by
  cases newHv with
  | none =>
      rw [update_same hkey]
      exact ⟨db, rfl, relists_refl, h⟩
  | some hv =>
      obtain ⟨db', hrun, hlists⟩ := addToIndex_run .hypervisor hv id db ambient
      refine ⟨db', hrun, hlists.lists ▸ hlists, ?_⟩
      rw [hlists.lists]
      exact h.add hkey

theorem moveAttachment_run (h : Indexes (indexed db .hypervisor) key) (newHv : Option String)
    (id : String) (ambient : Ambient) :
    ∃ db', moveAttachment (key id) newHv id (db, ambient) = (.ok (), (db', ambient)) ∧
      Relists db .hypervisor (indexed db' .hypervisor) db' ∧
      Indexes (indexed db' .hypervisor) (Function.update key id newHv) := by
  unfold moveAttachment
  by_cases hsame : key id = newHv
  · rw [if_pos hsame, update_same hsame]
    exact ⟨db, rfl, relists_refl, h⟩
  · rw [if_neg hsame]
    obtain ⟨db₁, hrun₁, hlists₁, hindex₁⟩ := removeAttachment_run h id ambient
    obtain ⟨db₂, hrun₂, hlists₂, hindex₂⟩ := addAttachment_run hindex₁
      (Function.update_self id none key) newHv ambient
    refine ⟨db₂, (Tx.bind_apply_ok hrun₁).trans hrun₂, hlists₁.trans hlists₂, ?_⟩
    rwa [Function.update_idem] at hindex₂

end Attachments

theorem entry_set (vol : StorageStore.Volume) (index : Index) (id key : String) :
    entry (db.set .volumes id vol) index key = entry db index key := by
  cases index with
  | env => exact LayerDb.get_set_of_ne (t := .volumes) db (by decide) id key vol
  | hypervisor => exact LayerDb.get_set_of_ne (t := .volumes) db (by decide) id key vol

theorem indexed_set (vol : StorageStore.Volume) (index : Index) (id : String) :
    indexed (db.set .volumes id vol) index = indexed db index := by
  funext key
  rw [indexed_eq, entry_set, indexed_eq]

theorem tidy_set (vol : StorageStore.Volume) (id : String) (h : Tidy db) :
    Tidy (db.set .volumes id vol) := by
  intro index key
  rw [entry_set]
  exact h index key

theorem volume_insert {vol : VolumeRecord} {stored : StorageStore.Volume} {db' : StorageDb}
    (h : Mirrors volumes db) (hsame : ∀ id, db'.get .volumes id = db.get .volumes id)
    (hstored : Repeats vol stored) (id : VolumeId) :
    Option.Rel Repeats (volumes.insert vol.id vol)[id]?
      (getVolume (db'.set .volumes vol.id stored) id) := by
  rw [getVolume, LayerDb.get_set, Std.ExtTreeMap.getElem?_insert]
  by_cases hid : vol.id = id
  · simpa [hid] using hstored
  · rw [if_neg hid, hsame]
    simpa [hid, getVolume] using h.volume id

theorem key_insert {vol : VolumeRecord} (h : Mirrors volumes db) (id : VolumeId)
    (vol' : VolumeRecord) (hget : (volumes.insert vol.id vol)[id]? = some vol') : vol'.id = id := by
  rw [Std.ExtTreeMap.getElem?_insert] at hget
  by_cases hid : vol.id = id
  · obtain rfl : vol = vol' := by simpa [hid] using hget
    exact hid
  · exact h.key id vol' (by simpa [hid] using hget)

theorem Mirrors.none_iff (h : Mirrors volumes db) (id : VolumeId) :
    getVolume db id = none ↔ volumes[id]? = none := by
  have hrel := h.volume id
  constructor
  · intro hnone
    rw [hnone] at hrel
    generalize volumes[id]? = entry at hrel
    cases hrel
    rfl
  · intro hnone
    rw [hnone] at hrel
    generalize getVolume db id = stored at hrel
    cases hrel
    rfl

theorem Mirrors.some_iff (h : Mirrors volumes db) {id : VolumeId} {stored : StorageStore.Volume}
    (hget : getVolume db id = some stored) : ∃ vol, volumes[id]? = some vol ∧ Repeats vol stored := by
  have hrel := h.volume id
  rw [hget] at hrel
  generalize volumes[id]? = entry at hrel
  cases hrel with
  | some hrepeats => exact ⟨_, rfl, hrepeats⟩

theorem Mirrors.attached (h : Mirrors volumes db) (id : VolumeId) :
    (getVolume db id).bind (·.attachedHypervisorId) = hypervisorKey volumes id := by
  unfold hypervisorKey
  cases hget : getVolume db id with
  | none => rw [(h.none_iff id).mp hget]; rfl
  | some stored =>
      obtain ⟨vol, hvol, hrepeats⟩ := h.some_iff hget
      rw [hvol]
      exact congrArg Volume.attachedHypervisorId hrepeats

/-- **Writing a volume.** The record is stored, and its index entries move along with it; its
environment does not change. -/
theorem Mirrors.upsertVolume {vol : VolumeRecord} (h : Mirrors volumes db)
    (henv : ∀ old, volumes[vol.id]? = some old → old.envId = vol.envId) (ambient : Ambient) :
    Mirrors (volumes.insert vol.id vol) (Replica.upsertVolume vol (db, ambient)).2.1 := by
  obtain ⟨db₁, hrun, hmoved, hindex⟩ := moveAttachment_run h.hypervisor vol.attachedHypervisorId
    vol.id ambient.nowSecs.2
  rw [← hypervisorKey_insert volumes vol.id vol] at hindex
  have htidy := hmoved.tidy h.tidy
  have henvs : indexed db₁ .env = indexed db .env := hmoved.others .env (by decide)
  change Mirrors _ ((moveAttachment ((getVolume db vol.id).bind (·.attachedHypervisorId))
    vol.attachedHypervisorId vol.id >>= _) (db, ambient.nowSecs.2)).2.1
  rw [h.attached, Tx.bind_apply_ok hrun]
  have hget₁ : getVolume db₁ vol.id = getVolume db vol.id := hmoved.volumes vol.id
  have hvolume := fun stored (hstored : Repeats vol stored) =>
    volume_insert h hmoved.volumes hstored
  cases hget : getVolume db vol.id with
  | some old =>
      obtain ⟨oldVol, hold, -⟩ := h.some_iff hget
      have hkept : Function.update (envKey volumes) vol.id (some vol.envId) = envKey volumes := by
        apply update_same
        rw [envKey, hold, Option.map_some, henv oldVol hold]
      have hexists : getVolume db₁ (storeVolume vol old.createdAt ambient.nowSecs.1).id = some old :=
        hget₁.trans hget
      simp only [hget, updateVolume_apply hexists]
      refine ⟨key_insert h, hvolume _ rfl, ?_, ?_, tidy_set _ _ htidy⟩
      · rw [indexed_set, henvs, envKey_insert, hkept]
        exact h.env
      · rw [indexed_set]
        exact hindex
  | none =>
      have hfresh : envKey volumes vol.id = none := by
        rw [envKey, (h.none_iff vol.id).mp hget, Option.map_none]
      have hexists : getVolume db₁ (storeVolume vol ambient.nowSecs.1 ambient.nowSecs.1).id = none :=
        hget₁.trans hget
      simp only [hget, createVolume_apply hexists]
      obtain ⟨db₂, hadd, hlisted⟩ := addToIndex_run .env vol.envId vol.id
        (db₁.set .volumes vol.id (storeVolume vol ambient.nowSecs.1 ambient.nowSecs.1))
        ambient.nowSecs.2
      change Mirrors _ (addToIndex .env vol.envId vol.id
        (db₁.set .volumes vol.id (storeVolume vol ambient.nowSecs.1 ambient.nowSecs.1),
          ambient.nowSecs.2)).2.1
      rw [hadd]
      refine ⟨key_insert h, fun id => ?_, ?_, ?_, hlisted.tidy (tidy_set _ _ htidy)⟩
      · rw [getVolume, hlisted.volumes]
        exact hvolume (storeVolume vol ambient.nowSecs.1 ambient.nowSecs.1) rfl id
      · rw [hlisted.lists, indexed_set, henvs, envKey_insert]
        exact h.env.add hfresh
      · rw [hlisted.others .hypervisor (by decide), indexed_set]
        exact hindex

theorem deleteVolume_apply {id : String} {stored : StorageStore.Volume} {db₁ db₂ : StorageDb}
    (hget : getVolume db id = some stored)
    (henv : removeFromIndex .env stored.envId id (db, ambient) = (.ok (), (db₁, ambient)))
    (hattached : removeAttachment stored.attachedHypervisorId id (db₁, ambient) =
      (.ok (), (db₂, ambient))) :
    (StorageStore.deleteVolume id (db, ambient)).2.1 =
      (db₂.delete .volumes id).delete .manifestPointers id := by
  change ((Tx.orThrow (getVolume db id) (.notFound s!"volume '{id}'") >>= fun vol => do
    removeFromEnvIndex vol.envId id
    removeAttachment vol.attachedHypervisorId id
    let _ ← dbDelete .volumes id
    let _ ← dbDelete .manifestPointers id : StorageStoreM Unit) (db, ambient)).2.1 = _
  rw [hget]
  change ((removeFromIndex .env stored.envId id >>= fun _ => do
    removeAttachment stored.attachedHypervisorId id
    let _ ← dbDelete .volumes id
    let _ ← dbDelete .manifestPointers id : StorageStoreM Unit) (db, ambient)).2.1 = _
  rw [Tx.bind_apply_ok henv, Tx.bind_apply_ok hattached]
  rfl

theorem entry_delete (index : Index) (id key : String) :
    entry ((db.delete .volumes id).delete .manifestPointers id) index key = entry db index key := by
  cases index with
  | env =>
      exact (LayerDb.get_delete_of_ne _ (by decide) id key).trans
        (LayerDb.get_delete_of_ne db (by decide) id key)
  | hypervisor =>
      exact (LayerDb.get_delete_of_ne _ (by decide) id key).trans
        (LayerDb.get_delete_of_ne db (by decide) id key)

theorem getVolume_delete (id id' : String) :
    getVolume ((db.delete .volumes id).delete .manifestPointers id) id' =
      if id = id' then none else getVolume db id' :=
  (LayerDb.get_delete_of_ne _ (by decide) id id').trans (LayerDb.get_delete db .volumes id id')

/-- **Deleting a volume** takes it out of the table and of both indexes. -/
theorem Mirrors.deleteVolume (h : Mirrors volumes db) (id : VolumeId) (ambient : Ambient) :
    Mirrors (volumes.erase id) (StorageStore.deleteVolume id (db, ambient)).2.1 := by
  cases hget : getVolume db id with
  | none =>
      have hnone : volumes[id]? = none := (h.none_iff id).mp hget
      have hsame : volumes.erase id = volumes := by
        apply Std.ExtTreeMap.ext_getElem?
        intro id'
        by_cases hid : id = id'
        · subst hid
          simp [hnone]
        · simp [Std.ExtTreeMap.getElem?_erase, hid]
      have hrun : (StorageStore.deleteVolume id (db, ambient)).2.1 = db := by
        change ((Tx.orThrow (getVolume db id) (.notFound s!"volume '{id}'") >>= fun vol => do
          removeFromEnvIndex vol.envId id
          removeAttachment vol.attachedHypervisorId id
          let _ ← dbDelete .volumes id
          let _ ← dbDelete .manifestPointers id : StorageStoreM Unit) (db, ambient)).2.1 = _
        rw [hget]
        rfl
      rw [hrun, hsame]
      exact h
  | some stored =>
      obtain ⟨vol, hvol, hrepeats⟩ := h.some_iff hget
      have henvKey : envKey volumes id = some stored.envId := by
        rw [envKey, hvol, Option.map_some]
        exact congrArg (some ·.envId) hrepeats.symm
      have hhvKey : hypervisorKey volumes id = stored.attachedHypervisorId := by
        rw [hypervisorKey, hvol, Option.bind_some]
        exact congrArg Volume.attachedHypervisorId hrepeats.symm
      obtain ⟨db₁, hrun₁, hlists₁⟩ := removeFromIndex_run .env stored.envId id db ambient
      have hhypervisor₁ : Indexes (indexed db₁ .hypervisor) (hypervisorKey volumes) := by
        rw [hlists₁.others .hypervisor nofun]
        exact h.hypervisor
      obtain ⟨db₂, hrun₂, hlists₂, hindex₂⟩ := removeAttachment_run hhypervisor₁ id ambient
      rw [hhvKey] at hrun₂
      rw [deleteVolume_apply hget hrun₁ hrun₂]
      have hentries : ∀ index, indexed ((db₂.delete .volumes id).delete .manifestPointers id) index =
          indexed db₂ index := by
        intro index
        funext key
        rw [indexed_eq, entry_delete, indexed_eq]
      refine ⟨fun id' vol' hget' => ?_, fun id' => ?_, ?_, ?_, fun index key => ?_⟩
      · rw [Std.ExtTreeMap.getElem?_erase] at hget'
        split at hget'
        · cases hget'
        · exact h.key id' vol' hget'
      · have hstored : getVolume db₂ id' = getVolume db id' :=
          (hlists₂.volumes id').trans (hlists₁.volumes id')
        rw [getVolume_delete, Std.ExtTreeMap.getElem?_erase, hstored]
        by_cases hid : id = id'
        · simp [hid]
        · simpa [hid] using h.volume id'
      · rw [hentries, hlists₂.others .env nofun, hlists₁.lists, envKey_erase]
        exact h.env.remove henvKey
      · rw [hentries, hypervisorKey_erase]
        exact hindex₂
      · rw [entry_delete]
        exact hlists₂.tidy (hlists₁.tidy h.tidy) index key

end Updates

end Syfrah
