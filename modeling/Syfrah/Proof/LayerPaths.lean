import Syfrah.Compute.LayerPaths
import Syfrah.Lib.Except

/-!
# Layers stay inside the staging directory

The test of a path compares names when the path does not exist, and then says nothing about where links
lead. Every route to a layer asks after it whether the path exists, and only what does is used.
-/

namespace Syfrah

namespace Compute

namespace Staging

variable {disk : Disk} {parse : String → Option Json} {stagingDir path untrusted : String} {base : Disk.Location}
  {paths used : List String}

/-- The path leads to a place below the staging directory, with all links followed. -/
def Inside (disk : Disk) (stagingDir path : String) : Prop :=
  ∃ base found, disk.canonicalize stagingDir = some base ∧ disk.canonicalize path = some found ∧
    base <+: found ∧ disk.Physical found

theorem mustExist_eq_ok {what found : String} (h : mustExist disk what path = .ok found) :
    found = path ∧ disk.pathExists path = true := by
  rw [mustExist] at h
  split at h
  · exact ⟨(Except.ok.inj h).symm, ‹_›⟩
  · cases h

/-- The test and the existence of the path together. -/
theorem inside_of_check (hstaging : disk.canonicalize stagingDir = some base)
    (hcheck : safeJoinCheck disk stagingDir path untrusted = .ok ()) (hexists : disk.pathExists path = true) :
    Inside disk stagingDir path := by
  obtain ⟨found, hfound⟩ := Option.isSome_iff_exists.mp hexists
  rw [safeJoinCheck, hfound, hstaging] at hcheck
  split at hcheck
  case isTrue hinitial => exact ⟨base, found, hstaging, hfound, hinitial, Disk.canonicalize_physical hfound⟩
  case isFalse => cases hcheck

theorem safeJoin_eq_ok (h : safeJoin disk stagingDir untrusted = .ok path) :
    safeJoinCheck disk stagingDir path untrusted = .ok () := by
  obtain ⟨⟨⟩, hcheck, heq⟩ := except_bind_eq_ok.mp h
  cases heq
  exact hcheck

theorem digestToBlobPath_eq_ok (h : digestToBlobPath disk stagingDir untrusted = .ok path) :
    safeJoinCheck disk stagingDir path untrusted = .ok () := by
  rw [digestToBlobPath] at h
  split at h
  · cases h
  · obtain ⟨⟨⟩, hcheck, heq⟩ := except_bind_eq_ok.mp h
    cases heq
    exact hcheck

theorem forall_of_mapM {α β ε : Type} {f : α → Except ε β} {P : β → Prop} {as : List α} {bs : List β}
    (hf : ∀ a b, f a = .ok b → P b) (h : as.mapM f = .ok bs) : ∀ b ∈ bs, P b := by
  induction as generalizing bs with
  | nil =>
      cases h
      exact nofun
  | cons a as ih =>
      rw [List.mapM_cons] at h
      obtain ⟨b, hb, hrest⟩ := except_bind_eq_ok.mp h
      obtain ⟨bs, hbs, heq⟩ := except_bind_eq_ok.mp hrest
      cases heq
      exact List.forall_mem_cons.mpr ⟨hf a b hb, ih hbs⟩

theorem findDockerLayers_inside (hstaging : disk.canonicalize stagingDir = some base)
    (h : findDockerLayers disk parse stagingDir = .ok paths) : ∀ path ∈ paths, Inside disk stagingDir path := by
  rw [findDockerLayers] at h
  split at h
  · cases h
  · split at h
    case h_1 | h_2 => cases h
    case h_3 =>
      split at h
      · cases h
      · refine forall_of_mapM (fun layer path hpath => ?_) h
        split at hpath
        · cases hpath
        · obtain ⟨joined, hjoined, hmust⟩ := except_bind_eq_ok.mp hpath
          obtain ⟨rfl, hexists⟩ := mustExist_eq_ok hmust
          exact inside_of_check hstaging (safeJoin_eq_ok hjoined) hexists

theorem ensures_ofExcept {α β : Type} {m : Except String α} {k : α → Logged β}
    {post : Except String β → List String → Prop} (herror : ∀ e, post (.error e) used)
    (hok : ∀ a, m = .ok a → Tx.Ensures (k a) used post) : Tx.Ensures (ofExcept m >>= k) used post := by
  cases m with
  | error e => exact herror e
  | ok a => exact hok a rfl

theorem findOciLayoutLayers_inside (hstaging : disk.canonicalize stagingDir = some base)
    (hused : ∀ path ∈ used, Inside disk stagingDir path) :
    Tx.Ensures (findOciLayoutLayers disk parse stagingDir) used fun r used =>
      (∀ path ∈ used, Inside disk stagingDir path) ∧
        ∀ paths, r = .ok paths → ∀ path ∈ paths, Inside disk stagingDir path := by
  have hfailed : ∀ e : String, (∀ path ∈ used, Inside disk stagingDir path) ∧
      ∀ paths, (.error e : Except String (List String)) = .ok paths →
        ∀ path ∈ paths, Inside disk stagingDir path := fun e => ⟨hused, nofun⟩
  rw [findOciLayoutLayers]
  refine .orThrow (fun _ => hfailed _) fun indexData _ => .orThrow (fun _ => hfailed _) fun index _ =>
    .orThrow (fun _ => hfailed _) fun descriptor _ => .orThrow (fun _ => hfailed _) fun digest _ => ?_
  refine ensures_ofExcept hfailed fun joined hjoined => ensures_ofExcept hfailed fun blobPath hblob => ?_
  obtain ⟨rfl, hexists⟩ := mustExist_eq_ok hblob
  have hblobPath := inside_of_check hstaging (digestToBlobPath_eq_ok hjoined) hexists
  have hlogged : ∀ path ∈ used ++ [blobPath], Inside disk stagingDir path :=
    List.forall_mem_append.mpr ⟨hused, List.forall_mem_singleton.mpr hblobPath⟩
  refine .write (.orThrow (fun _ => ⟨hlogged, nofun⟩) fun manifestData _ => .orThrow (fun _ => ⟨hlogged, nofun⟩)
    fun manifest _ => .orThrow (fun _ => ⟨hlogged, nofun⟩) fun layers _ => ?_)
  refine ⟨hlogged, fun paths hpaths => forall_of_mapM (fun layer path hpath => ?_) hpaths⟩
  split at hpath
  · cases hpath
  · obtain ⟨joined, hjoined, hmust⟩ := except_bind_eq_ok.mp hpath
    obtain ⟨rfl, hexists⟩ := mustExist_eq_ok hmust
    exact inside_of_check hstaging (digestToBlobPath_eq_ok hjoined) hexists

/-- Only layers are added to the log. -/
theorem extracted_inside {untars : String → Bool} (hused : ∀ path ∈ used, Inside disk stagingDir path)
    (hlayers : ∀ path ∈ paths, Inside disk stagingDir path) :
    Tx.Ensures (Tx.each (fun layerTar => do
      log layerTar
      Tx.rejectIf (!untars layerTar) s!"tar failed extracting layer {layerTar}") paths) used
      fun _ used => ∀ path ∈ used, Inside disk stagingDir path := by
  induction paths generalizing used with
  | nil => exact hused
  | cons layerTar paths ih =>
      obtain ⟨hlayer, hlayers⟩ := List.forall_mem_cons.mp hlayers
      have hlogged : ∀ path ∈ used ++ [layerTar], Inside disk stagingDir path :=
        List.forall_mem_append.mpr ⟨hused, List.forall_mem_singleton.mpr hlayer⟩
      have hone : Tx.Ensures (do
          log layerTar
          Tx.rejectIf (!untars layerTar) s!"tar failed extracting layer {layerTar}") used
          fun _ used => ∀ path ∈ used, Inside disk stagingDir path := by
        refine .write ?_
        rw [Tx.rejectIf]
        split <;> exact hlogged
      exact hone.bind (fun _ _ hafter => ih hafter hlayers) fun _ _ hafter => hafter

/-- **Whatever the archive contains**, the manifest that is read through a digest and every layer given to
`tar` are inside the staging directory. -/
theorem layers_stay_inside (disk : Disk) (parse : String → Option Json) (listing : List String)
    (untars : String → Bool) (stagingDir : String) (hstaging : (disk.canonicalize stagingDir).isSome) :
    ∀ path ∈ (stageRootfs disk parse listing untars stagingDir []).2, Inside disk stagingDir path := by
  obtain ⟨base, hbase⟩ := Option.isSome_iff_exists.mp hstaging
  suffices h : Tx.Ensures (stageRootfs disk parse listing untars stagingDir) [] fun _ used =>
      ∀ path ∈ used, Inside disk stagingDir path from h
  rw [stageRootfs]
  split
  case isFalse => exact nofun
  case isTrue hformat =>
    have hfind : Tx.Ensures (findLayerTars disk parse listing stagingDir
        (disk.pathExists (join stagingDir "oci-layout"))) [] fun r used =>
          (∀ path ∈ used, Inside disk stagingDir path) ∧
            ∀ paths, r = .ok paths → ∀ path ∈ paths, Inside disk stagingDir path := by
      rw [findLayerTars]
      split
      · exact findOciLayoutLayers_inside hbase nofun
      · -- without the layout file there is a manifest, and the directories are not searched
        rename_i hlayout
        rw [if_pos (by simpa [hlayout] using hformat)]
        exact ⟨nofun, fun paths hpaths => findDockerLayers_inside hbase hpaths⟩
    refine hfind.bind (fun layerTars used hafter => ?_) fun _ _ hafter => hafter.1
    obtain ⟨hused, hlayers⟩ := hafter
    refine .rejectIf (fun _ => hused) fun _ => extracted_inside hused (hlayers layerTars rfl)

/-- An archive with one layer, which is a link. -/
def linkedLayer : Disk where
  node
    | [] | ["s"] => some .dir
    | ["s", "manifest.json"] => some (.file "manifest")
    | ["s", "layer.tar"] => some (.link "../s/data.tar")
    | ["s", "data.tar"] => some (.file "data")
    | _ => none
  root := rfl

def linkedManifest (_ : String) : Option Json := some (.arr [.obj [("Layers", .arr [.str "layer.tar"])]])

theorem layers_stay_inside_link :
    (stageRootfs linkedLayer linkedManifest [] (fun _ => true) "/s" []).2 = ["/s/layer.tar"] ∧
      ∀ path ∈ (stageRootfs linkedLayer linkedManifest [] (fun _ => true) "/s" []).2, Inside linkedLayer "/s" path :=
  ⟨by decide +kernel, layers_stay_inside linkedLayer linkedManifest [] (fun _ => true) "/s" (by decide +kernel)⟩

end Staging

end Compute

end Syfrah
