import Mathlib.Logic.Function.Basic
import Syfrah.Compute.Rootfs

/-!
# Whiteouts

In an image, an entry `.wh.x` of a layer removes `x` of the layers below, and `.wh..wh..opq` all that
they have in its directory. The extraction knows neither, so it gives the union of the layers just for
images that remove nothing.
-/

namespace Syfrah

namespace Compute

variable {Node : Type}

/-! ### The union of layers -/

def isWhiteout (path : Path) : Bool := path.getLast?.any fun name => Text.startsWith name ".wh."

/-- Whether an entry removes a path of the layers below. -/
def removes (entry path : Path) : Bool :=
  match entry.getLast? with
  | none => false
  | some name =>
    if name = ".wh..wh..opq" then entry.dropLast.isPrefixOf path && entry.dropLast.length < path.length
    else
      match Text.stripStart name ".wh." with
      | some removed => (entry.dropLast ++ [removed]).isPrefixOf path
      | none => false

/-- The last entry of a layer for a path. -/
def entryAt (layer : Layer Node) (path : Path) : Option Node :=
  (layer.reverse.find? (·.1 == path)).map (·.2)

/-- A layer over the ones below it, as the image specification has it. -/
def overlayLayer (below : FileTree Node) (layer : Layer Node) : FileTree Node := fun path =>
  if isWhiteout path then none
  else
    match entryAt layer path with
    | some node => some node
    | none => if layer.any (fun entry => removes entry.1 path) then none else below path

def unionOf (layers : List (Layer Node)) : FileTree Node := layers.foldl overlayLayer fun _ => none

/-! ### The extraction -/

theorem isWhiteout_of_removes {entry path : Path} (h : removes entry path = true) : isWhiteout entry = true := by
  unfold removes at h
  rw [isWhiteout]
  cases hlast : entry.getLast? with
  | none => simp [hlast] at h
  | some name =>
      rw [hlast] at h
      rw [Option.any_some]
      dsimp only at h
      split at h
      · rename_i hclears
        rw [hclears]
        decide
      · cases hstrip : Text.stripStart name ".wh." with
        | none => simp [hstrip] at h
        | some removed =>
            unfold Text.stripStart at hstrip
            split at hstrip
            · rename_i hstart
              exact hstart
            · cases hstrip

theorem extractLayer_apply (tree : FileTree Node) (layer : Layer Node) (path : Path) :
    extractLayer tree layer path = (entryAt layer path).or (tree path) := by
  induction layer using List.reverseRecOn with
  | nil => rfl
  | append_singleton layer entry ih =>
      rw [extractLayer, List.foldl_concat, entryAt, List.reverse_concat, List.find?_cons]
      by_cases hpath : path = entry.1
      · simp [hpath]
      · rw [Function.update_of_ne hpath, beq_false_of_ne (Ne.symm hpath)]
        exact ih

theorem entryAt_eq_none_iff {layer : Layer Node} {path : Path} :
    entryAt layer path = none ↔ ∀ entry ∈ layer, entry.1 ≠ path := by
  simp [entryAt]

/-- Without whiteouts, extracting a layer is laying it over. -/
theorem extractLayer_eq {layer : Layer Node} (h : ∀ entry ∈ layer, isWhiteout entry.1 = false)
    {tree : FileTree Node} (htree : ∀ path, isWhiteout path = true → tree path = none) :
    extractLayer tree layer = overlayLayer tree layer := by
  funext path
  rw [extractLayer_apply, overlayLayer]
  split
  · rename_i hwhiteout
    have hnone : entryAt layer path = none := by
      refine entryAt_eq_none_iff.mpr fun entry hentry heq => ?_
      rw [← heq, h entry hentry] at hwhiteout
      cases hwhiteout
    rw [hnone, Option.none_or, htree path hwhiteout]
  · have hkept : layer.any (fun entry => removes entry.1 path) = false := by
      refine List.any_eq_false.mpr fun entry hentry hremoves => ?_
      have hwhiteout := isWhiteout_of_removes hremoves
      rw [h entry hentry] at hwhiteout
      cases hwhiteout
    rw [hkept]
    cases entryAt layer path <;> rfl

theorem unionOf_eq_none (layers : List (Layer Node)) {path : Path} (h : isWhiteout path = true) :
    unionOf layers path = none := by
  induction layers using List.reverseRecOn with
  | nil => rfl
  | append_singleton layers layer _ => rw [unionOf, List.foldl_concat, overlayLayer, if_pos h]

theorem foldl_extractLayer_eq {layers : List (Layer Node)}
    (h : ∀ layer ∈ layers, ∀ entry ∈ layer, isWhiteout entry.1 = false) :
    layers.foldl extractLayer (fun _ => none) = unionOf layers := by
  induction layers using List.reverseRecOn with
  | nil => rfl
  | append_singleton layers layer ih =>
      have hbelow := ih fun other hother => h other (List.mem_append_left _ hother)
      rw [unionOf, List.foldl_concat, List.foldl_concat, hbelow]
      exact extractLayer_eq (h layer (List.mem_append_right _ (List.mem_singleton_self _)))
        fun path => unionOf_eq_none layers

/-- What is extracted stays. -/
theorem foldl_extractLayer_ne_none {layers : List (Layer Node)} {layer : Layer Node} (hlayer : layer ∈ layers)
    {entry : Path × Node} (hentry : entry ∈ layer) : layers.foldl extractLayer (fun _ => none) entry.1 ≠ none := by
  induction layers using List.reverseRecOn with
  | nil => cases hlayer
  | append_singleton layers last ih =>
      rw [List.foldl_concat, extractLayer_apply, ne_eq, Option.or_eq_none_iff]
      rintro ⟨hnone, htree⟩
      rcases List.mem_append.mp hlayer with hlayer | hlayer
      · exact ih hlayer htree
      · cases List.mem_singleton.mp hlayer
        exact entryAt_eq_none_iff.mp hnone entry hentry rfl

/-- **The root file system is the union of the layers** just when no layer has a whiteout. -/
theorem prepareRootfs_union_iff (archive : ImageArchive Node) (layers : List (Layer Node))
    (hlayers : findLayerTars archive = .ok layers) (rootfs : FileTree Node)
    (hrootfs : prepareRootfs archive = .ok rootfs) :
    rootfs = unionOf layers ↔ ∀ layer ∈ layers, ∀ entry ∈ layer, isWhiteout entry.1 = false := by
  obtain rfl : layers.foldl extractLayer (fun _ => none) = rootfs := by
    rw [prepareRootfs, hlayers] at hrootfs
    cases layers with
    | nil => cases hrootfs
    | cons first rest => exact Except.ok.inj hrootfs
  refine ⟨fun heq layer hlayer entry hentry => ?_, foldl_extractLayer_eq⟩
  by_contra hwhiteout
  rw [Bool.not_eq_false] at hwhiteout
  refine foldl_extractLayer_ne_none hlayer hentry ?_
  rw [heq, unionOf_eq_none layers hwhiteout]

/-- An image that adds a file. -/
def plainImage : ImageArchive String := ⟨["sha256:a"], fun _ => .ok [(["etc", "motd"], "hello")]⟩

theorem prepareRootfs_plain :
    ∃ rootfs, prepareRootfs plainImage = .ok rootfs ∧ rootfs = unionOf [[(["etc", "motd"], "hello")]] :=
  ⟨_, rfl, (prepareRootfs_union_iff plainImage [[(["etc", "motd"], "hello")]] rfl _ rfl).mpr (by decide)⟩

/-- An image whose second layer removes the file of the first. -/
def removingImage : ImageArchive String :=
  ⟨["sha256:a", "sha256:b"], fun digest =>
    .ok (if digest = "sha256:a" then [(["etc", "motd"], "hello")] else [(["etc", ".wh.motd"], "")])⟩

/-- **A removed file stays**, next to the whiteout that removes it. -/
theorem removed_file_stays :
    (prepareRootfs removingImage).toOption.map (fun rootfs => (rootfs ["etc", "motd"], rootfs ["etc", ".wh.motd"])) =
        some (some "hello", some "") ∧
      (findLayerTars removingImage).toOption.map (fun layers => unionOf layers ["etc", "motd"]) = some none := by
  decide

end Compute

end Syfrah
