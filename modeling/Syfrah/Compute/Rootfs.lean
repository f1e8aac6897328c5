import Syfrah.Lib.Text

/-!
# The root file system of a container

An image archive, in the OCI layout or as `docker save` writes it, names its layers in order. The layers
are extracted one over the other. A file tree says what is at each path, and extracting an entry adds
its path or replaces it. What a reference in the archive stands for is given.
-/

namespace Syfrah

namespace Compute

abbrev Path := List String

abbrev FileTree (Node : Type) := Path → Option Node

abbrev Layer (Node : Type) := List (Path × Node)

structure ImageArchive (Node : Type) where
  /-- The digests or layer paths of the manifest, in order. -/
  layers : List String
  /-- The layer that a reference leads to, or why it is refused. -/
  resolve : String → Except String (Layer Node)

variable {Node : Type}

def findLayerTars (archive : ImageArchive Node) : Except String (List (Layer Node)) :=
  archive.layers.mapM archive.resolve

/-- `tar xf` into a directory, entry by entry. -/
def extractLayer (tree : FileTree Node) (layer : Layer Node) : FileTree Node :=
  layer.foldl (fun tree entry => Function.update tree entry.1 (some entry.2)) tree

def prepareRootfs (archive : ImageArchive Node) : Except String (FileTree Node) := do
  let layerTars ← findLayerTars archive
  if layerTars.isEmpty then throw "OCI/Docker image archive contains no layer tarballs"
  return layerTars.foldl extractLayer fun _ => none

end Compute

end Syfrah
