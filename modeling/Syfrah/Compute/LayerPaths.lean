import Syfrah.Lib.Disk
import Syfrah.Lib.Text
import Syfrah.Lib.Tx

/-!
# Where the layers of an image archive are

The archive is unpacked into a staging directory. Its manifest names the layers by digests or by paths,
which nobody vouches for. The log of a run has the files that are read through a digest and those that
are given to `tar`. The disk does not change on the way; errors of the JSON reader are left out of the
messages.
-/

namespace Syfrah

namespace Compute

namespace Staging

inductive Json
  | null
  | str (value : String)
  | arr (values : List Json)
  | obj (fields : List (String × Json))

namespace Json

def get (field : String) : Json → Json
  | .obj fields => ((fields.find? (·.1 == field)).map (·.2)).getD .null
  | _ => .null

def asArray : Json → Option (List Json)
  | .arr values => some values
  | _ => none

def asStr : Json → Option String
  | .str value => some value
  | _ => none

end Json

/-- `Path::join`. -/
def join (base path : String) : String :=
  if Disk.isAbsolute path then path
  else if base = "" ∨ Text.endsWith base "/" then base ++ path
  else base ++ "/" ++ path

/-- The components of a path as it is written. -/
def lexical (path : String) : Disk.Location := (Disk.names path).filter fun name => name ≠ "" ∧ name ≠ "."

def safeJoinCheck (disk : Disk) (baseDir resolved untrusted : String) : Except String Unit :=
  let canonical := (disk.canonicalize resolved).getD (lexical resolved)
  let baseCanonical := (disk.canonicalize baseDir).getD (lexical baseDir)
  if baseCanonical <+: canonical then .ok () else .error s!"path traversal detected: {untrusted}"

def safeJoin (disk : Disk) (baseDir untrusted : String) : Except String String := do
  let joined := join baseDir untrusted
  safeJoinCheck disk baseDir joined untrusted
  return joined

def digestToBlobPath (disk : Disk) (stagingDir digest : String) : Except String String :=
  match Text.splitOnce ':' digest with
  | none => .error s!"invalid OCI digest format: {digest}"
  | some (algorithm, hex) => do
    let joined := join (join (join stagingDir "blobs") algorithm) hex
    safeJoinCheck disk stagingDir joined digest
    return joined

/-- A path that exists, or the error that says what does not. -/
def mustExist (disk : Disk) (what path : String) : Except String String :=
  if disk.pathExists path then .ok path else .error s!"referenced {what} does not exist: {path}"

abbrev Logged := Tx String (List String)

def log (path : String) : Logged Unit := Tx.write (· ++ [path])

def ofExcept {α : Type} (m : Except String α) : Logged α := fun log => (m, log)

def findOciLayoutLayers (disk : Disk) (parse : String → Option Json) (stagingDir : String) : Logged (List String) := do
  let indexData ← Tx.orThrow (disk.readToString (join stagingDir "index.json")) "failed to read OCI index.json"
  let index ← Tx.orThrow (parse indexData) "failed to parse OCI index.json"
  let descriptor ← Tx.orThrow ((index.get "manifests").asArray.bind (·.head?)) "OCI index.json has no manifest entries"
  let digest ← Tx.orThrow (descriptor.get "digest").asStr "OCI manifest descriptor has no digest"
  let blobPath ← ofExcept (digestToBlobPath disk stagingDir digest)
  let blobPath ← ofExcept (mustExist disk "manifest blob" blobPath)
  log blobPath
  let manifestData ← Tx.orThrow (disk.readToString blobPath) "failed to read OCI manifest blob"
  let manifest ← Tx.orThrow (parse manifestData) "failed to parse OCI manifest"
  let layers ← Tx.orThrow (manifest.get "layers").asArray "OCI manifest has no layers array"
  ofExcept (layers.mapM fun layer => do
    match (layer.get "digest").asStr with
    | none => .error "OCI manifest layer entry missing digest field"
    | some digest => mustExist disk "layer blob" (← digestToBlobPath disk stagingDir digest))

/-- The layers of an archive that `docker save` wrote. -/
def findDockerLayers (disk : Disk) (parse : String → Option Json) (stagingDir : String) : Except String (List String) := do
  match disk.readToString (join stagingDir "manifest.json") with
  | none => .error "failed to read Docker manifest.json"
  | some data =>
    match (parse data).bind Json.asArray with
    | none => .error "failed to parse Docker manifest.json"
    | some [] => .error "Docker manifest.json is an empty array"
    | some (manifest :: _) =>
      match (manifest.get "Layers").asArray with
      | none => .error "Docker manifest.json has no Layers array"
      | some layers => layers.mapM fun layer =>
        match layer.asStr with
        | none => .error "Docker manifest.json Layers entry is not a string"
        | some layer => do mustExist disk "layer blob" (← safeJoin disk stagingDir layer)

/-- The files `layer.tar` in the directories of the staging directory, whose names are listed. -/
def findFlatLayers (disk : Disk) (listing : List String) (stagingDir : String) : Except String (List String) :=
  let dirs := (listing.map (join stagingDir)).filter disk.isDir
  match (dirs.map (join · "layer.tar")).filter disk.pathExists with
  | [] => .error "unsupported archive format: no oci-layout, manifest.json, or layer.tar files found"
  | layerTars => .ok (layerTars.mergeSort fun a b => decide (a ≤ b))

def findLayerTars (disk : Disk) (parse : String → Option Json) (listing : List String) (stagingDir : String)
    (isOciLayout : Bool) : Logged (List String) :=
  if isOciLayout then findOciLayoutLayers disk parse stagingDir
  else if disk.pathExists (join stagingDir "manifest.json") then ofExcept (findDockerLayers disk parse stagingDir)
  else ofExcept (findFlatLayers disk listing stagingDir)

/-- The part of `prepare_rootfs` behind the unpacking of the archive. `untars` says for which layers `tar`
succeeds. An archive of another format is the root file system itself. -/
def stageRootfs (disk : Disk) (parse : String → Option Json) (listing : List String) (untars : String → Bool)
    (stagingDir : String) : Logged Unit := do
  let isOciLayout := disk.pathExists (join stagingDir "oci-layout")
  let isDockerSave := !isOciLayout && disk.pathExists (join stagingDir "manifest.json")
  if isOciLayout || isDockerSave then
    let layerTars ← findLayerTars disk parse listing stagingDir isOciLayout
    Tx.rejectIf layerTars.isEmpty "OCI/Docker image archive contains no layer tarballs"
    Tx.each (fun layerTar => do
      log layerTar
      Tx.rejectIf (!untars layerTar) s!"tar failed extracting layer {layerTar}") layerTars
  else return ()

end Staging

end Compute

end Syfrah
