import Syfrah.Lib.Text
import Syfrah.State.LayerDb

/-!
# The image store of a node

The raw disk images and OCI archives of a directory, with one metadata record per image in
`images.json`. An operation is a list of file operations; each is atomic, and a crash leaves the first
ones done. A download gives the contents of the file to be stored, unpacked, or fails. Records keep the
fields that are read; names are valid ones.
-/

namespace Syfrah

namespace Compute

inductive RuntimeMode
  | vm
  | container
deriving DecidableEq

structure ImageMeta where
  name : String
  sha256 : String
  containerSha256 : Option String
deriving DecidableEq

/-- What the catalog says of an image: checksums of the raw image and, if there is one, of the OCI archive. -/
structure CatalogEntry where
  sha256 : String
  containerSha256 : Option String

inductive ImageError
  | notInCatalog (name : String)
  | downloadFailed
  | checksumMismatch (expected actual : String)
  | imageNotFound (name : String)
  | imageInUse (name : String) (vmCount : ℕ)
deriving DecidableEq

structure ImageStore (Content : Type) where
  /-- The files `<name>.raw`. -/
  raw : Table Content
  /-- The files `<name>-oci.tar.gz`. -/
  oci : Table Content
  /-- Other entries of the directory. -/
  others : List String
  /-- `images.json`, if it is there. -/
  metadata : Option (List ImageMeta)

namespace ImageStore

variable {Content : Type}

def empty : ImageStore Content := ⟨∅, ∅, [], none⟩

/-- Without `images.json`, the raw images are looked up in the directory. -/
def readMetadata (s : ImageStore Content) : List ImageMeta :=
  s.metadata.getD (s.raw.keys.map fun name => ⟨name, "", none⟩)

def get (s : ImageStore Content) (name : String) : Option ImageMeta := s.readMetadata.find? (·.name == name)

def replaceMeta (name : String) (added : List ImageMeta) (s : ImageStore Content) : ImageStore Content :=
  { s with metadata := some (s.readMetadata.filter (·.name != name) ++ added) }

/-- An answer and the file operations on the way to it. -/
abbrev Plan (Content : Type) := Except ImageError Unit × List (ImageStore Content → ImageStore Content)

variable (digest : Content → String)

def pullOci (name : String) (entry : CatalogEntry) (containerSha : String) (download : Option Content) : Plan Content :=
  match download with
  | none => (.error .downloadFailed, [])
  | some content =>
    if digest content = containerSha then
      (.ok (), [fun s => { s with oci := s.oci.insert name content },
        replaceMeta name [⟨name, entry.sha256, some (digest content)⟩]])
    else (.error (.checksumMismatch containerSha (digest content)), [])

def pullInner (name : String) (entry : CatalogEntry) (download : Option Content) : Plan Content :=
  match download with
  | none => (.error .downloadFailed, [])
  | some content =>
    if digest content = entry.sha256 then
      (.ok (), [fun s => { s with raw := s.raw.insert name content },
        replaceMeta name [⟨name, digest content, entry.containerSha256⟩]])
    else (.error (.checksumMismatch entry.sha256 (digest content)), [])

def pull (s : ImageStore Content) (name : String) (entry : CatalogEntry) (download : Option Content) : Plan Content :=
  if (s.get name).any (·.sha256 == entry.sha256) then (.ok (), []) else pullInner digest name entry download

def pullForRuntime (s : ImageStore Content) (catalog : Table CatalogEntry) (name : String) (mode : RuntimeMode)
    (download : Option Content) : Plan Content :=
  match catalog[name]? with
  | none => (.error (.notInCatalog name), [])
  | some entry =>
    match mode, entry.containerSha256 with
    | .container, some containerSha =>
      -- the check is for the directory of the unpacked archive
      if (s.get name).any (·.containerSha256 == some containerSha) && s.others.contains s!"{name}-oci" then
        (.ok (), [])
      else pullOci digest name entry containerSha download
    | _, _ => pull digest s name entry download

def delete (s : ImageStore Content) (name : String) (vmRefs : Table ℕ) : Plan Content :=
  if (s.get name).isNone then (.error (.imageNotFound name), [])
  else
    match vmRefs[name]? with
    | some (count + 1) => (.error (.imageInUse name (count + 1)), [])
    | _ => (.ok (), [fun s => { s with raw := s.raw.erase name }, replaceMeta name []])

/-- A call on the store, and the number of file operations before a crash if there is one. -/
inductive Call (Content : Type)
  | pull (name : String) (mode : RuntimeMode) (download : Option Content)
  | delete (name : String) (vmRefs : Table ℕ)

def Call.plan (catalog : Table CatalogEntry) (s : ImageStore Content) : Call Content → Plan Content
  | .pull name mode download => pullForRuntime digest s catalog name mode download
  | .delete name vmRefs => s.delete name vmRefs

/-- Run a call to its end, or up to a crash, after which there is no answer. -/
def step (catalog : Table CatalogEntry) (call : Call Content × Option ℕ) (s : ImageStore Content) :
    Option (Except ImageError Unit) × ImageStore Content :=
  let (answer, writes) := call.1.plan digest catalog s
  match call.2 with
  | none => (some answer, writes.foldl (fun s write => write s) s)
  | some done => (none, (writes.take done).foldl (fun s write => write s) s)

end ImageStore

end Compute

end Syfrah
