import Mathlib.Data.String.Basic
import Syfrah.Forge.Gc

/-!
# A cycle of the garbage collector and the bucket

The object store lists the first 1000 keys under a text, in the order of the texts, and all deletions
succeed. No restore is in progress, and the replicated state does not change.
-/

namespace Syfrah

namespace Gc

/-- The keys of a bucket, in the order the object store lists them. -/
structure Bucket where
  keys : List String
  sorted : keys.Pairwise (· < ·)

def Bucket.delete (bucket : Bucket) (key : String) : Bucket :=
  ⟨bucket.keys.filter (· != key), bucket.sorted.filter _⟩

def maxKeys : ℕ := 1000

/-- One request to list the keys that start with a text; the rest of them is not asked for. -/
def listS3Objects (bucket : Bucket) (start : String) : List String :=
  (bucket.keys.filter fun key => Text.startsWith key start).take maxKeys

/-- What a cycle reads: the bound on WAL positions and the generation of each volume. -/
structure Retained where
  minWalPosition : Option ℕ
  volumeGenerations : List (String × ℕ)
  gracePeriod : ℕ

/-- The bucket, and when the worker first saw each orphaned generation. -/
structure GcState where
  bucket : Bucket
  orphanedGenFirstSeen : Table ℕ

/-! ### WAL segments -/

def walStart : String := "wal/segment-"

def walCollectable (r : Retained) (key : String) : Bool :=
  match r.minWalPosition, segmentPosition key with
  | some minPos, some position => position < minPos
  | _, _ => false

def visitSegment (r : Retained) (s : GcState) (key : String) : GcState :=
  if walCollectable r key then { s with bucket := s.bucket.delete key } else s

def gcWalSegments (r : Retained) (s : GcState) : GcState :=
  (listS3Objects s.bucket walStart).foldl (visitSegment r) s

/-! ### Orphaned generations -/

def generationStart (volumeId : String) : String := s!"volumes/{volumeId}/gen-"

def generationOf (volumeId key : String) : Option ℕ :=
  (Text.stripStart key (generationStart volumeId)).bind fun rest =>
    Text.parseUnsigned (2 ^ 64) (Text.splitHead '/' rest)

def trackingKey (volumeId : String) (gen : ℕ) : String := s!"{volumeId}/gen-{gen}"

/-- One listed object of a volume: an older generation is tracked, and deleted after its grace period. -/
def visitObject (r : Retained) (now : ℕ) (volume : String × ℕ) (s : GcState) (key : String) : GcState :=
  match generationOf volume.1 key with
  | none => s
  | some gen =>
    if volume.2 ≤ gen then s
    else
      let seen := s.orphanedGenFirstSeen.insertIfNew (trackingKey volume.1 gen) now
      if now - seen[trackingKey volume.1 gen]?.getD now < r.gracePeriod then { s with orphanedGenFirstSeen := seen }
      else { bucket := s.bucket.delete key, orphanedGenFirstSeen := seen }

def gcVolume (r : Retained) (now : ℕ) (s : GcState) (volume : String × ℕ) : GcState :=
  (listS3Objects s.bucket (generationStart volume.1)).foldl (visitObject r now volume) s

/-- What stands before and after the first occurrence of a text. -/
def splitAround (text : List Char) : List Char → Option (List Char × List Char)
  | [] => none
  | c :: cs =>
    if text.isPrefixOf (c :: cs) then some ([], (c :: cs).drop text.length)
    else (splitAround text cs).map fun (before, after) => (c :: before, after)

/-- Whether the tracking of a generation is kept after a cycle. -/
def stillOrphaned (r : Retained) (key : String) : Bool :=
  match splitAround "/gen-".toList key.toList with
  | some (volumeId, genPart) =>
    match Text.parseUnsigned (2 ^ 64) (String.ofList genPart), r.volumeGenerations.lookup (String.ofList volumeId) with
    | some gen, some current => gen < current
    | _, _ => false
  | none => false

def gcOrphanedGenerations (r : Retained) (now : ℕ) (s : GcState) : GcState :=
  let s := r.volumeGenerations.foldl (gcVolume r now) s
  { s with orphanedGenFirstSeen := s.orphanedGenFirstSeen.filter fun key _ => stillOrphaned r key }

/-- One cycle: WAL segments, then orphaned generations. -/
def cycle (r : Retained) (now : ℕ) (s : GcState) : GcState :=
  gcOrphanedGenerations r now (gcWalSegments r s)

end Gc

end Syfrah
