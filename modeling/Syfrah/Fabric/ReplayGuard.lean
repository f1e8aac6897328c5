import Syfrah.Fabric.PeerTasks

/-!
# The replay guard of announces

A node drops an announce whose ciphertext it has seen not long ago, and one whose record is too old.
Both are measured on a clock that never goes back: an instant is the number of nanoseconds since the
guard was made.
-/

namespace Syfrah

namespace Mesh

def dedupWindowSecs : ℕ := 300

def nanosPerSec : ℕ := 10 ^ 9

structure ReplayGuard (Digest : Type) where
  -- when a ciphertext was first seen, by its digest
  seen : Digest → Option ℕ
  -- the seconds of the wall clock when the guard was made
  epochAnchor : ℕ

namespace ReplayGuard

variable {Digest : Type}

def new (epochNow : ℕ) : ReplayGuard Digest := ⟨fun _ => none, epochNow⟩

def monotonicEpoch (guard : ReplayGuard Digest) (now : ℕ) : ℕ := guard.epochAnchor + now / nanosPerSec

/-- Forget what was seen too long ago. An entry from after `now` stays. -/
def evict (now : ℕ) (seen : Digest → Option ℕ) : Digest → Option ℕ := fun digest =>
  (seen digest).filter fun first => now < first || now - first < dedupWindowSecs * nanosPerSec

variable [DecidableEq Digest]

def isDuplicate (digest : Digest) (now : ℕ) (guard : ReplayGuard Digest) : Bool × ReplayGuard Digest :=
  let kept := evict now guard.seen
  match kept digest with
  | none => (false, { guard with seen := Function.update kept digest (some now) })
  | some _ => (true, { guard with seen := kept })

end ReplayGuard

/-- An announce, with the instants at which `is_duplicate` and `is_stale` read the clock. -/
structure Announce (Ciphertext : Type) where
  ciphertext : Ciphertext
  now : ℕ
  staleAt : ℕ

/-- What the listener of a node has for announces. -/
structure AnnounceListener (Ciphertext Digest Key : Type) where
  sha256 : Ciphertext → Digest
  decryptRecord : Ciphertext → Key → Except String PeerRecord
  encryptionKey : Option Key

/-- `handle_incoming` of an announce: the record for `on_announce`, if it is passed on. -/
def AnnounceListener.handleIncoming {Ciphertext Digest Key : Type} [DecidableEq Digest]
    (listener : AnnounceListener Ciphertext Digest Key) (a : Announce Ciphertext) (guard : ReplayGuard Digest) :
    Except String (Option PeerRecord) × ReplayGuard Digest :=
  match listener.encryptionKey with
  | none => (.error "no encryption key", guard)
  | some key =>
    match guard.isDuplicate (listener.sha256 a.ciphertext) a.now with
    | (true, guard) => (.ok none, guard)
    | (false, guard) =>
      match listener.decryptRecord a.ciphertext key with
      | .error e => (.error e, guard)
      | .ok record => (receiveAnnounce (guard.monotonicEpoch a.staleAt) record, guard)

end Mesh

end Syfrah
