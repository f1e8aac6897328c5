import Syfrah.Forge.GcCycle

/-!
# Progress of the garbage collector

A cycle sees the first 1000 keys of a listing, and keys that stay fill it for good: positions are
compared as numbers and listed as texts. A cycle deletes something whenever something collectable has
fewer than 1000 keys listed before it, and a run of such cycles comes to an end of its work.
-/

namespace Syfrah

namespace Gc

variable {bucket : Bucket} {key start : String} {r : Retained} {now : ℕ} {s : GcState} {volume : String × ℕ}

/-- Fewer than 1000 keys with the same start come before a key. -/
def Listed (bucket : Bucket) (start key : String) : Prop :=
  (bucket.keys.filter fun other => Text.startsWith other start && other < key).length < maxKeys

theorem mem_take_iff {α : Type} [LinearOrder α] {l : List α} {a : α} (hsorted : l.Pairwise (· < ·)) (hmem : a ∈ l)
    (n : ℕ) : a ∈ l.take n ↔ (l.filter (· < a)).length < n := by
  induction l generalizing n with
  | nil => cases hmem
  | cons first l ih =>
      obtain ⟨hfirst, hsorted⟩ := List.pairwise_cons.mp hsorted
      cases n with
      | zero => simp
      | succ n =>
          rcases List.mem_cons.mp hmem with rfl | hmem
          · have hnone : l.filter (· < a) = [] := by
              simpa using fun other hother => (hfirst other hother).le
            simp [hnone]
          · have hlt := hfirst a hmem
            rw [List.take_succ_cons, List.mem_cons, or_iff_right hlt.ne', ih hsorted hmem,
              List.filter_cons_of_pos (by simpa using hlt), List.length_cons, Nat.succ_lt_succ_iff]

theorem mem_listS3Objects_iff (hmem : key ∈ bucket.keys) (hstart : Text.startsWith key start = true) :
    key ∈ listS3Objects bucket start ↔ Listed bucket start key := by
  rw [listS3Objects, mem_take_iff (bucket.sorted.filter _) (List.mem_filter.mpr ⟨hmem, hstart⟩), Listed,
    List.filter_filter]
  simp only [Bool.and_comm]

/-- A bucket with some of the keys of another one. -/
theorem Listed.of_sublist {bucket' : Bucket} (h : Listed bucket start key) (hsub : bucket'.keys.Sublist bucket.keys) :
    Listed bucket' start key :=
  (hsub.filter _).length_le.trans_lt h

theorem sublist_delete (bucket : Bucket) (key : String) : (bucket.delete key).keys.Sublist bucket.keys :=
  List.filter_sublist

theorem notMem_delete (bucket : Bucket) (key : String) : key ∉ (bucket.delete key).keys := by
  simp [Bucket.delete]

/-! ### Going through a listing -/

section Visit

variable {visit : GcState → String → GcState} (hsub : ∀ s key, (visit s key).bucket.keys.Sublist s.bucket.keys)
include hsub

theorem sublist_foldl (keys : List String) (s : GcState) :
    (keys.foldl visit s).bucket.keys.Sublist s.bucket.keys := by
  induction keys generalizing s with
  | nil => exact .refl _
  | cons first keys ih => exact (ih _).trans (hsub s first)

/-- A listed key that is deleted when its turn comes is gone in the end. -/
theorem notMem_foldl {P : GcState → Prop} (hP : ∀ s key, P s → P (visit s key))
    (hdelete : ∀ s, P s → key ∉ (visit s key).bucket.keys) {keys : List String} (hkey : key ∈ keys) (h : P s) :
    key ∉ (keys.foldl visit s).bucket.keys := by
  induction keys generalizing s with
  | nil => cases hkey
  | cons first keys ih =>
      rcases List.mem_cons.mp hkey with rfl | hkey
      · exact fun hkept => hdelete s h ((sublist_foldl hsub keys _).subset hkept)
      · exact ih hkey (hP s first h)

end Visit

theorem sublist_visitSegment (s : GcState) (key : String) :
    (visitSegment r s key).bucket.keys.Sublist s.bucket.keys := by
  unfold visitSegment
  split
  · exact sublist_delete _ _
  · exact .refl _

theorem notMem_gcWalSegments (hkey : key ∈ listS3Objects s.bucket walStart) (hcollect : walCollectable r key = true) :
    key ∉ (gcWalSegments r s).bucket.keys := by
  refine notMem_foldl sublist_visitSegment (P := fun _ => True) (fun _ _ _ => trivial) (fun s _ => ?_) hkey trivial
  rw [visitSegment, if_pos hcollect]
  exact notMem_delete _ _

/-! ### Orphaned generations -/

/-- An object of an older generation that the worker has seen for as long as the grace period. -/
def due (r : Retained) (now : ℕ) (volume : String × ℕ) (seen : Table ℕ) (key : String) : Bool :=
  match generationOf volume.1 key with
  | none => false
  | some gen => gen < volume.2 && r.gracePeriod ≤ now - seen[trackingKey volume.1 gen]?.getD now

/-- Tracking that begins now is as no tracking. -/
theorem getD_insertIfNew (seen : Table ℕ) (tracked other : String) :
    (seen.insertIfNew tracked now)[other]?.getD now = seen[other]?.getD now := by
  rw [Std.ExtTreeMap.getElem?_insertIfNew]
  split
  · rename_i hnew
    obtain ⟨heq, hnot⟩ := hnew
    rw [Std.LawfulEqCmp.eq_of_compare heq] at hnot
    rw [Std.ExtTreeMap.getElem?_eq_none hnot]
    rfl
  · rfl

theorem visitObject_spec (r : Retained) (now : ℕ) (volume : String × ℕ) (s : GcState) (key : String) :
    (visitObject r now volume s key).bucket =
        (if due r now volume s.orphanedGenFirstSeen key then s.bucket.delete key else s.bucket) ∧
      ∀ other : String, (visitObject r now volume s key).orphanedGenFirstSeen[other]?.getD now =
        s.orphanedGenFirstSeen[other]?.getD now := by
  unfold visitObject due
  cases generationOf volume.1 key with
  | none => exact ⟨rfl, fun _ => rfl⟩
  | some gen =>
      dsimp only
      rw [getD_insertIfNew]
      by_cases hgen : volume.2 ≤ gen
      · simp [hgen]
      · by_cases hgrace : now - s.orphanedGenFirstSeen[trackingKey volume.1 gen]?.getD now < r.gracePeriod
        · simp [hgen, hgrace, getD_insertIfNew]
        · simp [hgen, hgrace, getD_insertIfNew, not_lt.mp hgrace, not_le.mp hgen]

theorem sublist_visitObject (s : GcState) (key : String) :
    (visitObject r now volume s key).bucket.keys.Sublist s.bucket.keys := by
  rw [(visitObject_spec r now volume s key).1]
  split
  · exact sublist_delete _ _
  · exact .refl _

theorem due_congr {seen seen' : Table ℕ} (h : ∀ other : String, seen'[other]?.getD now = seen[other]?.getD now) :
    due r now volume seen' key = due r now volume seen key := by
  unfold due
  cases generationOf volume.1 key with
  | none => rfl
  | some gen => simp only [h]

/-- What a worker knows about the ages does not change before the end of a cycle. -/
def SameAges (now : ℕ) (s s' : GcState) : Prop :=
  ∀ other : String, s'.orphanedGenFirstSeen[other]?.getD now = s.orphanedGenFirstSeen[other]?.getD now

theorem gcVolume_spec (r : Retained) (now : ℕ) (s : GcState) (volume : String × ℕ) :
    (gcVolume r now s volume).bucket.keys.Sublist s.bucket.keys ∧ SameAges now s (gcVolume r now s volume) ∧
      ∀ key ∈ listS3Objects s.bucket (generationStart volume.1),
        due r now volume s.orphanedGenFirstSeen key = true → key ∉ (gcVolume r now s volume).bucket.keys := by
  have hages : ∀ t key, SameAges now s t → SameAges now s (visitObject r now volume t key) :=
    fun t key ht other => ((visitObject_spec r now volume t key).2 other).trans (ht other)
  refine ⟨sublist_foldl sublist_visitObject _ s, ?_, fun key hkey hdue => ?_⟩
  · exact List.foldlRecOn _ _ (fun _ => rfl) fun t ht key _ => hages t key ht
  · refine notMem_foldl sublist_visitObject (P := SameAges now s) hages (fun t ht => ?_) hkey fun _ => rfl
    rw [(visitObject_spec r now volume t key).1, due_congr ht, if_pos hdue]
    exact notMem_delete _ _

/-! ### Cycles -/

theorem startsWith_of_stripStart {key start rest : String} (h : Text.stripStart key start = some rest) :
    Text.startsWith key start = true := by
  unfold Text.stripStart at h
  split at h
  · rename_i hstart
    exact hstart
  · cases h

theorem startsWith_of_walCollectable (h : walCollectable r key = true) : Text.startsWith key walStart = true := by
  unfold walCollectable segmentPosition at h
  cases hstrip : Text.stripStart key "wal/segment-" with
  | none => cases hmin : r.minWalPosition <;> simp [hmin, hstrip] at h
  | some rest => exact startsWith_of_stripStart hstrip

theorem startsWith_of_due {seen : Table ℕ} (h : due r now volume seen key = true) :
    Text.startsWith key (generationStart volume.1) = true := by
  unfold due generationOf at h
  cases hstrip : Text.stripStart key (generationStart volume.1) with
  | none => simp [hstrip] at h
  | some rest => exact startsWith_of_stripStart hstrip

theorem notMem_foldl_gcVolume {volumes : List (String × ℕ)} {t : GcState} (hvolume : volume ∈ volumes)
    (hsub : t.bucket.keys.Sublist s.bucket.keys) (hages : SameAges now s t)
    (hlisted : Listed s.bucket (generationStart volume.1) key)
    (hdue : due r now volume s.orphanedGenFirstSeen key = true) :
    key ∉ (volumes.foldl (gcVolume r now) t).bucket.keys := by
  have hall : ∀ (volumes : List (String × ℕ)) (t : GcState),
      (volumes.foldl (gcVolume r now) t).bucket.keys.Sublist t.bucket.keys := by
    intro volumes
    induction volumes with
    | nil => exact fun t => .refl _
    | cons first volumes ih => exact fun t => (ih _).trans (gcVolume_spec r now t first).1
  induction volumes generalizing t with
  | nil => cases hvolume
  | cons first volumes ih =>
      obtain ⟨hless, hsame, hdeletes⟩ := gcVolume_spec r now t first
      rcases List.mem_cons.mp hvolume with rfl | hvolume
      · refine fun hkept => ?_
        have hpresent := ((hall volumes _).trans hless).subset hkept
        have hin := (mem_listS3Objects_iff hpresent (startsWith_of_due hdue)).mpr (hlisted.of_sublist hsub)
        exact hdeletes key hin (by rwa [due_congr hages]) ((hall volumes _).subset hkept)
      · exact ih hvolume (hless.trans hsub) fun other => (hsame other).trans (hages other)

/-- The kinds of objects that a cycle collects, each with the text its keys start with. -/
inductive Collects (r : Retained) (now : ℕ) (s : GcState) : String → (String → Prop) → Prop
  | wal : Collects r now s walStart fun key => walCollectable r key = true
  | generation {volume : String × ℕ} (h : volume ∈ r.volumeGenerations) :
      Collects r now s (generationStart volume.1) fun key => due r now volume s.orphanedGenFirstSeen key = true

/-- Of each kind of object that is there, some have fewer than 1000 keys listed before them. -/
def Reaches (r : Retained) (now : ℕ) (s : GcState) : Prop :=
  ∀ start kind, Collects r now s start kind → (∃ key ∈ s.bucket.keys, kind key) →
    ∃ key ∈ s.bucket.keys, kind key ∧ Listed s.bucket start key

/-- Of each kind of object that is there, the cycle deletes some. -/
def Progress (r : Retained) (now : ℕ) (s : GcState) : Prop :=
  ∀ start kind, Collects r now s start kind → (∃ key ∈ s.bucket.keys, kind key) →
    ∃ key ∈ s.bucket.keys, kind key ∧ key ∉ (cycle r now s).bucket.keys

theorem sublist_cycle (r : Retained) (now : ℕ) (s : GcState) :
    (cycle r now s).bucket.keys.Sublist (gcWalSegments r s).bucket.keys :=
  List.foldlRecOn r.volumeGenerations (gcVolume r now) (.refl _) fun t ht volume _ =>
    (gcVolume_spec r now t volume).1.trans ht

/-- **One cycle** deletes of each kind what it can reach. -/
theorem progress_of_reaches (h : Reaches r now s) : Progress r now s := by
  intro start kind hkind hsome
  obtain ⟨key, hmem, hcollect, hlisted⟩ := h start kind hkind hsome
  refine ⟨key, hmem, hcollect, ?_⟩
  cases hkind with
  | wal =>
      have hin := (mem_listS3Objects_iff hmem (startsWith_of_walCollectable hcollect)).mpr hlisted
      exact fun hkept => notMem_gcWalSegments hin hcollect ((sublist_cycle r now s).subset hkept)
  | generation hvolume =>
      have hages : SameAges now s (gcWalSegments r s) := by
        refine List.foldlRecOn (motive := SameAges now s) _ _ (fun _ => rfl) fun t ht key _ other => ?_
        rw [visitSegment]
        split <;> exact ht other
      exact notMem_foldl_gcVolume hvolume (sublist_foldl sublist_visitSegment _ s) hages hlisted hcollect

/-! ### Runs -/

def gcStep (r : Retained) (now : ℕ) (s : GcState) : Unit × GcState := ((), cycle r now s)

theorem length_cycle_lt (h : Progress r now s) {start : String} {kind : String → Prop}
    (hkind : Collects r now s start kind) (hsome : ∃ key ∈ s.bucket.keys, kind key) :
    (cycle r now s).bucket.keys.length < s.bucket.keys.length := by
  obtain ⟨key, hmem, -, hgone⟩ := h start kind hkind hsome
  have hsub := (sublist_cycle r now s).trans (sublist_foldl sublist_visitSegment _ s)
  refine lt_of_le_of_ne hsub.length_le fun heq => hgone ?_
  rw [hsub.eq_of_length heq]
  exact hmem

/-- **Progress of the garbage collector.** In a run of cycles that all reach something of each kind, each
cycle deletes something of each kind that is there, and a run with more cycles than the bucket has keys
comes to a cycle that finds nothing to collect. -/
theorem cycles_progress (r : Retained) (nows : List ℕ) (s : GcState)
    (hreaches : ∀ e ∈ trace (gcStep r) nows s, Reaches r e.action e.before) :
    (∀ e ∈ trace (gcStep r) nows s, Progress r e.action e.before) ∧
      (s.bucket.keys.length < nows.length → ∃ e ∈ trace (gcStep r) nows s,
        ∀ start kind, Collects r e.action e.before start kind → ∀ key ∈ e.before.bucket.keys, ¬ kind key) := by
  refine ⟨fun e he => progress_of_reaches (hreaches e he), ?_⟩
  induction nows generalizing s with
  | nil => exact fun hlt => absurd hlt (Nat.not_lt_zero _)
  | cons now nows ih =>
      intro hlt
      obtain ⟨hfirst, hrest⟩ := List.forall_mem_cons.mp hreaches
      change Reaches r now s at hfirst
      by_cases hnone : ∀ start kind, Collects r now s start kind → ∀ key ∈ s.bucket.keys, ¬ kind key
      · exact ⟨_, List.mem_cons_self, hnone⟩
      · push Not at hnone
        obtain ⟨start, kind, hkind, key, hmem, hcollect⟩ := hnone
        have hless := length_cycle_lt (progress_of_reaches hfirst) hkind ⟨key, hmem, hcollect⟩
        obtain ⟨e, he, hend⟩ := ih (cycle r now s) hrest (by simp only [List.length_cons] at hlt; omega)
        exact ⟨e, List.mem_cons_of_mem _ he, hend⟩

def oldSegment : GcState := ⟨⟨["wal/segment-1"], by simp⟩, ∅⟩

theorem cycles_progress_segment :
    ∃ key ∈ oldSegment.bucket.keys, key ∉ (cycle ⟨some 2, [], 3600⟩ 0 oldSegment).bucket.keys := by
  have hcycle := (cycles_progress ⟨some 2, [], 3600⟩ [0] oldSegment fun e he => ?_).1 _ List.mem_cons_self
  · obtain ⟨key, hmem, -, hgone⟩ := hcycle _ _ .wal ⟨"wal/segment-1", by decide, by decide⟩
    exact ⟨key, hmem, hgone⟩
  · cases List.mem_singleton.mp he
    rintro start kind (_ | hvolume) hsome
    · exact ⟨"wal/segment-1", by decide, by decide, show _ < maxKeys by decide⟩
    · cases hvolume

def segmentKey (position : ℕ) : String := walStart ++ toString position

theorem segmentKey_lt {m n : ℕ} (h : Nat.toDigits 10 m < Nat.toDigits 10 n) : segmentKey m < segmentKey n := by
  rw [String.lt_iff_toList_lt, segmentKey, segmentKey, String.toList_append, String.toList_append,
    Text.toList_toString, Text.toList_toString]
  exact List.append_left_lt h

theorem toDigits_lt : ∀ {m n : ℕ}, 1000 ≤ m → m < n → n < 2000 → Nat.toDigits 10 m < Nat.toDigits 10 n := by
  have hnext : ∀ n ∈ List.range' 1000 999, Nat.toDigits 10 n < Nat.toDigits 10 (n + 1) := by decide +kernel
  intro m n hm hlt hn
  induction n, hlt using Nat.le_induction with
  | base => exact hnext m (List.mem_range'_1.mpr ⟨hm, by omega⟩)
  | succ n hle ih => exact (ih (by omega)).trans (hnext n (List.mem_range'_1.mpr ⟨by omega, by omega⟩))

/-- The segments 1000 to 1999, and an old one that is listed after them. -/
def fullPage : Bucket where
  keys := (List.range' 1000 1000).map segmentKey ++ [segmentKey 2]
  sorted := by
    have hlast : ∀ n ∈ List.range' 1000 1000, Nat.toDigits 10 n < Nat.toDigits 10 2 := by decide +kernel
    refine List.pairwise_append.mpr ⟨List.pairwise_map.mpr ?_, List.pairwise_singleton _ _, ?_⟩
    · refine (List.pairwise_lt_range' 1).imp_of_mem fun {m n} hm hn hlt => segmentKey_lt ?_
      exact toDigits_lt (List.mem_range'_1.mp hm).1 hlt (List.mem_range'_1.mp hn).2
    · rintro key hkey last hlast'
      obtain ⟨n, hn, rfl⟩ := List.mem_map.mp hkey
      rw [List.mem_singleton.mp hlast']
      exact segmentKey_lt (hlast n hn)

theorem segmentPosition_segmentKey {n : ℕ} (h : n < 2 ^ 64) : segmentPosition (segmentKey n) = some n := by
  rw [segmentPosition, segmentKey]
  change (Text.stripStart ("wal/segment-" ++ toString n) "wal/segment-").bind _ = _
  rw [Text.stripStart_append, Option.bind_some, Text.parseUnsigned_toString h]

theorem listS3Objects_fullPage : listS3Objects fullPage walStart = (List.range' 1000 1000).map segmentKey := by
  have hall : ∀ key ∈ fullPage.keys, Text.startsWith key walStart = true := by
    intro key hkey
    rcases List.mem_append.mp hkey with hkey | hkey
    · obtain ⟨n, -, rfl⟩ := List.mem_map.mp hkey
      exact Text.startsWith_append _ _
    · rw [List.mem_singleton.mp hkey]
      exact Text.startsWith_append _ _
  rw [listS3Objects, List.filter_eq_self.mpr hall]
  refine List.take_left' ?_
  rw [List.length_map, List.length_range', maxKeys]

theorem foldl_visitSegment_eq {keys : List String} (h : ∀ key ∈ keys, walCollectable r key = false) :
    keys.foldl (visitSegment r) s = s := by
  induction keys with
  | nil => rfl
  | cons first keys ih =>
      obtain ⟨hfirst, hrest⟩ := List.forall_mem_cons.mp h
      rw [List.foldl_cons, visitSegment, hfirst, if_neg Bool.false_ne_true, ih hrest]

/-- **A full page**: with 1000 as the bound, segment 2 is collectable, and a cycle deletes nothing. -/
theorem fullPage_stuck :
    segmentKey 2 ∈ fullPage.keys ∧ walCollectable ⟨some 1000, [], 3600⟩ (segmentKey 2) = true ∧
      (cycle ⟨some 1000, [], 3600⟩ 0 ⟨fullPage, ∅⟩).bucket = fullPage := by
  refine ⟨List.mem_append_right _ (List.mem_singleton_self _), ?_, ?_⟩
  · simp [walCollectable, segmentPosition_segmentKey]
  · have hkept : ∀ key ∈ listS3Objects fullPage walStart, walCollectable ⟨some 1000, [], 3600⟩ key = false := by
      rw [listS3Objects_fullPage]
      intro key hkey
      obtain ⟨n, hn, rfl⟩ := List.mem_map.mp hkey
      obtain ⟨hle, hlt⟩ := List.mem_range'_1.mp hn
      rw [walCollectable, segmentPosition_segmentKey (by omega)]
      simpa using hle
    rw [cycle, gcOrphanedGenerations, List.foldl_nil, gcWalSegments, foldl_visitSegment_eq hkept]

end Gc

end Syfrah
