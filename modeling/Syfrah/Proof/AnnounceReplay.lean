import Syfrah.Fabric.ReplayGuard
import Syfrah.Lib.Run

/-!
# How often an announce is passed on

The window for duplicates is half the age that a record may have. The same ciphertext is passed on again
once the window is over, as long as its record is not too old.
-/

namespace Syfrah

namespace Mesh

variable {Ciphertext Digest Key : Type}

abbrev Arrival (Ciphertext Digest : Type) :=
  Exec (ReplayGuard Digest) (Announce Ciphertext) (Except String (Option PeerRecord))

def Arrival.passed (e : Arrival Ciphertext Digest) : Option PeerRecord := e.reply.toOption.join

def passes [DecidableEq Ciphertext] (c : Ciphertext) (es : List (Arrival Ciphertext Digest)) : List (Arrival Ciphertext Digest) :=
  es.filter fun e => e.action.ciphertext = c && e.passed.isSome

/-- The clock does not go back, from one announce to the next and while one is handled. -/
structure ClockMonotone (es : List (Arrival Ciphertext Digest)) : Prop where
  arrivals : es.Pairwise fun e f => e.action.now ≤ f.action.now
  handled : ∀ e ∈ es, e.action.now ≤ e.action.staleAt

variable [DecidableEq Digest]

namespace ReplayGuard

variable {guard : ReplayGuard Digest} {digest other : Digest} {now first : ℕ}

theorem isDuplicate_eq_false (hnew : (guard.isDuplicate digest now).1 = false) :
    evict now guard.seen digest = none ∧ (guard.isDuplicate digest now).2.seen digest = some now := by
  unfold isDuplicate at hnew ⊢
  cases hseen : evict now guard.seen digest with
  | some first => simp [hseen] at hnew
  | none => exact ⟨rfl, by simp [hseen]⟩

theorem epochAnchor_isDuplicate : (guard.isDuplicate digest now).2.epochAnchor = guard.epochAnchor := by
  unfold isDuplicate
  dsimp only
  split <;> rfl

omit [DecidableEq Digest] in
theorem evict_eq_some (hseen : guard.seen digest = some first)
    (hwindow : now < first + dedupWindowSecs * nanosPerSec) : evict now guard.seen digest = some first := by
  rw [evict, hseen, Option.filter_some, if_pos]
  rw [Bool.or_eq_true, decide_eq_true_eq, decide_eq_true_eq]
  omega

omit [DecidableEq Digest] in
theorem window_le_of_evict (hseen : guard.seen digest = some first) (hevict : evict now guard.seen digest = none) :
    first + dedupWindowSecs * nanosPerSec ≤ now := by
  by_contra hlt
  rw [evict_eq_some hseen (by omega)] at hevict
  cases hevict

theorem seen_isDuplicate (hseen : guard.seen other = some first)
    (hwindow : now < first + dedupWindowSecs * nanosPerSec) :
    (guard.isDuplicate digest now).2.seen other = some first := by
  have hkept := evict_eq_some hseen hwindow
  unfold isDuplicate
  dsimp only
  split
  · rename_i hnew
    have hother : other ≠ digest := by
      rintro rfl
      rw [hkept] at hnew
      cases hnew
    exact (Function.update_of_ne hother _ _).trans hkept
  · exact hkept

end ReplayGuard

section Step

variable (listener : AnnounceListener Ciphertext Digest Key) {a : Announce Ciphertext} {guard : ReplayGuard Digest}
  {record : PeerRecord}

theorem receiveAnnounce_eq_some {now : ℕ} {record' : PeerRecord} (h : receiveAnnounce now record = .ok (some record')) :
    record' = record ∧ now ≤ record.lastSeen + maxAnnounceAgeSecs := by
  unfold receiveAnnounce at h
  cases hvalid : validatePeerRecord record with
  | error e =>
      rw [hvalid] at h
      cases h
  | ok u =>
      simp only [hvalid] at h
      by_cases hage : maxAnnounceAgeSecs < now - record.lastSeen
      · rw [if_pos hage] at h
        cases h
      · rw [if_neg hage] at h
        by_cases hremoved : record.status = .removed
        · rw [if_pos hremoved] at h
          cases h
        · rw [if_neg hremoved] at h
          cases h
          exact ⟨rfl, by omega⟩

theorem handleIncoming_snd (a : Announce Ciphertext) (guard : ReplayGuard Digest) : (listener.handleIncoming a guard).2 = guard ∨
    (listener.handleIncoming a guard).2 = (guard.isDuplicate (listener.sha256 a.ciphertext) a.now).2 := by
  unfold AnnounceListener.handleIncoming
  cases listener.encryptionKey with
  | none => exact .inl rfl
  | some key =>
      refine .inr ?_
      rcases guard.isDuplicate (listener.sha256 a.ciphertext) a.now with ⟨duplicate, guard'⟩
      cases duplicate with
      | true => rfl
      | false =>
          dsimp only
          cases listener.decryptRecord a.ciphertext key <;> rfl

theorem handleIncoming_eq_some (h : (listener.handleIncoming a guard).1 = .ok (some record)) :
    (∃ key, listener.encryptionKey = some key ∧ listener.decryptRecord a.ciphertext key = .ok record) ∧
      ReplayGuard.evict a.now guard.seen (listener.sha256 a.ciphertext) = none ∧
      guard.monotonicEpoch a.staleAt ≤ record.lastSeen + maxAnnounceAgeSecs ∧
      (listener.handleIncoming a guard).2.seen (listener.sha256 a.ciphertext) = some a.now := by
  unfold AnnounceListener.handleIncoming at h ⊢
  cases hkey : listener.encryptionKey with
  | none =>
      rw [hkey] at h
      cases h
  | some key =>
      simp only [hkey] at h ⊢
      have hanchor : (guard.isDuplicate (listener.sha256 a.ciphertext) a.now).2.epochAnchor = guard.epochAnchor :=
        ReplayGuard.epochAnchor_isDuplicate
      have hfirst := fun hnew : (guard.isDuplicate (listener.sha256 a.ciphertext) a.now).1 = false =>
        ReplayGuard.isDuplicate_eq_false hnew
      rcases hrun : guard.isDuplicate (listener.sha256 a.ciphertext) a.now with ⟨duplicate, guard'⟩
      rw [hrun] at h hanchor hfirst
      cases duplicate with
      | true => cases h
      | false =>
          cases hdecrypt : listener.decryptRecord a.ciphertext key with
          | error e =>
              simp only [hdecrypt] at h
              cases h
          | ok decrypted =>
              simp only [hdecrypt] at h
              obtain ⟨rfl, hage⟩ := receiveAnnounce_eq_some h
              obtain ⟨hevict, hseen⟩ := hfirst rfl
              rw [ReplayGuard.monotonicEpoch, show guard'.epochAnchor = guard.epochAnchor from hanchor] at hage
              exact ⟨⟨key, rfl, hdecrypt⟩, hevict, hage, hseen⟩

theorem epochAnchor_handleIncoming : (listener.handleIncoming a guard).2.epochAnchor = guard.epochAnchor := by
  rcases handleIncoming_snd listener a guard with hsnd | hsnd
  · rw [hsnd]
  · rw [hsnd, ReplayGuard.epochAnchor_isDuplicate]

theorem seen_handleIncoming {digest : Digest} {first : ℕ} (hseen : guard.seen digest = some first)
    (hwindow : a.now < first + dedupWindowSecs * nanosPerSec) :
    (listener.handleIncoming a guard).2.seen digest = some first := by
  rcases handleIncoming_snd listener a guard with hsnd | hsnd
  · rw [hsnd, hseen]
  · rw [hsnd, ReplayGuard.seen_isDuplicate hseen hwindow]

end Step

section Runs

variable [DecidableEq Ciphertext] (listener : AnnounceListener Ciphertext Digest Key)

structure Remembers (epochNow : ℕ) (es : List (Arrival Ciphertext Digest)) (guard : ReplayGuard Digest) : Prop where
  seen : ∀ e ∈ es, e.passed.isSome → (∃ first, guard.seen (listener.sha256 e.action.ciphertext) = some first ∧
    e.action.now ≤ first) ∨ ∃ f ∈ es, e.action.now + dedupWindowSecs * nanosPerSec ≤ f.action.now
  anchor : guard.epochAnchor = epochNow
  fresh : ∀ e ∈ es, ∀ record, e.passed = some record →
    (∃ key, listener.encryptionKey = some key ∧ listener.decryptRecord e.action.ciphertext key = .ok record) ∧
      epochNow + e.action.staleAt / nanosPerSec ≤ record.lastSeen + maxAnnounceAgeSecs
  apart : ∀ c, (passes c es).Pairwise fun e f => e.action.now + dedupWindowSecs * nanosPerSec ≤ f.action.now

omit [DecidableEq Ciphertext] in
theorem passed_of {a : Announce Ciphertext} {guard : ReplayGuard Digest} {record : PeerRecord}
    (h : Arrival.passed (Exec.of listener.handleIncoming a guard) = some record) :
    (listener.handleIncoming a guard).1 = .ok (some record) := by
  change (listener.handleIncoming a guard).1.toOption.join = some record at h
  cases hreply : (listener.handleIncoming a guard).1 with
  | error e =>
      rw [hreply] at h
      cases h
  | ok passed =>
      rw [hreply] at h
      exact congrArg Except.ok h

theorem Remembers.step {epochNow : ℕ} {es : List (Arrival Ciphertext Digest)} {guard : ReplayGuard Digest}
    (a : Announce Ciphertext) (h : Remembers listener epochNow es guard) (hclock : ∀ f ∈ es, f.action.now ≤ a.now) :
    Remembers listener epochNow (es ++ [Exec.of listener.handleIncoming a guard])
      (listener.handleIncoming a guard).2 := by
  refine ⟨fun e he hpassed => ?_, (epochAnchor_handleIncoming listener).trans h.anchor, fun e he record hrecord => ?_,
    fun c => ?_⟩
  · rcases List.mem_append.mp he with hold | hnew
    · rcases h.seen e hold hpassed with ⟨first, hfirst, hle⟩ | ⟨f, hf, hwindow⟩
      · rcases Nat.lt_or_ge a.now (first + dedupWindowSecs * nanosPerSec) with hlt | hwindow
        · exact .inl ⟨first, seen_handleIncoming listener hfirst hlt, hle⟩
        · refine .inr ⟨_, List.mem_append_right _ (List.mem_singleton_self _), ?_⟩
          exact (Nat.add_le_add_right hle _).trans hwindow
      · exact .inr ⟨f, List.mem_append_left _ hf, hwindow⟩
    · obtain rfl := List.mem_singleton.mp hnew
      obtain ⟨record, hrecord⟩ := Option.isSome_iff_exists.mp hpassed
      obtain ⟨-, -, -, hseen⟩ := handleIncoming_eq_some listener (passed_of listener hrecord)
      exact .inl ⟨a.now, hseen, le_rfl⟩
  · rcases List.mem_append.mp he with hold | hnew
    · exact h.fresh e hold record hrecord
    · obtain rfl := List.mem_singleton.mp hnew
      obtain ⟨hdecrypt, -, hage, -⟩ := handleIncoming_eq_some listener (passed_of listener hrecord)
      rw [ReplayGuard.monotonicEpoch, h.anchor] at hage
      exact ⟨hdecrypt, hage⟩
  · rw [passes, List.filter_append]
    refine List.pairwise_append.mpr ⟨h.apart c, ?_, fun e he f hf => ?_⟩
    · exact List.Pairwise.filter _ (List.pairwise_singleton _ _)
    obtain ⟨hf, hpasses⟩ := List.mem_filter.mp hf
    obtain rfl := List.mem_singleton.mp hf
    obtain ⟨hold, hpassed⟩ := List.mem_filter.mp he
    simp only [Bool.and_eq_true, decide_eq_true_eq] at hpasses hpassed
    obtain ⟨record, hrecord⟩ := Option.isSome_iff_exists.mp hpasses.2
    obtain ⟨-, hevicted, -, -⟩ := handleIncoming_eq_some listener (passed_of listener hrecord)
    have hsame : e.action.ciphertext = a.ciphertext := hpassed.1.trans hpasses.1.symm
    rcases h.seen e hold hpassed.2 with ⟨first, hfirst, hle⟩ | ⟨f, hf, hwindow⟩
    · rw [hsame] at hfirst
      exact (Nat.add_le_add_right hle _).trans (ReplayGuard.window_le_of_evict hfirst hevicted)
    · exact hwindow.trans (hclock f hf)

theorem remembers_of_run {epochNow : ℕ} {es : List (Arrival Ciphertext Digest)} {guard : ReplayGuard Digest}
    (hrun : Run listener.handleIncoming (.new epochNow) es guard) (hclock : ClockMonotone es) :
    Remembers listener epochNow es guard := by
  refine hrun.invariant (I := Remembers listener epochNow) (C := fun past e => ∀ f ∈ past, f.action.now ≤ e.action.now)
    ⟨nofun, rfl, nofun, fun _ => .nil⟩ (fun es guard a h hnow => h.step listener a hnow) ?_
  exact .of_pairwise hclock.arrivals

omit [DecidableEq Digest] [DecidableEq Ciphertext] in
theorem length_le_three {es : List (Arrival Ciphertext Digest)} (epochNow lastSeen : ℕ)
    (hapart : es.Pairwise fun e f => e.action.now + dedupWindowSecs * nanosPerSec ≤ f.action.now)
    (hage : ∀ e ∈ es, lastSeen ≤ epochNow + e.action.now / nanosPerSec ∧
      epochNow + e.action.now / nanosPerSec ≤ lastSeen + maxAnnounceAgeSecs) : es.length ≤ 3 := by
  match es with
  | [] | [_] | [_, _] | [_, _, _] => simp
  | e :: f :: g :: h :: _ =>
      simp only [List.pairwise_cons, List.mem_cons, forall_eq_or_imp] at hapart hage
      obtain ⟨⟨hef, -⟩, ⟨hfg, -⟩, ⟨hgh, -⟩, -⟩ := hapart
      obtain ⟨⟨hfirst, -⟩, -, -, ⟨-, hlast⟩, -⟩ := hage
      simp only [dedupWindowSecs, nanosPerSec, maxAnnounceAgeSecs] at *
      omega

end Runs

/-- **An announce is passed on again only after the window for duplicates, and only while its record is
not too old.** So it is passed on three times at most, unless its record is from the future. -/
theorem handleIncoming_passes_apart [DecidableEq Ciphertext] (listener : AnnounceListener Ciphertext Digest Key)
    {epochNow : ℕ} {es : List (Arrival Ciphertext Digest)} {guard : ReplayGuard Digest}
    (hrun : Run listener.handleIncoming (.new epochNow) es guard) (hclock : ClockMonotone es) (c : Ciphertext) :
    ((passes c es).Pairwise fun e f => e.action.now + dedupWindowSecs * nanosPerSec ≤ f.action.now) ∧
      (∀ e ∈ es, ∀ record, e.passed = some record →
        epochNow + e.action.now / nanosPerSec ≤ record.lastSeen + maxAnnounceAgeSecs) ∧
      ((∀ e ∈ passes c es, ∀ record, e.passed = some record → record.lastSeen ≤ epochNow + e.action.now / nanosPerSec) →
        (passes c es).length ≤ 3) := by
  have hremembers := remembers_of_run listener hrun hclock
  have hage : ∀ e ∈ es, ∀ record, e.passed = some record →
      epochNow + e.action.now / nanosPerSec ≤ record.lastSeen + maxAnnounceAgeSecs := by
    intro e he record hrecord
    have hlater : e.action.now / nanosPerSec ≤ e.action.staleAt / nanosPerSec :=
      Nat.div_le_div_right (hclock.handled e he)
    have hfresh := (hremembers.fresh e he record hrecord).2
    omega
  refine ⟨hremembers.apart c, hage, fun hpast => ?_⟩
  cases hpasses : passes c es with
  | nil => simp
  | cons first rest =>
      have hmem : ∀ e ∈ passes c es, e ∈ es ∧ e.action.ciphertext = c ∧ e.passed.isSome := by
        intro e he
        simpa [passes] using he
      obtain ⟨hfirst, hfirstText, hfirstPassed⟩ := hmem first (hpasses ▸ List.mem_cons_self)
      obtain ⟨record, hrecord⟩ := Option.isSome_iff_exists.mp hfirstPassed
      obtain ⟨key, hkey, hdecrypt⟩ := (hremembers.fresh first hfirst record hrecord).1
      rw [← hpasses]
      refine length_le_three epochNow record.lastSeen (hremembers.apart c) fun e hpass => ?_
      obtain ⟨he, htext, hpassed⟩ := hmem e hpass
      obtain ⟨record', hrecord'⟩ := Option.isSome_iff_exists.mp hpassed
      -- the same ciphertext has the same record
      obtain ⟨key', hkey', hdecrypt'⟩ := (hremembers.fresh e he record' hrecord').1
      cases hkey.symm.trans hkey'
      rw [htext, ← hfirstText, hdecrypt] at hdecrypt'
      cases hdecrypt'
      exact ⟨hpast e hpass record hrecord', hage e he record hrecord'⟩

/-- The record of an announce at second 1000 of the wall clock. -/
def announcedRecord : PeerRecord where
  name := "alice"
  wgPublicKey := "AAAAAAAAAAAAAAAAAAAAAAAAAAAAAAAAAAAAAAAAAAA="
  endpoint := ⟨"192.0.2.7", 51820, host_seven⟩
  meshIpv6 := Vector.replicate 8 0
  lastSeen := 1000
  status := .active
  region := none
  zone := none

/-- A listener on which every ciphertext is one of that record. -/
def oneRecord : AnnounceListener ℕ ℕ Unit := ⟨id, fun _ _ => .ok announcedRecord, some ()⟩

/-- The same ciphertext at the start and 300 seconds later. -/
def replayed : List (Arrival ℕ ℕ) :=
  trace oneRecord.handleIncoming [⟨7, 0, 0⟩, ⟨7, 300 * nanosPerSec, 300 * nanosPerSec⟩] (.new 1000)

theorem handleIncoming_passes_apart_replayed :
    ((passes 7 replayed).Pairwise fun e f => e.action.now + dedupWindowSecs * nanosPerSec ≤ f.action.now) ∧
      (∀ e ∈ replayed, ∀ record, e.passed = some record →
        1000 + e.action.now / nanosPerSec ≤ record.lastSeen + maxAnnounceAgeSecs) ∧
      ((∀ e ∈ passes 7 replayed, ∀ record, e.passed = some record →
        record.lastSeen ≤ 1000 + e.action.now / nanosPerSec) →
        (passes 7 replayed).length ≤ 3) :=
  handleIncoming_passes_apart oneRecord (run_trace _ _) ⟨by decide +kernel, by decide +kernel⟩ 7

/-- A replay is passed on as soon as the window is over. -/
theorem handleIncoming_passes_replay :
    Run oneRecord.handleIncoming (.new 1000) replayed (reached oneRecord.handleIncoming
      [⟨7, 0, 0⟩, ⟨7, 300 * nanosPerSec, 300 * nanosPerSec⟩] (.new 1000)) ∧
      ClockMonotone replayed ∧ (passes 7 replayed).length = 2 :=
  ⟨run_trace _ _, ⟨by decide +kernel, by decide +kernel⟩, by decide +kernel⟩

end Mesh

end Syfrah
