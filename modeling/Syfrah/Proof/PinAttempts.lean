import Syfrah.Fabric.PinAttempts

/-!
# How many PINs an address can try

Every wrong PIN that was compared is recorded later or still to be recorded. As long as the lock-out
test finds room for the failures that are not recorded yet as well, an address tries no more PINs in a
window than it may.
-/

namespace Syfrah

namespace Mesh

def PinConnection.isRecording (ip : String) : PinConnection → Bool
  | .recording ip' => ip' == ip
  | _ => false

/-- The connection has passed the lock-out test with a wrong PIN that is not recorded. -/
def PinConnection.isUnrecorded (ip : String) : PinConnection → Bool
  | .comparing ip' pin configured => ip' == ip && configured != pin
  | .recording ip' => ip' == ip
  | _ => false

namespace PinChecks

variable {s : PinChecks} {ip : String}

def unrecorded (s : PinChecks) (ip : String) : ℕ := s.connections.countP (·.isUnrecorded ip)

/-- When a wrong PIN passes the lock-out test, there is room for it besides the failures that are not
recorded yet. -/
def LeavesRoom (s : PinChecks) : PinAct → Prop
  | .advance i => match s.connections[i]? with
    | some (.checking ip pin configured) => configured = pin ∨ s.isLockedOut ip = true ∨
        (s.unexpired ip).length + s.unrecorded ip < maxPinAttempts
    | _ => True
  | _ => True

/-- The wrong PINs of an address that were compared in a window. -/
def comparedIn (s : PinChecks) (ip : String) (t : ℕ) : ℕ :=
  s.compared.countP fun e => e.1 == ip && decide (t ≤ e.2 ∧ e.2 < t + pinLockoutNanos)

def comparedSince (s : PinChecks) (ip : String) (t : ℕ) : ℕ :=
  s.compared.countP fun e => e.1 == ip && decide (t ≤ e.2)

def recordedSince (s : PinChecks) (ip : String) (t : ℕ) : ℕ :=
  (s.attempts[ip]?.getD []).countP fun r => decide (t ≤ r)

def failing (s : PinChecks) (ip : String) : ℕ := s.connections.countP (·.isRecording ip)

structure Bounded (s : PinChecks) : Prop where
  past : ∀ e ∈ s.compared, e.2 ≤ s.now
  /-- What was compared lately is recorded, or still to be recorded. -/
  accounted : ∀ ip t, s.now < t + pinLockoutNanos →
    s.comparedSince ip t ≤ s.recordedSince ip t + s.failing ip
  room : ∀ ip t, s.now < t + pinLockoutNanos → s.recordedSince ip t + s.unrecorded ip ≤ maxPinAttempts
  windows : ∀ ip t, s.comparedIn ip t ≤ maxPinAttempts

theorem pinLockoutNanos_pos : 0 < pinLockoutNanos := by decide

theorem recordedSince_le_unexpired {t : ℕ} (h : s.now < t + pinLockoutNanos) :
    s.recordedSince ip t ≤ (s.unexpired ip).length := by
  rw [recordedSince, unexpired, ← List.countP_eq_length_filter]
  refine List.countP_mono_left fun r _ hr => ?_
  have := of_decide_eq_true hr
  have := pinLockoutNanos_pos
  exact decide_eq_true (by omega)

theorem countP_unexpired {t : ℕ} (h : s.now < t + pinLockoutNanos) :
    (s.unexpired ip).countP (fun r => decide (t ≤ r)) = s.recordedSince ip t := by
  rw [recordedSince, unexpired, List.countP_filter]
  refine List.countP_congr fun r _ => ?_
  have := pinLockoutNanos_pos
  simp only [Bool.and_eq_true, decide_eq_true_eq]
  omega

theorem countP_setConnection (p : PinConnection → Bool) {i : ℕ} {c c' : PinConnection}
    (h : s.connections[i]? = some c) :
    (s.connections.set i c').countP p + (if p c then 1 else 0) = s.connections.countP p + if p c' then 1 else 0 := by
  obtain ⟨hlt, rfl⟩ := List.getElem?_eq_some_iff.mp h
  have hpos : p s.connections[i] = true → 0 < s.connections.countP p :=
    fun hp => List.countP_pos_iff.mpr ⟨_, List.getElem_mem hlt, hp⟩
  rw [List.countP_set hlt]
  cases hp : p s.connections[i] with
  | false => simp
  | true =>
      have := hpos hp
      simp only [if_true]
      omega

theorem unrecorded_setConnection {i : ℕ} {c : PinConnection} (c' : PinConnection) (h : s.connections[i]? = some c)
    (ip : String) :
    (s.setConnection i c').unrecorded ip + (if c.isUnrecorded ip then 1 else 0) =
      s.unrecorded ip + if c'.isUnrecorded ip then 1 else 0 :=
  countP_setConnection (·.isUnrecorded ip) h

theorem failing_setConnection {i : ℕ} {c : PinConnection} (c' : PinConnection) (h : s.connections[i]? = some c)
    (ip : String) :
    (s.setConnection i c').failing ip + (if c.isRecording ip then 1 else 0) =
      s.failing ip + if c'.isRecording ip then 1 else 0 :=
  countP_setConnection (·.isRecording ip) h

theorem recordedSince_insert (failures : List ℕ) (ip' : String) (t : ℕ) :
    (({ s with attempts := s.attempts.insert ip failures } : PinChecks)).recordedSince ip' t =
      if ip = ip' then failures.countP (fun r => decide (t ≤ r)) else s.recordedSince ip' t := by
  rw [recordedSince, Std.ExtTreeMap.getElem?_insert]
  by_cases heq : ip = ip'
  · simp [heq]
  · simp [heq, recordedSince]

theorem Bounded.carry {s' : PinChecks} (h : s.Bounded) (hnow : s'.now = s.now) (hcompared : s'.compared = s.compared)
    (haccounted : ∀ ip t, s.now < t + pinLockoutNanos →
      s.comparedSince ip t ≤ s'.recordedSince ip t + s'.failing ip)
    (hroom : ∀ ip t, s.now < t + pinLockoutNanos → s'.recordedSince ip t + s'.unrecorded ip ≤ maxPinAttempts) :
    s'.Bounded := by
  refine ⟨?_, ?_, ?_, ?_⟩
  · rw [hnow, hcompared]
    exact h.past
  · rw [hnow]
    intro ip t ht
    have hle := haccounted ip t ht
    rwa [comparedSince, ← hcompared] at hle
  · rw [hnow]
    exact hroom
  · intro ip t
    rw [comparedIn, hcompared]
    exact h.windows ip t

theorem Bounded.comparedSince_eq_zero (h : s.Bounded) {t : ℕ} (ht : s.now < t) : s.comparedSince ip t = 0 := by
  rw [comparedSince, List.countP_eq_zero]
  intro e he
  have := h.past e he
  simp only [Bool.and_eq_true, decide_eq_true_eq]
  omega

theorem Bounded.setConnection {i : ℕ} {c c' : PinConnection} (h : s.Bounded) (hc : s.connections[i]? = some c)
    (hrecording : ∀ ip, c'.isRecording ip = c.isRecording ip)
    (hunrecorded : ∀ ip, c'.isUnrecorded ip = c.isUnrecorded ip) : (s.setConnection i c').Bounded := by
  refine h.carry rfl rfl (fun ip t ht => ?_) fun ip t ht => ?_
  · have hfailing := failing_setConnection c' hc ip
    rw [hrecording] at hfailing
    rw [Nat.add_right_cancel hfailing]
    exact h.accounted ip t ht
  · have hcount := unrecorded_setConnection c' hc ip
    rw [hunrecorded] at hcount
    rw [Nat.add_right_cancel hcount]
    exact h.room ip t ht

def tested (s : PinChecks) (ip : String) : PinChecks :=
  { s with attempts := s.attempts.insert ip (s.unexpired ip) }

theorem recordedSince_tested (ip ip' : String) {t : ℕ} (ht : s.now < t + pinLockoutNanos) :
    (s.tested ip).recordedSince ip' t = s.recordedSince ip' t := by
  rw [tested, recordedSince_insert]
  split
  · rename_i heq
    subst heq
    exact countP_unexpired ht
  · rfl

theorem Bounded.tested (h : s.Bounded) (ip : String) : (s.tested ip).Bounded := by
  refine h.carry rfl rfl (fun ip' t ht => ?_) fun ip' t ht => ?_
  · rw [recordedSince_tested ip ip' ht]
    exact h.accounted ip' t ht
  · rw [recordedSince_tested ip ip' ht]
    exact h.room ip' t ht

theorem Bounded.passed {i : ℕ} {pin configured : String} (h : s.Bounded)
    (hc : s.connections[i]? = some (.checking ip pin configured))
    (hroom : configured = pin ∨ ∀ t, s.now < t + pinLockoutNanos →
      s.recordedSince ip t + s.unrecorded ip < maxPinAttempts) :
    (s.setConnection i (.comparing ip pin configured)).Bounded := by
  refine h.carry rfl rfl (fun ip' t ht => ?_) fun ip' t ht => ?_
  · have hfailing := failing_setConnection (.comparing ip pin configured) hc ip'
    rw [show (s.setConnection i (.comparing ip pin configured)).failing ip' = s.failing ip' from
      Nat.add_right_cancel hfailing]
    exact h.accounted ip' t ht
  · have hcount := unrecorded_setConnection (.comparing ip pin configured) hc ip'
    have hold := h.room ip' t ht
    rw [show (PinConnection.checking ip pin configured).isUnrecorded ip' = false from rfl] at hcount
    change s.recordedSince ip' t + _ ≤ maxPinAttempts
    cases hwrong : (PinConnection.comparing ip pin configured).isUnrecorded ip' with
    | false =>
        rw [hwrong] at hcount
        omega
    | true =>
        obtain ⟨rfl, hne⟩ : ip = ip' ∧ configured ≠ pin := by
          simpa [PinConnection.isUnrecorded] using hwrong
        have := hroom.resolve_left hne t ht
        rw [hwrong] at hcount
        simp only [if_true, Bool.false_eq_true, if_false] at hcount
        omega

theorem Bounded.compared_wrong {i : ℕ} {pin configured : String} (h : s.Bounded)
    (hc : s.connections[i]? = some (.comparing ip pin configured)) (hne : configured ≠ pin) :
    ({ s with compared := (ip, s.now) :: s.compared }.setConnection i (.recording ip)).Bounded := by
  have hunrecorded : ∀ ip', (s.setConnection i (.recording ip)).unrecorded ip' = s.unrecorded ip' := by
    intro ip'
    have hcount := unrecorded_setConnection (.recording ip) hc ip'
    simp only [PinConnection.isUnrecorded, bne_iff_ne.mpr hne, Bool.and_true] at hcount
    exact Nat.add_right_cancel hcount
  have hfailing : ∀ ip', (s.setConnection i (.recording ip)).failing ip' =
      s.failing ip' + if ip = ip' then 1 else 0 := by
    intro ip'
    have hcount := failing_setConnection (.recording ip) hc ip'
    simpa [PinConnection.isRecording] using hcount
  -- the connection was counted among those that are not recorded
  have hcounted : s.failing ip + 1 ≤ s.unrecorded ip := by
    rw [← hunrecorded, ← show (s.setConnection i (.recording ip)).failing ip = s.failing ip + 1 by simp [hfailing]]
    refine List.countP_mono_left fun c _ hrecording => ?_
    cases c <;> first | exact hrecording | cases hrecording
  refine ⟨?_, fun ip' t ht => ?_, fun ip' t ht => ?_, fun ip' t => ?_⟩
  · intro e he
    rcases List.mem_cons.mp he with rfl | hold
    · exact le_rfl
    · exact h.past e hold
  · change ((ip, s.now) :: s.compared).countP _ ≤
      s.recordedSince ip' t + (s.setConnection i (.recording ip)).failing ip'
    have hold := h.accounted ip' t ht
    rw [hfailing, List.countP_cons]
    by_cases heq : ip = ip'
    · subst heq
      rw [comparedSince] at hold
      split <;> simp only [if_true] <;> omega
    · simpa [heq, comparedSince] using hold
  · change s.recordedSince ip' t + (s.setConnection i (.recording ip)).unrecorded ip' ≤ maxPinAttempts
    rw [hunrecorded]
    exact h.room ip' t ht
  · change ((ip, s.now) :: s.compared).countP _ ≤ maxPinAttempts
    have hold := h.windows ip' t
    rw [List.countP_cons]
    split
    · rename_i hin
      obtain ⟨rfl, hlow, hhigh⟩ : ip = ip' ∧ t ≤ s.now ∧ s.now < t + pinLockoutNanos := by simpa using hin
      -- what was compared in this window is recorded or to be recorded, besides this connection
      have hin : s.comparedIn ip t ≤ s.comparedSince ip t := by
        refine List.countP_mono_left fun e _ he => ?_
        simp only [Bool.and_eq_true, decide_eq_true_eq] at he ⊢
        exact ⟨he.1, he.2.1⟩
      have haccounted := h.accounted ip t hhigh
      have hroom := h.room ip t hhigh
      rw [comparedIn] at hin
      omega
    · exact hold

theorem Bounded.recorded {i : ℕ} (h : s.Bounded) (hc : s.connections[i]? = some (.recording ip)) :
    ({ s with attempts := s.attempts.insert ip (s.unexpired ip ++ [s.now]) }.setConnection i .finished).Bounded := by
  have hrecorded : ∀ ip' t, s.now < t + pinLockoutNanos →
      ({ s with attempts := s.attempts.insert ip (s.unexpired ip ++ [s.now]) } : PinChecks).recordedSince ip' t =
        s.recordedSince ip' t + if ip = ip' ∧ t ≤ s.now then 1 else 0 := by
    intro ip' t ht
    rw [recordedSince_insert]
    by_cases heq : ip = ip'
    · subst heq
      rw [if_pos rfl, List.countP_append, countP_unexpired ht, List.countP_singleton]
      simp
    · simp [heq]
  have hunrecorded : ∀ ip', (s.setConnection i .finished).unrecorded ip' + (if ip = ip' then 1 else 0) =
      s.unrecorded ip' := by
    intro ip'
    have hcount := unrecorded_setConnection .finished hc ip'
    simpa [PinConnection.isUnrecorded] using hcount
  have hfailing : ∀ ip', (s.setConnection i .finished).failing ip' + (if ip = ip' then 1 else 0) =
      s.failing ip' := by
    intro ip'
    have hcount := failing_setConnection .finished hc ip'
    simpa [PinConnection.isRecording] using hcount
  refine h.carry rfl rfl (fun ip' t ht => ?_) fun ip' t ht => ?_
  · change _ ≤ ({ s with attempts := s.attempts.insert ip (s.unexpired ip ++ [s.now]) } : PinChecks).recordedSince ip' t +
      (s.setConnection i .finished).failing ip'
    have hold := h.accounted ip' t ht
    have hcount := hfailing ip'
    rw [hrecorded ip' t ht]
    by_cases hpast : t ≤ s.now
    · simp only [hpast, and_true]
      omega
    · rw [h.comparedSince_eq_zero (Nat.lt_of_not_le hpast)]
      exact Nat.zero_le _
  · change ({ s with attempts := s.attempts.insert ip (s.unexpired ip ++ [s.now]) } : PinChecks).recordedSince ip' t +
      (s.setConnection i .finished).unrecorded ip' ≤ maxPinAttempts
    have hold := h.room ip' t ht
    have hcount := hunrecorded ip'
    rw [hrecorded ip' t ht]
    by_cases heq : ip = ip'
    · simp only [heq, true_and, if_true] at hcount ⊢
      split <;> omega
    · simp only [heq, false_and, if_false] at hcount ⊢
      omega

/-- **One step of a connection.** -/
theorem Bounded.advance {i : ℕ} {c : PinConnection} (h : s.Bounded) (hc : s.connections[i]? = some c)
    (hroom : s.LeavesRoom (.advance i)) : (s.advance i c).Bounded := by
  cases c with
  | arrived ip pin =>
      rw [PinChecks.advance]
      split
      · exact h.setConnection hc (fun _ => rfl) fun _ => rfl
      · exact h.setConnection hc (fun _ => rfl) fun _ => rfl
  | checking ip pin configured =>
      simp only [LeavesRoom, hc] at hroom
      have htested := h.tested ip
      rw [PinChecks.advance]
      split
      · exact htested.setConnection hc (fun _ => rfl) fun _ => rfl
      · rename_i hfree
        refine htested.passed hc (hroom.imp_right fun hleaves t ht => ?_)
        have hle : s.recordedSince ip t ≤ (s.unexpired ip).length := recordedSince_le_unexpired ht
        rw [← recordedSince_tested (s := s) ip ip ht] at hle
        exact lt_of_le_of_lt (Nat.add_le_add_right hle _) (hleaves.resolve_left hfree)
  | comparing ip pin configured =>
      rw [PinChecks.advance]
      split
      · rename_i heq
        refine h.setConnection hc (fun _ => rfl) fun ip' => ?_
        simp [PinConnection.isUnrecorded, heq]
      · rename_i hne
        exact h.compared_wrong hc hne
  | recording ip => exact h.recorded hc
  | finished => exact h

theorem Bounded.step (h : s.Bounded) (a : PinAct) (hroom : s.LeavesRoom a) : (step a s).2.Bounded := by
  cases a with
  | tick nanos =>
      refine ⟨fun e he => Nat.le_add_right_of_le (h.past e he), fun ip t ht => h.accounted ip t ?_,
        fun ip t ht => h.room ip t ?_, h.windows⟩ <;> exact Nat.lt_of_le_of_lt (Nat.le_add_right s.now nanos) ht
  | configure pin => exact ⟨h.past, h.accounted, h.room, h.windows⟩
  | connect ip pin =>
      have hcount : ∀ p : PinConnection → Bool, p (.arrived ip pin) = false →
          (s.connections ++ [PinConnection.arrived ip pin]).countP p = s.connections.countP p := by
        intro p hp
        rw [List.countP_append, List.countP_singleton, hp, if_neg Bool.false_ne_true, Nat.add_zero]
      refine h.carry rfl rfl (fun ip' t ht => ?_) fun ip' t ht => ?_
      · exact (h.accounted ip' t ht).trans (Nat.add_le_add_left (hcount (·.isRecording ip') rfl).ge _)
      · exact (Nat.add_le_add_left (hcount (·.isUnrecorded ip') rfl).le _).trans (h.room ip' t ht)
  | advance i =>
      rw [PinChecks.step]
      cases hc : s.connections[i]? with
      | none => exact h
      | some c => exact h.advance hc hroom

theorem bounded_start (configured : Option String) : (start configured).Bounded where
  past := fun _ he => absurd he List.not_mem_nil
  accounted := fun _ _ _ => Nat.zero_le _
  room := fun ip t _ => by simp [recordedSince, unrecorded, start]
  windows := fun _ _ => Nat.zero_le _

/-- **PIN guessing is bounded** in every run in which a wrong PIN passes the lock-out test only when there
is room for it besides the failures that are not recorded yet: in a window of 600 seconds no more than
`maxPinAttempts` wrong PINs of an address are compared. -/
theorem comparedIn_le_of_leavesRoom (configured : Option String) (acts : List PinAct)
    (hroom : ∀ e ∈ trace step acts (start configured), e.before.LeavesRoom e.action) (ip : String) (t : ℕ) :
    (reached step acts (start configured)).comparedIn ip t ≤ maxPinAttempts :=
  (invariant_reached (I := Bounded) (C := fun e => e.before.LeavesRoom e.action) (bounded_start configured)
    (fun _ a hI hC => hI.step a hC) hroom).windows ip t

/-- Two wrong PINs of an address, one after the other. -/
def twoGuesses : List PinAct :=
  [.connect "192.0.2.9" "0000", .advance 0, .advance 0, .advance 0, .advance 0, .tick nanosPerSec,
    .connect "192.0.2.9" "0001", .advance 1, .advance 1, .advance 1, .advance 1]

theorem comparedIn_twoGuesses :
    (∀ e ∈ trace step twoGuesses (start (some "4829")), e.before.LeavesRoom e.action) ∧
      (reached step twoGuesses (start (some "4829"))).comparedIn "192.0.2.9" 0 ≤ maxPinAttempts := by
  have hroom : ∀ e ∈ trace step twoGuesses (start (some "4829")), e.before.LeavesRoom e.action := by
    intro e he
    simp only [twoGuesses, trace, List.mem_cons, List.not_mem_nil, or_false] at he
    rcases he with rfl | rfl | rfl | rfl | rfl | rfl | rfl | rfl | rfl | rfl | rfl
    all_goals first | exact trivial | exact .inr (.inr (by decide +kernel))
  exact ⟨hroom, comparedIn_le_of_leavesRoom _ _ hroom _ _⟩

/-- Six connections of an address that all pass the lock-out test before one of them records its
failure. -/
def sixGuesses : List PinAct :=
  List.replicate 6 (.connect "192.0.2.9" "0000") ++ (List.range 6).map .advance ++ (List.range 6).map .advance ++
    (List.range 6).map .advance

theorem comparedIn_sixGuesses :
    (reached step sixGuesses (start (some "4829"))).comparedIn "192.0.2.9" 0 = 6 ∧ maxPinAttempts = 5 := by
  decide +kernel

end PinChecks

end Mesh

end Syfrah
