import Syfrah.Fabric.PidFile

/-!
# At most one daemon

`write_pid` locks the PID file, replaces it by a new file and locks that one. Each lock belongs to a
file, while the name moves on to other files, so a lock keeps other processes out only as long as it is
the lock of the file that the name stands for. As long as every lock is granted on that file and no
locked file is unlinked, the processes that must keep others out are those which hold its lock: at most
one.
-/

namespace Syfrah

namespace PidFile

/-- No two processes hold files that `write_pid` returned to them. -/
def State.OneHolder (s : State) : Prop :=
  ∀ p q, (s.process p).held ≠ [] → (s.process q).held ≠ [] → p = q

namespace State

/-- The file is locked through another description, or it is the one that the name stands for. -/
def locksNamed (s : State) (file : ℕ) (d : Desc) : Bool :=
  (s.files.lock file).any (· ≠ d) || s.files.entry .pid == some file

/-- The file that the name stands for is not locked. -/
def unlinksUnlocked (s : State) : Bool :=
  (s.files.entry .pid).all fun file => (s.files.lock file).isNone

end State

/-- Locks are taken on the file that the name stands for, and only unlocked files are unlinked. -/
def Act.orderly (s : State) : Act → Bool
  | .removePid p => (s.process p).pc != .idle || s.unlinksUnlocked
  | .advance p _ =>
    match (s.process p).pc with
    | .opened file => s.locksNamed file ⟨p, (s.process p).call, false⟩
    | .reopened file => s.locksNamed file ⟨p, (s.process p).call, true⟩
    | .removing => s.unlinksUnlocked
    | _ => true
  | _ => true

/-! ### The locks that processes rely on -/

def Pc.claims (p call : ℕ) : Pc → List Desc
  | .locked _ | .tmpOpened _ | .tmpWritten => [⟨p, call, false⟩]
  | .relocked _ | .emptied _ | .pidWritten _ => [⟨p, call, true⟩]
  | _ => []

def Process.claims (p : ℕ) (proc : Process) : List Desc :=
  proc.pc.claims p proc.call ++ proc.held.map fun call => ⟨p, call, true⟩

theorem Process.process_of_mem_claims {p : ℕ} {proc : Process} {d : Desc}
    (h : d ∈ proc.claims p) : d.process = p := by
  rcases List.mem_append.mp h with hpc | hheld
  · cases hproc : proc.pc <;> simp only [hproc, Pc.claims, List.mem_singleton, List.not_mem_nil]
      at hpc <;> exact congrArg Desc.process hpc
  · obtain ⟨call, -, rfl⟩ := List.mem_map.mp hheld
    rfl

structure State.Guarded (s : State) : Prop where
  holds : ∀ p, ∀ d ∈ (s.process p).claims p, s.files.Holds d .pid
  past : ∀ p, ∀ call ∈ (s.process p).held, call < (s.process p).call

namespace State.Guarded

variable {s : State} {p : ℕ} {files : Files}

theorem oneHolder (h : s.Guarded) : s.OneHolder := by
  intro p q hp hq
  have hclaim : ∀ p, (s.process p).held ≠ [] → ∃ d ∈ (s.process p).claims p, d.process = p := by
    intro p hheld
    obtain ⟨call, hcall⟩ := List.exists_mem_of_ne_nil _ hheld
    exact ⟨⟨p, call, true⟩, List.mem_append_right _ (List.mem_map.mpr ⟨call, hcall, rfl⟩), rfl⟩
  obtain ⟨d, hd, rfl⟩ := hclaim p hp
  obtain ⟨d', hd', rfl⟩ := hclaim q hq
  exact congrArg Desc.process ((h.holds _ d hd).unique (h.holds _ d' hd'))

theorem update (h : s.Guarded) {proc : Process}
    (hothers : ∀ d : Desc, d.process ≠ p → s.files.Holds d .pid → files.Holds d .pid)
    (hown : ∀ d ∈ proc.claims p, files.Holds d .pid)
    (hpast : ∀ call ∈ proc.held, call < proc.call) :
    (⟨files, Function.update s.process p proc⟩ : State).Guarded where
  holds q d hd := by
    by_cases hq : q = p
    · subst hq
      simp only [Function.update_self] at hd
      exact hown d hd
    · simp only [Function.update_of_ne hq] at hd
      exact hothers d (Process.process_of_mem_claims hd ▸ hq) (h.holds q d hd)
  past q call hcall := by
    by_cases hq : q = p
    · subst hq
      simp only [Function.update_self] at hcall ⊢
      exact hpast call hcall
    · simp only [Function.update_of_ne hq] at hcall ⊢
      exact h.past q call hcall

theorem goto (h : s.Guarded) (hkeep : ∀ d : Desc, s.files.Holds d .pid → files.Holds d .pid) {pc : Pc}
    (hpc : ∀ d ∈ pc.claims p (s.process p).call, files.Holds d .pid) :
    (s.goto p files pc).Guarded := by
  refine h.update (fun d _ => hkeep d) (fun d hd => ?_) (h.past p)
  rcases List.mem_append.mp hd with hnew | hheld
  · exact hpc d hnew
  · exact hkeep d (h.holds p d (List.mem_append_right _ hheld))

theorem goto_same (h : s.Guarded) (hkeep : ∀ d : Desc, s.files.Holds d .pid → files.Holds d .pid)
    {pc pc' : Pc} (hpc : (s.process p).pc = pc') (hclaims : ∀ call, pc.claims p call = pc'.claims p call) :
    (s.goto p files pc).Guarded := by
  refine h.goto hkeep fun d hd => hkeep d (h.holds p d (List.mem_append_left _ ?_))
  rwa [hpc, ← hclaims]

theorem fail (h : s.Guarded) : (s.fail p).Guarded := by
  refine h.update (fun d hd hholds => hholds.close (by simp [hd])) (fun d hd => ?_) (h.past p)
  obtain ⟨call, hcall, rfl⟩ := List.mem_map.mp hd
  have hne : call ≠ (s.process p).call := (h.past p call hcall).ne
  exact (h.holds p _ (List.mem_append_right _ hd)).close (by simp [hne])

theorem succeed (h : s.Guarded) {file : ℕ} (hpc : (s.process p).pc = .pidWritten file) :
    (s.succeed p).Guarded := by
  have hkeep : ∀ d : Desc, d.process ≠ p ∨ d.second = true → s.files.Holds d .pid →
      (s.files.close fun d => d == ⟨p, (s.process p).call, false⟩).Holds d .pid := by
    intro d hd hholds
    refine hholds.close (beq_false_of_ne ?_)
    rintro rfl
    simp at hd
  refine h.update (fun d hd => hkeep d (.inl hd)) (fun d hd => ?_) fun call hcall => ?_
  · obtain ⟨call, hcall, rfl⟩ := List.mem_map.mp hd
    refine hkeep _ (.inr rfl) (h.holds p _ ?_)
    rcases List.mem_cons.mp hcall with rfl | hheld
    · exact List.mem_append_left _ (by simp [hpc, Pc.claims])
    · exact List.mem_append_right _ (List.mem_map.mpr ⟨call, hheld, rfl⟩)
  · rcases List.mem_cons.mp hcall with rfl | hheld
    · exact Nat.lt_succ_self _
    · exact (h.past p call hheld).trans (Nat.lt_succ_self _)

theorem lock (h : s.Guarded) {file : ℕ} {d : Desc} (hnamed : s.locksNamed file d = true)
    (hlock : s.files.tryLock file d = some files) {pc : Pc}
    (hpc : pc.claims p (s.process p).call = [d]) : (s.goto p files pc).Guarded := by
  refine h.goto (fun d' hd' => hd'.tryLock hlock) fun d' hd' => ?_
  rw [hpc, List.mem_singleton] at hd'
  subst hd'
  obtain ⟨hfree, -⟩ := FileSystem.tryLock_eq_some.mp hlock
  have hfile : s.files.entry .pid = some file := by
    rcases hfree with hnone | hown
    · simpa [locksNamed, hnone] using hnamed
    · simpa [locksNamed, hown] using hnamed
  exact FileSystem.holds_of_tryLock hlock hfile

theorem rename (h : s.Guarded) (hpc : (s.process p).pc = .tmpWritten) :
    (s.goto p files .renamed).Guarded := by
  have hmine : s.files.Holds ⟨p, (s.process p).call, false⟩ .pid :=
    h.holds p _ (List.mem_append_left _ (by simp [hpc, Pc.claims]))
  refine h.update (fun d hd hholds => ?_) (fun d hd => ?_) (h.past p)
  · cases hholds.unique hmine
    exact absurd rfl hd
  · obtain ⟨call, hcall, rfl⟩ := List.mem_map.mp hd
    have heq := (h.holds p _ (List.mem_append_right _ hd)).unique hmine
    cases heq

theorem unlink (h : s.Guarded) (hfree : s.unlinksUnlocked = true) {pc : Pc}
    (hpc : ∀ call, pc.claims p call = []) : (s.goto p (s.files.unlink .pid) pc).Guarded := by
  have hnone : ∀ d : Desc, ¬ s.files.Holds d .pid := by
    rintro d ⟨file, hfile, hlock⟩
    simp [unlinksUnlocked, hfile, hlock] at hfree
  refine h.goto (fun d hd => absurd hd (hnone d)) fun d hd => ?_
  rw [hpc] at hd
  cases hd

theorem advance (h : s.Guarded) {answer : Bool}
    (hact : (Act.advance p answer).orderly s = true) : (s.advance p answer).Guarded := by
  unfold State.advance
  simp only [Act.orderly] at hact
  cases hpc : (s.process p).pc with
  | idle => exact h
  | opened file =>
      rw [hpc] at hact
      dsimp only
      split
      · exact h.fail
      · rename_i files hlock
        exact h.lock hact hlock rfl
  | locked file =>
      refine h.goto_same (fun d hd => ?_) hpc fun _ => ?_
      · exact hd.openCreate .tmp
      · rfl
  | tmpOpened tmp =>
      refine h.goto_same (fun d hd => ?_) hpc fun _ => ?_
      · exact hd
      · rfl
  | tmpWritten =>
      dsimp only
      split
      · exact h.fail
      · exact h.rename hpc
  | renamed =>
      dsimp only
      split
      · exact h.fail
      · exact h.goto_same (fun d hd => hd) hpc fun _ => by rfl
  | reopened file =>
      rw [hpc] at hact
      dsimp only
      split
      · exact h.fail
      · rename_i files hlock
        exact h.lock hact hlock rfl
  | relocked file =>
      refine h.goto_same (fun d hd => ?_) hpc fun _ => ?_
      · exact hd
      · rfl
  | emptied file =>
      refine h.goto_same (fun d hd => ?_) hpc fun _ => ?_
      · exact hd
      · rfl
  | pidWritten file => exact h.succeed hpc
  | reading file =>
      dsimp only
      split <;> exact h.goto_same (fun d hd => hd) hpc fun _ => by rfl
  | killing pid =>
      dsimp only
      split <;> exact h.goto_same (fun d hd => hd) hpc fun _ => by rfl
  | checkingZombie pid =>
      dsimp only
      split <;> exact h.goto_same (fun d hd => hd) hpc fun _ => by rfl
  | removing =>
      rw [hpc] at hact
      exact h.unlink hact fun _ => rfl

/-- **A step keeps every process guarded.** -/
theorem step (h : s.Guarded) {act : Act} (hact : act.orderly s = true) :
    (State.step act s).2.Guarded := by
  cases act with
  | writePid p =>
      dsimp only [State.step]
      split
      · rename_i hpc
        exact h.goto_same (fun d hd => hd.openCreate .pid) hpc fun _ => by rfl
      · exact h
  | daemonRunning p =>
      dsimp only [State.step]
      split
      · rename_i hpc
        split
        · exact h
        · exact h.goto_same (fun d hd => hd) hpc fun _ => by rfl
      · exact h
  | removePid p =>
      dsimp only [State.step]
      split
      · rename_i hpc
        exact h.unlink (by simpa [Act.orderly, hpc] using hact) fun _ => rfl
      · exact h
  | advance p answer => exact h.advance hact
  | drop p call =>
      dsimp only [State.step]
      split
      · rename_i hcall
        refine h.update (fun d hd hholds => hholds.close (beq_false_of_ne ?_)) (fun d hd => ?_)
          fun c hc => h.past p c (List.mem_of_mem_filter hc)
        · rintro rfl
          exact hd rfl
        · have hne : d ≠ ⟨p, call, true⟩ := by
            rintro rfl
            rcases List.mem_append.mp hd with hpc | hheld
            · cases hproc : (s.process p).pc <;> simp [hproc, Pc.claims] at hpc
              all_goals exact (h.past p call hcall).ne hpc
            · simp at hheld
          refine (h.holds p d ?_).close (beq_false_of_ne hne)
          rcases List.mem_append.mp hd with hpc | hheld
          · exact List.mem_append_left _ hpc
          · obtain ⟨c, hc, rfl⟩ := List.mem_map.mp hheld
            exact List.mem_append_right _ (List.mem_map.mpr ⟨c, List.mem_of_mem_filter hc, rfl⟩)
      · exact h
  | exit p =>
      refine h.update (fun d hd hholds => hholds.close (by simpa using hd)) ?_ ?_
      · intro d hd
        simp [Process.claims, Pc.claims] at hd
      · intro call hcall
        cases hcall

end State.Guarded

theorem State.guarded_start (entry : FileName → Option ℕ) (content : ℕ → List Char) (next : ℕ) :
    (State.start entry content next).Guarded where
  holds p d hd := by simp [State.start, Process.claims, Pc.claims] at hd
  past p call hcall := by simp [State.start] at hcall

/-- **At most one daemon** runs as long as the processes are orderly. -/
theorem oneHolder_of_orderly (entry : FileName → Option ℕ) (content : ℕ → List Char) (next : ℕ)
    (acts : List Act)
    (hacts : ∀ e ∈ trace State.step acts (.start entry content next),
      e.action.orderly e.before = true) :
    (reached State.step acts (.start entry content next)).OneHolder := by
  have hguarded := invariant_reached (I := State.Guarded) (State.guarded_start entry content next)
    (fun _ _ h hact => h.step hact) hacts
  exact hguarded.oneHolder

def State.fresh : State := .start (fun _ => none) (fun _ => []) 0

/-- The calls of `write_pid` after the file is open. -/
def finish (p : ℕ) : List Act := List.replicate 9 (.advance p true)

/-- A second process is refused while the first one runs, and takes over from it when it is dead. -/
def takeOver : List Act :=
  .writePid 1 :: finish 1 ++ [.writePid 2, .advance 2 true, .exit 1, .daemonRunning 2, .advance 2 true,
    .advance 2 false, .advance 2 true, .writePid 2] ++ finish 2

theorem oneHolder_takeOver :
    (reached State.step takeOver .fresh).OneHolder ∧
      ((reached State.step takeOver .fresh).process 2).held = [0] :=
  ⟨oneHolder_of_orderly _ _ _ takeOver (by decide +kernel), by decide +kernel⟩

/-- The second process opens the PID file before the first one replaces it, and asks for the lock of
the old file when the first one has released it. -/
theorem two_daemons :
    ¬ (reached State.step (.writePid 2 :: .writePid 1 :: finish 1 ++ finish 2) .fresh).OneHolder := by
  intro h
  exact absurd (h 1 2 (by decide +kernel) (by decide +kernel)) (by decide)

end PidFile

end Syfrah
