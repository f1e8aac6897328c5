import Mathlib.Data.List.Perm.Basic
import Mathlib.Data.String.Basic
import Syfrah.ControlPlane.Scheduler

/-!
# The choice of the scheduler

Names that differ make the best candidate unique, so the order of the list is not seen. A hypervisor
that rejects is excluded from then on, which is why the retries check no hypervisor twice.
-/

namespace Syfrah

namespace Scheduler

variable {σ : Type} {excluded : List String} {decision : PlacementDecision σ}

/-- What the checks made on the way to a result say. -/
structure Checked (attempts : ℕ) (excluded : List String) (r : Attempts σ) : Prop where
  nodup : (r.checks.map (·.1.hypervisorId)).Nodup
  fresh : ∀ p ∈ r.checks, p.1.hypervisorId ∉ excluded
  bounded : r.checks.length ≤ attempts
  result : ∀ d, r.result = .ok d → (d, .ok ()) ∈ r.checks

theorem checked_error (attempts : ℕ) (e : SchedulerError) :
    Checked attempts excluded (⟨.error e, []⟩ : Attempts σ) :=
  ⟨.nil, fun _ => (nomatch ·), Nat.zero_le _, fun _ => (nomatch ·)⟩

/-- A rejected check in front of checks that leave its hypervisor out. -/
theorem Checked.cons {attempts : ℕ} {r : Attempts σ} {reason : String}
    (h : Checked attempts (excluded ++ [decision.hypervisorId]) r) (hfresh : decision.hypervisorId ∉ excluded) :
    Checked (attempts + 1) excluded (⟨r.result, (decision, .error reason) :: r.checks⟩ : Attempts σ) := by
  have hother : ∀ p ∈ r.checks, p.1.hypervisorId ∉ excluded ∧ p.1.hypervisorId ≠ decision.hypervisorId := by
    simpa using h.fresh
  refine ⟨?_, ?_, Nat.succ_le_succ h.bounded, fun d hd => List.mem_cons_of_mem _ (h.result d hd)⟩
  · rw [List.map_cons, List.nodup_cons]
    refine ⟨fun hmem => ?_, h.nodup⟩
    obtain ⟨p, hp, heq⟩ := List.mem_map.mp hmem
    exact (hother p hp).2 heq
  · exact List.forall_mem_cons.mpr ⟨hfresh, fun p hp => (hother p hp).1⟩

/-! ### One decision -/

variable [LinearOrder σ] {W : Type} {request : Request σ}
  {candidates candidates' : List HypervisorCandidate}

def Request.admits (request : Request σ) (excluded : List String) (c : HypervisorCandidate) : Bool :=
  c.passes request.vcpus request.memoryMb request.constraints excluded

def PlacementDecision.of (request : Request σ) (c : HypervisorCandidate) : PlacementDecision σ :=
  ⟨c.name, c.fabricIpv6, request.score c, false⟩

/-- A candidate that passes the filter and before which no other one comes. -/
structure Best (request : Request σ) (candidates : List HypervisorCandidate) (excluded : List String)
    (c : HypervisorCandidate) : Prop where
  mem : c ∈ candidates
  passes : request.admits excluded c = true
  best : ∀ d ∈ candidates, request.admits excluded d = true →
    request.score d < request.score c ∨ request.score d = request.score c ∧ c.name ≤ d.name

theorem before_iff {score : HypervisorCandidate → σ} {a b : HypervisorCandidate} :
    before score a b = true ↔ score b < score a ∨ score b = score a ∧ a.name ≤ b.name := by
  unfold before
  split
  · rename_i heq
    simp [heq]
  · rename_i hne
    simp [Ne.symm hne]

theorem before_trans (score : HypervisorCandidate → σ) (a b c : HypervisorCandidate)
    (hab : before score a b = true) (hbc : before score b c = true) : before score a c = true := by
  rw [before_iff] at hab hbc ⊢
  rcases hab with hab | ⟨hab, hname⟩ <;> rcases hbc with hbc | ⟨hbc, hname'⟩
  · exact .inl (hbc.trans hab)
  · exact .inl (hbc ▸ hab)
  · exact .inl (hab ▸ hbc)
  · exact .inr ⟨hbc.trans hab, hname.trans hname'⟩

theorem before_total (score : HypervisorCandidate → σ) (a b : HypervisorCandidate) :
    (before score a b || before score b a) = true := by
  rw [Bool.or_eq_true, before_iff, before_iff]
  rcases lt_trichotomy (score a) (score b) with h | h | h
  · exact .inr (.inl h)
  · rcases le_total a.name b.name with hname | hname
    · exact .inl (.inr ⟨h.symm, hname⟩)
    · exact .inr (.inr ⟨h, hname⟩)
  · exact .inl (.inl h)

theorem Best.name_eq {c d : HypervisorCandidate} (hc : Best request candidates excluded c)
    (hd : Best request candidates excluded d) : c.name = d.name := by
  rcases hc.best d hd.mem hd.passes with hlt | ⟨heq, hle⟩
  · rcases hd.best c hc.mem hc.passes with hlt' | ⟨heq', -⟩
    · exact absurd hlt' hlt.asymm
    · exact absurd heq' hlt.ne'
  · rcases hd.best c hc.mem hc.passes with hlt' | ⟨-, hle'⟩
    · exact absurd heq hlt'.ne'
    · exact hle.antisymm hle'

theorem Best.of_perm {c : HypervisorCandidate} (h : Best request candidates excluded c)
    (hperm : candidates'.Perm candidates) : Best request candidates' excluded c :=
  ⟨hperm.mem_iff.mpr h.mem, h.passes, fun d hd => h.best d (hperm.mem_iff.mp hd)⟩

section Zero

variable [Zero σ]

/-- **One decision** on candidates: the best of them, or an error if none passes. -/
theorem schedule_spec (request : Request σ) (excluded : List String) (hne : candidates ≠ []) :
    (∃ c, Best request candidates excluded c ∧ schedule request candidates excluded = .ok (.of request c)) ∨
      (∀ c ∈ candidates, request.admits excluded c = false) ∧
        schedule request candidates excluded = .error (noMatch request.constraints) := by
  have hempty : candidates.isEmpty = false := by simpa using hne
  set passing := candidates.filter fun c =>
    c.passes request.vcpus request.memoryMb request.constraints excluded with hpassing
  have hperm := List.mergeSort_perm passing (before request.score)
  have hsorted := List.pairwise_mergeSort (before_trans request.score) (before_total request.score) passing
  simp only [schedule, hempty, ← hpassing, Bool.false_eq_true, if_false]
  cases hsort : passing.mergeSort (before request.score) with
  | nil =>
      rw [hsort, List.nil_perm, hpassing, List.filter_eq_nil_iff] at hperm
      exact .inr ⟨fun c hc => Bool.eq_false_iff.mpr (hperm c hc), rfl⟩
  | cons winner rest =>
      rw [hsort] at hperm hsorted
      have hmem : ∀ c, c ∈ winner :: rest ↔ c ∈ candidates ∧ request.admits excluded c = true :=
        fun c => hperm.mem_iff.trans List.mem_filter
      obtain ⟨hwinner, hpasses⟩ := (hmem winner).mp List.mem_cons_self
      refine .inl ⟨winner, ⟨hwinner, hpasses, fun d hd hpass => ?_⟩, rfl⟩
      rcases List.mem_cons.mp ((hmem d).mpr ⟨hd, hpass⟩) with rfl | hrest
      · exact .inr ⟨rfl, le_rfl⟩
      · exact before_iff.mp ((List.pairwise_cons.mp hsorted).1 d hrest)

theorem schedule_perm (hnames : (candidates.map (·.name)).Nodup) (hperm : candidates'.Perm candidates) :
    schedule request candidates' excluded = schedule request candidates excluded := by
  by_cases hne : candidates = []
  · rw [hne] at hperm ⊢
    rw [List.perm_nil.mp hperm]
  · have hne' : candidates' ≠ [] := fun h => hne (List.nil_perm.mp (h ▸ hperm))
    rcases schedule_spec request excluded hne with ⟨c, hc, hrun⟩ | ⟨hnone, hrun⟩ <;>
      rcases schedule_spec request excluded hne' with ⟨d, hd, hrun'⟩ | ⟨hnone', hrun'⟩
    · have hname := hc.name_eq (hd.of_perm hperm.symm)
      rw [hrun, hrun', List.inj_on_of_nodup_map hnames hc.mem (hperm.mem_iff.mp hd.mem) hname]
    · have hpass := hc.passes
      rw [hnone' c (hperm.mem_iff.mpr hc.mem)] at hpass
      cases hpass
    · have hpass := hd.passes
      rw [hnone d (hperm.mem_iff.mp hd.mem)] at hpass
      cases hpass
    · rw [hrun, hrun']

theorem notMem_excluded (hne : candidates ≠ []) (h : schedule request candidates excluded = .ok decision) :
    decision.isLocalFallback = false ∧ decision.hypervisorId ∉ excluded := by
  rcases schedule_spec request excluded hne with ⟨c, hc, hrun⟩ | ⟨-, hrun⟩
  · rw [hrun] at h
    cases h
    have hpass := hc.passes
    simp only [Request.admits, HypervisorCandidate.passes, Bool.and_eq_true] at hpass
    have hfresh : c.name ∉ excluded := by simpa using hpass.1.1.1.1.2
    exact ⟨rfl, hfresh⟩
  · rw [hrun] at h
    cases h

/-! ### Retries -/

theorem checked_retry (hne : candidates ≠ []) (maxRetries : ℕ)
    (admissionCheck : PlacementDecision σ → W → Except String Unit × W) (attempts : ℕ) (w : W) :
    Checked attempts excluded (retry request candidates maxRetries admissionCheck attempts excluded w) := by
  induction attempts generalizing excluded w with
  | zero => exact checked_error _ _
  | succ attempts ih =>
      rw [retry]
      cases hrun : schedule request candidates excluded with
      | error e => exact checked_error _ _
      | ok decision =>
          obtain ⟨hremote, hfresh⟩ := notMem_excluded hne hrun
          simp only [hremote]
          rcases hcheck : admissionCheck decision w with ⟨reason | _, w'⟩
          · exact (ih _).cons hfresh
          · refine ⟨List.nodup_singleton _, by simpa using hfresh, by simp, fun d hd => ?_⟩
            cases hd
            exact List.mem_singleton_self _

/-- **The choice of the scheduler**: on a list that is not empty, the best candidate of those that pass,
or an error when none does; the local node on an empty one. The order of the list does not matter. With
retries, no hypervisor is checked twice and the one returned passed its check. -/
theorem schedule_best (request : Request σ) (candidates : List HypervisorCandidate) (excluded : List String)
    (hnames : (candidates.map (·.name)).Nodup) :
    (candidates = [] →
      schedule request candidates excluded = .ok ⟨request.localNode, request.localAddr, 0, true⟩) ∧
    (candidates ≠ [] →
      (∀ decision, schedule request candidates excluded = .ok decision →
        ∃ c, Best request candidates excluded c ∧ decision = .of request c) ∧
      ((∃ e, schedule request candidates excluded = .error e) ↔
        ∀ c ∈ candidates, request.admits excluded c = false)) ∧
    (∀ candidates' : List HypervisorCandidate, candidates'.Perm candidates →
      schedule request candidates' excluded = schedule request candidates excluded) ∧
    ∀ (W : Type) (admissionCheck : PlacementDecision σ → W → Except String Unit × W) (w : W) (maxRetries : ℕ),
      let r := scheduleWithRetry request candidates maxRetries admissionCheck w
      (r.checks.map (·.1.hypervisorId)).Nodup ∧ r.checks.length ≤ maxRetries + 1 ∧
        ∀ d, r.result = .ok d → ∀ p ∈ r.checks, p.1.hypervisorId = d.hypervisorId → p.2 = .ok () := by
  refine ⟨?_, fun hne => ?_, fun _ hperm => schedule_perm hnames hperm, fun W admissionCheck w maxRetries => ?_⟩
  · rintro rfl
    rfl
  · rcases schedule_spec request excluded hne with ⟨c, hc, hrun⟩ | ⟨hnone, hrun⟩
    · refine ⟨fun decision h => ⟨c, hc, ?_⟩, fun ⟨e, he⟩ => ?_, fun hnone => ?_⟩
      · rw [hrun] at h
        exact (Except.ok.inj h).symm
      · rw [hrun] at he
        cases he
      · exact absurd hc.passes (by simp [hnone c hc.mem])
    · rw [hrun]
      exact ⟨fun _ => (nomatch ·), fun _ => hnone, fun _ => ⟨_, rfl⟩⟩
  · by_cases hne : candidates = []
    · subst hne
      exact ⟨.nil, Nat.zero_le _, fun _ _ _ => (nomatch ·)⟩
    · have hchecked : Checked (maxRetries + 1) [] (scheduleWithRetry request candidates maxRetries admissionCheck w) :=
        checked_retry hne maxRetries admissionCheck (maxRetries + 1) w
      refine ⟨hchecked.nodup, hchecked.bounded, fun d hd p hp hid => ?_⟩
      rw [List.inj_on_of_nodup_map hchecked.nodup hp (hchecked.result d hd) hid]

end Zero

def node (name : String) (used : ℕ) : HypervisorCandidate :=
  ⟨name, name, "eu", "az-1", "Available", ∅, [], 8, 16384, used, 0, 0, "fd00::1"⟩

/-- A request for one CPU, with the free CPUs of a candidate as its score. -/
def smallRequest : Request ℤ := ⟨"hv-1", "fd00::1", 1, 1024, {}, fun c => c.availableVcpus⟩

theorem schedule_best_two :
    schedule smallRequest [node "hv-2" 2, node "hv-1" 4] [] = schedule smallRequest [node "hv-1" 4, node "hv-2" 2] [] :=
  (schedule_best smallRequest [node "hv-1" 4, node "hv-2" 2] [] (by decide)).2.2.1 _ (.swap _ _ _)

/-- **No data**: no candidate passes, and the scheduler does not fail. -/
theorem schedule_empty :
    (∀ c ∈ ([] : List HypervisorCandidate), smallRequest.admits [] c = false) ∧
      schedule smallRequest [] [] = .ok ⟨"hv-1", "fd00::1", 0, true⟩ :=
  ⟨fun _ => (nomatch ·), rfl⟩

end Scheduler

end Syfrah
