import Mathlib.Tactic

/-!
# Runs of a machine and batches of its actions

A machine answers an action with a reply and a new state. `Exec` records one such step and `Run` a
sequence of them, each starting where the one before it ended; an invariant is proved over a run from
its first state and its steps.

A batch is an action or a list of batches, executed in order up to the first failure. However it is
nested, executing it is a run of its leaves up to the first one that fails.
-/

namespace Syfrah

structure Exec (S A R : Type) where
  before : S
  action : A
  reply : R
  after : S

section Run

variable {S A R : Type} (step : A → S → R × S)

def Exec.of (a : A) (s : S) : Exec S A R := ⟨s, a, (step a s).1, (step a s).2⟩

/-- A sequence of steps, each from the state the one before it reached. -/
inductive Run : S → List (Exec S A R) → S → Prop
  | nil (s : S) : Run s [] s
  | snoc {s t : S} {es : List (Exec S A R)} (a : A) :
      Run s es t → Run s (es ++ [Exec.of step a t]) (step a t).2

/-- The steps that some actions take from a state. -/
def trace : List A → S → List (Exec S A R)
  | [], _ => []
  | a :: as, s => Exec.of step a s :: trace as (step a s).2

/-- The state that some actions reach from a state. -/
def reached : List A → S → S
  | [], s => s
  | a :: as, s => reached as (step a s).2

variable {step}

theorem Run.append {s t u : S} {es fs : List (Exec S A R)} (h : Run step s es t)
    (h' : Run step t fs u) : Run step s (es ++ fs) u := by
  induction h' with
  | nil => simpa using h
  | snoc a _ ih =>
      rw [← List.append_assoc]
      exact .snoc a ih

theorem Run.single (a : A) (s : S) : Run step s [Exec.of step a s] (step a s).2 :=
  .snoc a (.nil s)

theorem Run.eq_of_nil {s t : S} (h : Run step s [] t) : t = s := by
  generalize hnil : [] = es at h
  cases h with
  | nil => rfl
  | snoc a hrun => simp at hnil

theorem Run.exists_of_append {s u : S} {es fs : List (Exec S A R)} (h : Run step s (es ++ fs) u) :
    ∃ t, Run step s es t ∧ Run step t fs u := by
  induction fs using List.reverseRecOn generalizing u with
  | nil => exact ⟨u, by simpa using h, .nil u⟩
  | append_singleton fs e ih =>
      rw [← List.append_assoc] at h
      generalize hall : es ++ fs ++ [e] = all at h
      cases h with
      | nil => simp at hall
      | snoc a hrun =>
          obtain ⟨rfl, hlast⟩ := List.append_inj' hall rfl
          obtain rfl := List.singleton_inj.mp hlast
          obtain ⟨t, hes, hfs⟩ := ih hrun
          exact ⟨t, hes, .snoc a hfs⟩

theorem Run.of_cons {s u : S} {e : Exec S A R} {es : List (Exec S A R)}
    (h : Run step s (e :: es) u) : e = Exec.of step e.action s ∧ Run step e.after es u := by
  obtain ⟨t, hfirst, hrest⟩ := Run.exists_of_append (show Run step s ([e] ++ es) u from h)
  generalize hsingle : [e] = single at hfirst
  cases hfirst with
  | nil => cases hsingle
  | @snoc t past a hpast =>
      obtain ⟨rfl, hlast⟩ := List.append_inj' (show [] ++ [e] = past ++ [_] from hsingle) rfl
      obtain rfl := List.singleton_inj.mp hlast
      obtain rfl := hpast.eq_of_nil
      exact ⟨rfl, hrest⟩

theorem run_trace (as : List A) (s : S) : Run step s (trace step as s) (reached step as s) := by
  induction as generalizing s with
  | nil => exact .nil s
  | cons a as ih => exact (Run.single a s).append (ih (step a s).2)

theorem trace_append (as bs : List A) (s : S) :
    trace step (as ++ bs) s = trace step as s ++ trace step bs (reached step as s) := by
  induction as generalizing s with
  | nil => rfl
  | cons a as ih => exact congrArg (Exec.of step a s :: ·) (ih (step a s).2)

theorem reached_append (as bs : List A) (s : S) :
    reached step (as ++ bs) s = reached step bs (reached step as s) := by
  induction as generalizing s with
  | nil => rfl
  | cons a as ih => exact ih (step a s).2

/-- Every further step meets a condition on it and on the steps before it. -/
def AlongFrom (C : List (Exec S A R) → Exec S A R → Prop) :
    List (Exec S A R) → List (Exec S A R) → Prop
  | _, [] => True
  | past, e :: es => C past e ∧ AlongFrom C (past ++ [e]) es

instance AlongFrom.decidable (C : List (Exec S A R) → Exec S A R → Prop)
    [∀ past e, Decidable (C past e)] :
    (past es : List (Exec S A R)) → Decidable (AlongFrom C past es)
  | _, [] => .isTrue trivial
  | past, e :: es =>
    haveI := AlongFrom.decidable C (past ++ [e]) es
    inferInstanceAs (Decidable (C past e ∧ AlongFrom C (past ++ [e]) es))

/-- Every step of a sequence meets a condition on it and on the steps before it. -/
abbrev Along (C : List (Exec S A R) → Exec S A R → Prop) (es : List (Exec S A R)) : Prop :=
  AlongFrom C [] es

theorem alongFrom_snoc {C : List (Exec S A R) → Exec S A R → Prop} {past es : List (Exec S A R)}
    {e : Exec S A R} : AlongFrom C past (es ++ [e]) ↔ AlongFrom C past es ∧ C (past ++ es) e := by
  induction es generalizing past with
  | nil => simp [AlongFrom]
  | cons f es ih => simp [AlongFrom, ih, and_assoc]

theorem AlongFrom.of_forall {C : Exec S A R → Prop} {past es : List (Exec S A R)}
    (h : ∀ e ∈ es, C e) : AlongFrom (fun _ e => C e) past es := by
  induction es generalizing past with
  | nil => trivial
  | cons e es ih =>
      exact ⟨h e List.mem_cons_self, ih fun f hf => h f (List.mem_cons_of_mem e hf)⟩

theorem AlongFrom.of_pairwise {Q : Exec S A R → Exec S A R → Prop} {past es : List (Exec S A R)}
    (h : (past ++ es).Pairwise Q) : AlongFrom (fun past e => ∀ f ∈ past, Q f e) past es := by
  induction es generalizing past with
  | nil => trivial
  | cons e es ih =>
      refine ⟨fun f hf => (List.pairwise_append.mp h).2.2 f hf e List.mem_cons_self, ih ?_⟩
      rwa [List.append_assoc]

/-- **Invariants of runs.** What holds of the first state with an empty history and is kept by every
step that meets the condition holds after every run whose steps all meet it. -/
theorem Run.invariant {I : List (Exec S A R) → S → Prop}
    {C : List (Exec S A R) → Exec S A R → Prop} {s t : S} {es : List (Exec S A R)}
    (h : Run step s es t) (h0 : I [] s)
    (hstep : ∀ es t a, I es t → C es (Exec.of step a t) →
      I (es ++ [Exec.of step a t]) (step a t).2)
    (hC : Along C es) : I es t := by
  induction h with
  | nil => exact h0
  | snoc a _ ih =>
      obtain ⟨hpast, hlast⟩ := alongFrom_snoc.mp hC
      exact hstep _ _ a (ih hpast) hlast

theorem invariant_reached {I : S → Prop} {C : Exec S A R → Prop} {as : List A} {s : S} (h0 : I s)
    (hstep : ∀ t a, I t → C (Exec.of step a t) → I (step a t).2) (hC : ∀ e ∈ trace step as s, C e) :
    I (reached step as s) :=
  (run_trace as s).invariant (I := fun _ => I) (C := fun _ => C) h0 (fun _ => hstep) (.of_forall hC)

/-- What every step from an invariant state has, every step of a trace has. -/
theorem forall_trace {I : S → Prop} {C Q : Exec S A R → Prop} {as : List A} {s : S} (h0 : I s)
    (hstep : ∀ t a, I t → C (Exec.of step a t) → I (step a t).2 ∧ Q (Exec.of step a t))
    (hC : ∀ e ∈ trace step as s, C e) : ∀ e ∈ trace step as s, Q e := by
  induction as generalizing s with
  | nil => exact nofun
  | cons a as ih =>
      obtain ⟨hfirst, hrest⟩ := List.forall_mem_cons.mp hC
      obtain ⟨hnext, hQ⟩ := hstep s a h0 hfirst
      exact List.forall_mem_cons.mpr ⟨hQ, ih hnext hrest⟩

theorem invariant_trace {I : S → Prop} {C : Exec S A R → Prop} {as : List A} {s : S} (h0 : I s)
    (hstep : ∀ t a, I t → C (Exec.of step a t) → I (step a t).2) (hC : ∀ e ∈ trace step as s, C e) :
    ∀ e ∈ trace step as s, I e.before ∧ I e.after :=
  forall_trace h0 (fun t a hI hC => ⟨hstep t a hI hC, hI, hstep t a hI hC⟩) hC

theorem map_action_trace (as : List A) (s : S) : (trace step as s).map Exec.action = as := by
  induction as generalizing s with
  | nil => rfl
  | cons a as ih => exact congrArg (a :: ·) (ih (step a s).2)

theorem action_mem_of_mem_trace {as : List A} {s : S} {e : Exec S A R} (he : e ∈ trace step as s) :
    e.action ∈ as := by
  induction as generalizing s with
  | nil => cases he
  | cons a as ih =>
      rcases List.mem_cons.mp he with rfl | hrest
      · exact List.mem_cons_self
      · exact List.mem_cons_of_mem a (ih hrest)

/-- **Exact conditions of runs.** When a step out of a state with the invariant has the property just in
case it meets a condition, and then keeps the invariant, all steps of a run have the property just in
case all of them meet the condition. Here this need be so only of steps within some bounds that all
steps of the run are in. -/
theorem Run.forall_iff_within {I : S → Prop} {Q C D : Exec S A R → Prop} {s t : S} {es : List (Exec S A R)}
    (h : Run step s es t) (h0 : I s) (hD : ∀ e ∈ es, D e)
    (hstep : ∀ t a, I t → D (Exec.of step a t) → (Q (Exec.of step a t) ↔ C (Exec.of step a t)))
    (hkeep : ∀ t a, I t → D (Exec.of step a t) → C (Exec.of step a t) → I (step a t).2) :
    (∀ e ∈ es, Q e) ↔ ∀ e ∈ es, C e := by
  induction h with
  | nil => exact ⟨nofun, nofun⟩
  | @snoc t es a hes ih =>
      simp only [List.forall_mem_append, List.forall_mem_singleton] at hD ⊢
      rw [ih hD.1]
      refine and_congr_right fun hC => hstep t a ?_ hD.2
      refine hes.invariant (I := fun _ => I) (C := fun _ e => D e ∧ C e) h0
        (fun _ t a hI hDC => hkeep t a hI hDC.1 hDC.2) (.of_forall ?_)
      exact fun e he => ⟨hD.1 e he, hC e he⟩

theorem Run.forall_after_iff_within {I P : S → Prop} {C D : S → A → Prop} {s t : S}
    {es : List (Exec S A R)} (h : Run step s es t) (h0 : I s)
    (hD : ∀ e ∈ es, D e.before e.action)
    (hstep : ∀ t a, I t → D t a → (P (step a t).2 ↔ C t a))
    (hkeep : ∀ t a, I t → D t a → C t a → I (step a t).2) :
    (∀ e ∈ es, P e.after) ↔ ∀ e ∈ es, C e.before e.action :=
  h.forall_iff_within (Q := fun e => P e.after) (D := fun e => D e.before e.action)
    (C := fun e => C e.before e.action) h0 hD hstep hkeep

theorem Run.forall_after_iff_of_invariant {I P : S → Prop} {C : S → A → Prop} {s t : S}
    {es : List (Exec S A R)} (h : Run step s es t) (h0 : I s)
    (hstep : ∀ t a, I t → (P (step a t).2 ↔ C t a))
    (hkeep : ∀ t a, I t → C t a → I (step a t).2) :
    (∀ e ∈ es, P e.after) ↔ ∀ e ∈ es, C e.before e.action :=
  h.forall_after_iff_within (D := fun _ _ => True) h0 (fun _ _ => trivial)
    (fun t a hI _ => hstep t a hI) fun t a hI _ => hkeep t a hI

theorem Run.forall_after_iff {I : S → Prop} {C : S → A → Prop} {s t : S} {es : List (Exec S A R)}
    (h : Run step s es t) (h0 : I s) (hstep : ∀ t a, I t → (I (step a t).2 ↔ C t a)) :
    (∀ e ∈ es, I e.after) ↔ ∀ e ∈ es, C e.before e.action :=
  h.forall_after_iff_of_invariant h0 hstep fun t a hI => (hstep t a hI).mpr

theorem Run.pairwise_after {I : S → Prop} {R : S → S → Prop} [IsPreorder S R] {s t : S}
    {es : List (Exec S A R')} {step : A → S → R' × S} (h : Run step s es t) (h0 : I s)
    (hstep : ∀ t a, I t → I (step a t).2 ∧ R t (step a t).2) :
    es.Pairwise fun e f => R e.after f.after := by
  suffices hall : I t ∧ (∀ e ∈ es, R e.after t) ∧ es.Pairwise fun e f => R e.after f.after from
    hall.2.2
  induction h with
  | nil => exact ⟨h0, nofun, .nil⟩
  | @snoc t es a _ ih =>
      obtain ⟨hI, hlast, hpairs⟩ := ih
      obtain ⟨hI', hR⟩ := hstep t a hI
      have hnext : ∀ e ∈ es, R e.after (step a t).2 := fun e he => trans_of R (hlast e he) hR
      refine ⟨hI', List.forall_mem_append.mpr ⟨hnext, ?_⟩, List.pairwise_append.mpr ⟨hpairs, ?_, ?_⟩⟩
      · exact List.forall_mem_singleton.mpr (refl_of R (step a t).2)
      · exact List.pairwise_singleton _ _
      · intro e he f hf
        obtain rfl := List.mem_singleton.mp hf
        exact hnext e he

end Run

/-! ### Batches -/

/-- An action, or a list of batches that are executed together. -/
inductive Batch (A : Type)
  | single (command : A)
  | composite (commands : List (Batch A))

/-- How a machine replies to a batch: with the replies of its members, or, when one of them failed,
with a failure made from the message of that one. -/
structure Replies (R : Type) where
  error? : R → Option String
  fail : String → R
  collect : List R → R
  error?_fail : ∀ msg, (error? (fail msg)).isSome = true
  error?_collect : ∀ rs, error? (collect rs) = none

namespace Batch

variable {S A R : Type} (step : A → S → R × S) (replies : Replies R)

/-- The reply for a list of members that were executed up to the first failure. -/
def conclude (rs : List R) : R :=
  match rs.findSome? replies.error? with
  | some msg => replies.fail msg
  | none => replies.collect rs

mutual

def apply : Batch A → S → R × S
  | single a, s => step a s
  | composite bs, s => (conclude replies (applyAll bs s).1, (applyAll bs s).2)

/-- Execute the members of a batch in order, up to the first failure. -/
def applyAll : List (Batch A) → S → List R × S
  | [], s => ([], s)
  | b :: bs, s =>
    let (r, s') := apply b s
    if (replies.error? r).isSome then ([r], s')
    else
      let (rs, s'') := applyAll bs s'
      (r :: rs, s'')

end

mutual

/-- The actions of a batch in the order of execution. -/
def leaves : Batch A → List A
  | single a => [a]
  | composite bs => leavesAll bs

def leavesAll : List (Batch A) → List A
  | [] => []
  | b :: bs => leaves b ++ leavesAll bs

end

/-- The steps that a list of actions takes, up to and including the first that fails. -/
def execute : List A → S → List (Exec S A R)
  | [], _ => []
  | a :: as, s =>
    let e := Exec.of step a s
    if (replies.error? e.reply).isSome then [e] else e :: execute as e.after

def finalState : S → List (Exec S A R) → S
  | s, [] => s
  | _, e :: es => finalState e.after es

def anyFailed (es : List (Exec S A R)) : Bool := es.any fun e => (replies.error? e.reply).isSome

/-- Apply a list of batches one after another, whether they fail or not. -/
def applyLog : List (Batch A) → S → List R × S
  | [], s => ([], s)
  | b :: bs, s =>
    let (r, s') := apply step replies b s
    let (rs, s'') := applyLog bs s'
    (r :: rs, s'')

def executed : List (Batch A) → S → List (Exec S A R)
  | [], _ => []
  | b :: bs, s =>
    execute step replies (leaves b) s ++ executed bs (apply step replies b s).2

variable {step replies}

theorem finalState_append (s : S) (es fs : List (Exec S A R)) :
    finalState s (es ++ fs) = finalState (finalState s es) fs := by
  induction es generalizing s with
  | nil => rfl
  | cons e es ih => exact ih e.after

theorem anyFailed_append (es fs : List (Exec S A R)) :
    anyFailed replies (es ++ fs) = (anyFailed replies es || anyFailed replies fs) := by
  simp [anyFailed]

theorem execute_append (as bs : List A) (s : S) :
    execute step replies (as ++ bs) s =
      if anyFailed replies (execute step replies as s) then execute step replies as s
      else execute step replies as s ++
        execute step replies bs (finalState s (execute step replies as s)) := by
  induction as generalizing s with
  | nil => simp [execute, anyFailed, finalState]
  | cons a as ih =>
      cases hfail : (replies.error? (Exec.of step a s).reply).isSome with
      | true => simp [execute, anyFailed, hfail]
      | false =>
          have hcons : ∀ es, anyFailed replies (Exec.of step a s :: es) = anyFailed replies es := by
            simp [anyFailed, hfail]
          simp only [List.cons_append, execute, hfail, Bool.false_eq_true, if_false, ih, hcons,
            finalState]
          cases anyFailed replies (execute step replies as (Exec.of step a s).after) <;> simp

theorem run_execute (as : List A) (s : S) :
    Run step s (execute step replies as s) (finalState s (execute step replies as s)) := by
  induction as generalizing s with
  | nil => exact .nil s
  | cons a as ih =>
      have hfirst : Run step s [Exec.of step a s] (step a s).2 := Run.single a s
      simp only [execute]
      split
      · exact hfirst
      · exact hfirst.append (ih _)

theorem conclude_failed (rs : List R) :
    (replies.error? (conclude replies rs)).isSome =
      rs.any fun r => (replies.error? r).isSome := by
  unfold conclude
  cases hfirst : rs.findSome? replies.error? with
  | none =>
      rw [List.findSome?_eq_none_iff] at hfirst
      rw [replies.error?_collect]
      symm
      simpa [List.any_eq_false] using hfirst
  | some msg =>
      rw [replies.error?_fail]
      obtain ⟨r, hr, hmsg⟩ := List.exists_of_findSome?_eq_some hfirst
      symm
      rw [List.any_eq_true]
      exact ⟨r, hr, by rw [hmsg]; rfl⟩

mutual

theorem apply_spec (b : Batch A) (s : S) :
    (apply step replies b s).2 = finalState s (execute step replies (leaves b) s) ∧
      (replies.error? (apply step replies b s).1).isSome =
        anyFailed replies (execute step replies (leaves b) s) := by
  cases b with
  | single a =>
      simp only [apply, leaves, execute]
      split <;> simp [finalState, anyFailed, Exec.of]
  | composite bs =>
      simp only [apply, leaves, conclude_failed]
      exact applyAll_spec bs s

theorem applyAll_spec (bs : List (Batch A)) (s : S) :
    (applyAll step replies bs s).2 = finalState s (execute step replies (leavesAll bs) s) ∧
      ((applyAll step replies bs s).1.any fun r => (replies.error? r).isSome) =
        anyFailed replies (execute step replies (leavesAll bs) s) := by
  cases bs with
  | nil => simp [applyAll, leavesAll, execute, finalState, anyFailed]
  | cons b bs =>
      obtain ⟨hstate, hfailed⟩ := apply_spec b s
      simp only [applyAll, leavesAll, execute_append, ← hfailed]
      split
      · simp_all
      · rename_i hok
        obtain ⟨hstate', hfailed'⟩ := applyAll_spec bs (apply step replies b s).2
        rw [finalState_append, ← hstate, ← hstate', anyFailed_append, ← hfailed, ← hfailed']
        simp [hok]

end

theorem conclude_of_not_failed {rs : List R}
    (h : (rs.any fun r => (replies.error? r).isSome) = false) :
    conclude replies rs = replies.collect rs := by
  have hnone : rs.findSome? replies.error? = none := by
    rw [List.findSome?_eq_none_iff]
    simpa [List.any_eq_false] using h
  rw [conclude, hnone]

theorem applyAll_of_not_failed {bs : List (Batch A)} {s : S}
    (h : ((applyAll step replies bs s).1.any fun r => (replies.error? r).isSome) = false) :
    applyAll step replies bs s = applyLog step replies bs s := by
  induction bs generalizing s with
  | nil => simp [applyAll, applyLog]
  | cons b bs ih =>
      simp only [applyAll, applyLog] at h ⊢
      split at h
      · simp_all
      · rename_i hok
        simp only [List.any_cons, Bool.or_eq_false_iff] at h
        rw [if_neg hok, ih h.2]

theorem applyLog_append (bs bs' : List (Batch A)) (s : S) :
    (applyLog step replies (bs ++ bs') s).2 =
      (applyLog step replies bs' (applyLog step replies bs s).2).2 := by
  induction bs generalizing s with
  | nil => rfl
  | cons b bs ih => exact ih _

theorem length_applyLog (bs : List (Batch A)) (s : S) :
    (applyLog step replies bs s).1.length = bs.length := by
  induction bs generalizing s with
  | nil => rfl
  | cons b bs ih => simp [applyLog, ih]

theorem action_mem_of_mem_execute {as : List A} {s : S} {e : Exec S A R}
    (he : e ∈ execute step replies as s) : e.action ∈ as := by
  induction as generalizing s with
  | nil => cases he
  | cons a as ih =>
      simp only [execute] at he
      split at he
      · obtain rfl := List.mem_singleton.mp he
        exact List.mem_cons_self
      · rcases List.mem_cons.mp he with rfl | he
        · exact List.mem_cons_self
        · exact List.mem_cons_of_mem a (ih he)

theorem action_mem_of_mem_executed {log : List (Batch A)} {s : S} {e : Exec S A R}
    (he : e ∈ executed step replies log s) : e.action ∈ leavesAll log := by
  induction log generalizing s with
  | nil => cases he
  | cons b bs ih =>
      rw [leavesAll, List.mem_append]
      rcases List.mem_append.mp he with he | he
      · exact .inl (action_mem_of_mem_execute he)
      · exact .inr (ih he)

theorem run_executed (log : List (Batch A)) (s : S) :
    Run step s (executed step replies log s) (applyLog step replies log s).2 := by
  induction log generalizing s with
  | nil => exact .nil s
  | cons b bs ih =>
      have hfirst : Run step s (execute step replies (leaves b) s) (apply step replies b s).2 := by
        rw [(apply_spec b s).1]
        exact run_execute (leaves b) s
      exact hfirst.append (ih _)

end Batch

end Syfrah
