import Syfrah.Lib.Run
import Mathlib.Data.Rat.Defs
import Mathlib.Algebra.Order.Ring.Rat
import Mathlib.Tactic.Linarith
import Mathlib.Tactic.Ring

/-!
# Budgets that grow with time

A machine spends from a budget that grows at some rate up to a capacity. Within any stretch of time it
spends at most the capacity and what the budget grows by.
-/

namespace Syfrah

variable {S A R : Type}

/-- What is available in a state at an instant, for states that are valid at it. -/
structure Budget (step : A → S → R × S) (time : A → ℚ) (spends : Exec S A R → Bool) (capacity rate : ℚ) where
  Valid : S → ℚ → Prop
  available : S → ℚ → ℚ
  available_nonneg {s : S} {now : ℚ} : Valid s now → 0 ≤ available s now
  available_le {s : S} {now : ℚ} : Valid s now → available s now ≤ capacity
  valid_mono {s : S} {now later : ℚ} : Valid s now → now ≤ later → Valid s later
  available_later {s : S} {now later : ℚ} : Valid s now → now ≤ later →
    available s later ≤ available s now + rate * (later - now)
  valid_step {s : S} {a : A} : Valid s (time a) → Valid (step a s).2 (time a)
  available_step {s : S} {a : A} : Valid s (time a) →
    available (step a s).2 (time a) + (if spends (Exec.of step a s) then 1 else 0) ≤ available s (time a)

namespace Budget

variable {step : A → S → R × S} {time : A → ℚ} {spends : Exec S A R → Bool} {capacity rate : ℚ}
  (b : Budget step time spends capacity rate) {s : S} {as : List A} {now : ℚ}

/-- Steps that spend between two instants. -/
def spent (time : A → ℚ) (spends : Exec S A R → Bool) (first last : ℚ) (es : List (Exec S A R)) : ℕ :=
  es.countP fun e => spends e && decide (first ≤ time e.action ∧ time e.action ≤ last)

theorem spent_eq_zero {first last : ℚ} (h : ∀ a ∈ as, last < time a) :
    spent time spends first last (trace step as s) = 0 := by
  refine List.countP_eq_zero.mpr fun e he => ?_
  simp [h e.action (action_mem_of_mem_trace he)]

include b

theorem valid_before (hvalid : b.Valid s now) (hsorted : as.Pairwise (time · ≤ time ·))
    (hlater : ∀ a ∈ as, now ≤ time a) :
    ∀ e ∈ trace step as s, b.Valid e.before (time e.action) ∧ e = Exec.of step e.action e.before := by
  induction as generalizing s now with
  | nil => exact nofun
  | cons a as ih =>
      obtain ⟨hfirst, hsorted⟩ := List.pairwise_cons.mp hsorted
      have hvalid' := b.valid_mono hvalid (List.forall_mem_cons.mp hlater).1
      exact List.forall_mem_cons.mpr ⟨⟨hvalid', rfl⟩, ih (b.valid_step hvalid') hsorted hfirst⟩

/-- From now on, what is available now and what comes in is all that can be spent. -/
theorem spent_le_available (first : ℚ) {last : ℚ} (hvalid : b.Valid s now) (hlast : now ≤ last)
    (hsorted : as.Pairwise (time · ≤ time ·)) (hlater : ∀ a ∈ as, now ≤ time a) :
    (spent time spends first last (trace step as s) : ℚ) ≤ b.available s now + rate * (last - now) := by
  induction as generalizing s now with
  | nil =>
      have hgrown := b.available_later hvalid hlast
      have hnonneg := b.available_nonneg (b.valid_mono hvalid hlast)
      simpa [spent, trace] using hnonneg.trans hgrown
  | cons a as ih =>
      obtain ⟨hfirst, hsorted⟩ := List.pairwise_cons.mp hsorted
      obtain ⟨hnow, hlater⟩ := List.forall_mem_cons.mp hlater
      have hgrown := b.available_later hvalid hnow
      have hvalid' := b.valid_mono hvalid hnow
      rcases le_or_gt (time a) last with hle | hgt
      · have hrest := ih (b.valid_step hvalid') hle hsorted hfirst
        have hstep := b.available_step hvalid'
        have hcount : (spent time spends first last (trace step (a :: as) s) : ℚ) ≤
            spent time spends first last (trace step as (step a s).2) +
              (if spends (Exec.of step a s) then 1 else 0) := by
          rw [spent, trace, List.countP_cons]
          push_cast
          refine add_le_add le_rfl ?_
          cases spends (Exec.of step a s)
          · simp
          · split <;> simp
        linarith
      · have hnone : spent time spends first last (trace step (a :: as) s) = 0 :=
          spent_eq_zero (List.forall_mem_cons.mpr ⟨hgt, fun c hc => hgt.trans_le (hfirst c hc)⟩)
        have hend := b.available_later hvalid hlast
        have hnonneg := b.available_nonneg (b.valid_mono hvalid hlast)
        rw [hnone]
        exact_mod_cast hnonneg.trans hend

/-- **At most the capacity and the growth** is spent in a stretch of time. -/
theorem spent_le (hrate : 0 ≤ rate) {first length : ℚ} (hlength : 0 ≤ length) (hcapacity : 0 ≤ capacity)
    (hvalid : b.Valid s now) (hsorted : as.Pairwise (time · ≤ time ·)) (hlater : ∀ a ∈ as, now ≤ time a) :
    (spent time spends first (first + length) (trace step as s) : ℚ) ≤ capacity + rate * length := by
  have hgrowth := mul_nonneg hrate hlength
  induction as generalizing s now with
  | nil => simpa [spent, trace] using add_nonneg hcapacity hgrowth
  | cons a as ih =>
      obtain ⟨hfirst, hsorted'⟩ := List.pairwise_cons.mp hsorted
      have hvalid' := b.valid_mono hvalid (List.forall_mem_cons.mp hlater).1
      rcases lt_or_ge (time a) first with hlt | hge
      · -- before the stretch
        have hskip : spent time spends first (first + length) (trace step (a :: as) s) =
            spent time spends first (first + length) (trace step as (step a s).2) := by
          rw [spent, trace, List.countP_cons_of_neg]
          · rfl
          · simp [Exec.of, not_le.mpr hlt]
        rw [hskip]
        exact ih (b.valid_step hvalid') hsorted' hfirst
      · rcases le_or_gt (time a) (first + length) with hle | hgt
        · have hall : ∀ c ∈ a :: as, time a ≤ time c := List.forall_mem_cons.mpr ⟨le_rfl, hfirst⟩
          have hcount := b.spent_le_available first hvalid' hle hsorted hall
          have hfull := b.available_le hvalid'
          have hlate : rate * (first + length - time a) ≤ rate * length :=
            mul_le_mul_of_nonneg_left (by linarith) hrate
          linarith
        · rw [spent_eq_zero (List.forall_mem_cons.mpr ⟨hgt, fun c hc => hgt.trans_le (hfirst c hc)⟩)]
          exact_mod_cast add_nonneg hcapacity hgrowth

end Budget

end Syfrah
