import Mathlib.Tactic

/-!
# Lists of tasks

A list of tasks in which one goes on, or to which one is added.
-/

namespace Syfrah

variable {α : Type} {l : List α} {i j : ℕ} {a b : α}

theorem of_getElem?_set (h : (l.set i b)[j]? = some a) : j = i ∧ a = b ∨ j ≠ i ∧ l[j]? = some a := by
  rw [List.getElem?_set] at h
  by_cases heq : i = j
  · rw [if_pos heq] at h
    exact .inl ⟨heq.symm, (Option.some.inj (Option.ite_none_right_eq_some.mp h).2).symm⟩
  · rw [if_neg heq] at h
    exact .inr ⟨Ne.symm heq, h⟩

theorem of_getElem?_concat (h : (l ++ [b])[j]? = some a) : l[j]? = some a ∨ j = l.length ∧ a = b := by
  rcases Nat.lt_trichotomy j l.length with hlt | rfl | hgt
  · rw [List.getElem?_append_left hlt] at h
    exact .inl h
  · rw [List.getElem?_concat_length] at h
    exact .inr ⟨rfl, (Option.some.inj h).symm⟩
  · rw [List.getElem?_eq_none (by simp; omega)] at h
    cases h

end Syfrah
