import Mathlib.Data.List.Nodup

/-!
# Passes over a list

A pass takes a state through a step for each element of a list.
-/

namespace Pass

variable {S A B : Type} {step : S → A → S} {elements : List A} {s : S}

theorem invariant {P : S → Prop} (hstep : ∀ s, ∀ a ∈ elements, P s → P (step s a)) (h : P s) :
    P (elements.foldl step s) := by
  induction elements generalizing s with
  | nil => exact h
  | cons a elements ih =>
      apply ih
      · intro s b hb
        exact hstep s b (List.mem_cons_of_mem a hb)
      · exact hstep s a List.mem_cons_self h

theorem unchanged {f : S → B} (hstep : ∀ s, ∀ a ∈ elements, f (step s a) = f s) :
    f (elements.foldl step s) = f s :=
  invariant (P := fun t => f t = f s) (fun t a ha ht => (hstep t a ha).trans ht) rfl

theorem reached {P : S → Prop} {a : A} (hmem : a ∈ elements) (hset : ∀ s, P (step s a))
    (hkeep : ∀ s, ∀ b ∈ elements, P s → P (step s b)) : P (elements.foldl step s) := by
  induction elements generalizing s with
  | nil => cases hmem
  | cons b elements ih =>
      have hrest : ∀ s, ∀ c ∈ elements, P s → P (step s c) :=
        fun s c hc => hkeep s c (List.mem_cons_of_mem b hc)
      rw [List.foldl_cons]
      rcases List.mem_cons.mp hmem with rfl | hlater
      · exact invariant hrest (hset s)
      · exact ih hlater hrest

/-- Where the steps of the other elements do not show, what shows of a pass is a pass over the elements
that do. -/
theorem seen {f : S → B} {p : A → Bool} {g : B → A → B}
    (hseen : ∀ s, ∀ a ∈ elements, p a = true → f (step s a) = g (f s) a)
    (hother : ∀ s, ∀ a ∈ elements, p a = false → f (step s a) = f s) :
    f (elements.foldl step s) = (elements.filter p).foldl g (f s) := by
  induction elements generalizing s with
  | nil => rfl
  | cons a elements ih =>
      have hrest := @ih (step s a) (fun s b hb => hseen s b (List.mem_cons_of_mem a hb))
        fun s b hb => hother s b (List.mem_cons_of_mem a hb)
      cases hp : p a with
      | true => rw [List.foldl_cons, hrest, List.filter_cons_of_pos hp, List.foldl_cons, hseen s a List.mem_cons_self hp]
      | false =>
          rw [List.foldl_cons, hrest, List.filter_cons_of_neg (by simp [hp]), hother s a List.mem_cons_self hp]

/-- Under distinct keys one element has the key of another only by being it. -/
theorem filter_key [DecidableEq B] {f : A → B} {a : A} (hnodup : (elements.map f).Nodup) (hmem : a ∈ elements) :
    elements.filter (fun b => f b = f a) = [a] := by
  induction elements with
  | nil => cases hmem
  | cons b elements ih =>
      obtain ⟨hfirst, hrest⟩ := List.nodup_cons.mp hnodup
      rcases List.mem_cons.mp hmem with rfl | hlater
      · rw [List.filter_cons_of_pos (by simp), List.filter_eq_nil_iff.mpr]
        intro b hb heq
        exact hfirst (List.mem_map.mpr ⟨b, hb, of_decide_eq_true heq⟩)
      · have hne : f b ≠ f a := fun heq => hfirst (List.mem_map.mpr ⟨a, hlater, heq.symm⟩)
        rw [List.filter_cons_of_neg (by simp [hne]), ih hrest hlater]

end Pass
