import Mathlib.Logic.Function.Basic
import Mathlib.Data.List.Nodup

/-!
# Inverted indexes

Every element has at most one key, and an index lists under each key the elements that have it, each
once. Changing the key of one element changes the lists of the old and the new key.
-/

namespace Syfrah

variable {κ β : Type} [DecidableEq κ] [DecidableEq β]

/-- The lists under the keys hold the elements with that key, each once. -/
structure Indexes (lists : κ → List β) (key : β → Option κ) : Prop where
  nodup : ∀ k, (lists k).Nodup
  mem : ∀ k b, b ∈ lists k ↔ key b = some k

/-- List an element under a key, unless it is there already. -/
def InvertedIndex.add (lists : κ → List β) (k : κ) (b : β) : κ → List β :=
  Function.update lists k (if b ∈ lists k then lists k else lists k ++ [b])

def InvertedIndex.remove (lists : κ → List β) (k : κ) (b : β) : κ → List β :=
  Function.update lists k ((lists k).filter fun b' => b' != b)

namespace Indexes

variable {lists : κ → List β} {key : β → Option κ} {k : κ} {b : β}

theorem add (h : Indexes lists key) (hb : key b = none) :
    Indexes (InvertedIndex.add lists k b) (Function.update key b (some k)) := by
  have hfresh : b ∉ lists k := by
    rw [h.mem, hb]
    nofun
  rw [InvertedIndex.add, if_neg hfresh]
  refine ⟨fun k' => ?_, fun k' b' => ?_⟩
  · by_cases hk : k' = k
    · subst hk
      rw [Function.update_self]
      exact (h.nodup k').append (List.nodup_singleton b) (by simpa using hfresh)
    · rw [Function.update_of_ne hk]
      exact h.nodup k'
  · by_cases hk : k' = k
    · subst hk
      rw [Function.update_self, List.mem_append, List.mem_singleton, h.mem]
      by_cases hb' : b' = b
      · simp [hb']
      · simp [hb']
    · rw [Function.update_of_ne hk, h.mem]
      by_cases hb' : b' = b
      · simp [hb', hb, Ne.symm hk]
      · simp [hb']

theorem remove (h : Indexes lists key) (hb : key b = some k) :
    Indexes (InvertedIndex.remove lists k b) (Function.update key b none) := by
  refine ⟨fun k' => ?_, fun k' b' => ?_⟩
  · rw [InvertedIndex.remove]
    by_cases hk : k' = k
    · subst hk
      rw [Function.update_self]
      exact (h.nodup k').filter _
    · rw [Function.update_of_ne hk]
      exact h.nodup k'
  · rw [InvertedIndex.remove]
    by_cases hk : k' = k
    · subst hk
      rw [Function.update_self, List.mem_filter, h.mem]
      by_cases hb' : b' = b
      · simp [hb']
      · simp [hb']
    · rw [Function.update_of_ne hk, h.mem]
      by_cases hb' : b' = b
      · simp [hb', hb, Ne.symm hk]
      · simp [hb']

end Indexes

end Syfrah
