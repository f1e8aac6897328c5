import Syfrah.Lib.TreeMap

/-!
# Holders of the entries of a table

Several holders keep an entry each in one table, under keys that they choose themselves. A write under
one key serves a holder with that key only if the written entry suits it too, and a removal leaves
nothing for a holder with that key.
-/

namespace Syfrah

variable {κ α η : Type} {cmp : κ → κ → Ordering}

/-- Every holder that needs an entry finds one under its key, and it suits the holder. -/
def Serves (needs : η → Option κ) (suits : η → α → Prop) (t : Std.ExtTreeMap κ α cmp)
    [Std.TransCmp cmp] : Prop :=
  ∀ h k, needs h = some k → ∃ a, t[k]? = some a ∧ suits h a

namespace Serves

variable [Std.TransCmp cmp] {needs needs' : η → Option κ}
  {suits : η → α → Prop} {t : Std.ExtTreeMap κ α cmp} {k : κ} {a : α}

theorem mono (h : Serves needs suits t) (hneeds : ∀ w j, needs' w = some j → needs w = some j) :
    Serves needs' suits t :=
  fun w j hw => h w j (hneeds w j hw)

theorem suits_of_getElem? (h : Serves needs suits t) {w : η} (hw : needs w = some k)
    (hget : t[k]? = some a) : suits w a := by
  obtain ⟨b, hb, hsuits⟩ := h w k hw
  exact Option.some.inj (hb.symm.trans hget) ▸ hsuits

variable [Std.LawfulEqCmp cmp]

theorem insert_iff (h : Serves needs suits t)
    (hneeds : ∀ w j, needs' w = some j → j = k ∨ needs w = some j) :
    Serves needs' suits (t.insert k a) ↔ ∀ w, needs' w = some k → suits w a := by
  constructor
  · intro hafter w hw
    exact hafter.suits_of_getElem? hw Std.ExtTreeMap.getElem?_insert_self
  · intro hsuits w j hw
    by_cases hj : k = j
    · subst hj
      exact ⟨a, Std.ExtTreeMap.getElem?_insert_self, hsuits w hw⟩
    · obtain ⟨b, hb, hb'⟩ := h w j ((hneeds w j hw).resolve_left (Ne.symm hj))
      exact ⟨b, by simpa [Std.ExtTreeMap.getElem?_insert, hj] using hb, hb'⟩

theorem erase_iff (h : Serves needs suits t)
    (hneeds : ∀ w j, needs' w = some j → needs w = some j) :
    Serves needs' suits (t.erase k) ↔ ∀ w, needs' w ≠ some k := by
  constructor
  · intro hafter w hw
    obtain ⟨b, hb, -⟩ := hafter w k hw
    simp at hb
  · intro hfree w j hw
    have hj : k ≠ j := fun hkj => hfree w (hkj ▸ hw)
    obtain ⟨b, hb, hb'⟩ := h w j (hneeds w j hw)
    exact ⟨b, by simpa [Std.ExtTreeMap.getElem?_erase, hj] using hb, hb'⟩

end Serves

end Syfrah
