import Std.Data.ExtTreeMap
import Mathlib.Tactic

/-!
# Entries of a map and totals over them

A map is rebuilt by inserting its entries one by one. `total t f` adds up `f` over the entries of a
map. Inserting or erasing an entry changes it by the weights of that entry alone, which is what
accounting invariants over maps need. Two maps are alike when they have the same keys and related
values, and then so are their lists of entries.
-/

namespace Std.ExtTreeMap

variable {κ α : Type} {cmp : κ → κ → Ordering} [TransCmp cmp] [LawfulEqCmp cmp]

theorem nodup_map_fst_toList (t : ExtTreeMap κ α cmp) : (t.toList.map Prod.fst).Nodup := by
  refine List.pairwise_map.mpr (t.distinct_keys_toList.imp fun {a b} hne hab => hne ?_)
  rw [hab]
  exact ReflCmp.compare_self

theorem of_getElem?_insert {t : ExtTreeMap κ α cmp} {k k' : κ} {v w : α}
    (h : (t.insert k v)[k']? = some w) : k' = k ∧ w = v ∨ k' ≠ k ∧ t[k']? = some w := by
  rw [getElem?_insert] at h
  split at h
  · rename_i heq
    exact .inl ⟨(LawfulEqCmp.eq_of_compare heq).symm, (Option.some.inj h).symm⟩
  · rename_i hne
    exact .inr ⟨fun heq => hne (heq ▸ ReflCmp.compare_self), h⟩

theorem of_getElem?_erase {t : ExtTreeMap κ α cmp} {k k' : κ} {w : α}
    (h : (t.erase k)[k']? = some w) : k' ≠ k ∧ t[k']? = some w := by
  rw [getElem?_erase] at h
  split at h
  · cases h
  · rename_i hne
    exact ⟨fun heq => hne (heq ▸ ReflCmp.compare_self), h⟩

theorem erase_insert_eq_iff {t : ExtTreeMap κ α cmp} {k : κ} {v : α} :
    (t.insert k v).erase k = t ↔ t[k]? = none := by
  constructor
  · intro heq
    rw [← heq, getElem?_erase_self]
  · intro hnone
    refine ext_getElem? fun j => ?_
    rw [getElem?_erase, getElem?_insert]
    split
    · rename_i hj
      rw [← LawfulEqCmp.eq_of_compare hj, hnone]
    · rfl

omit [LawfulEqCmp cmp] in
theorem foldl_insert_eq_insertMany (entries : List (κ × α)) (t : ExtTreeMap κ α cmp) :
    entries.foldl (fun t entry => t.insert entry.1 entry.2) t = t.insertMany entries := by
  induction entries generalizing t with
  | nil => simp
  | cons entry entries ih => rw [List.foldl_cons, ih, insertMany_cons]

theorem insertMany_toList [DecidableEq κ] (t : ExtTreeMap κ α cmp) :
    (∅ : ExtTreeMap κ α cmp).insertMany t.toList = t := by
  refine ext_getElem? fun key => ?_
  cases hkey : t[key]? with
  | none =>
      have habsent : (t.toList.map Prod.fst).contains key = false := by
        rw [map_fst_toList_eq_keys, Bool.eq_false_iff]
        simp [← isSome_getElem?_iff_mem, hkey]
      rw [getElem?_insertMany_list_of_contains_eq_false habsent]
      simp
  | some value =>
      have hmem : (key, value) ∈ t.toList := mem_toList_iff_getElem?_eq_some.mpr hkey
      exact getElem?_insertMany_list_of_mem (by simp) t.distinct_keys_toList hmem

theorem getElem?_foldl_erase [DecidableEq κ] (keys : List κ) (t : ExtTreeMap κ α cmp) (k : κ) :
    (keys.foldl (fun t k => t.erase k) t)[k]? = if k ∈ keys then none else t[k]? := by
  induction keys generalizing t with
  | nil => simp
  | cons key keys ih =>
      rw [List.foldl_cons, ih, getElem?_erase]
      by_cases hkey : key = k
      · simp [hkey]
      · simp [hkey, Ne.symm hkey]

/-- The sum of `f` over the entries of a map. -/
def total (t : ExtTreeMap κ α cmp) (f : κ → α → ℕ) : ℕ :=
  (t.toList.map fun entry => f entry.1 entry.2).sum

/-- The weight of the entry under a key, if there is one. -/
def weight (t : ExtTreeMap κ α cmp) (f : κ → α → ℕ) (k : κ) : ℕ := (t[k]?).elim 0 (f k)

omit [LawfulEqCmp cmp] in
theorem weight_of_getElem?_eq_some {t : ExtTreeMap κ α cmp} {f : κ → α → ℕ} {k : κ} {v : α}
    (h : t[k]? = some v) : t.weight f k = f k v := by
  rw [weight, h, Option.elim_some]

omit [LawfulEqCmp cmp] in
theorem weight_of_getElem?_eq_none {t : ExtTreeMap κ α cmp} {f : κ → α → ℕ} {k : κ}
    (h : t[k]? = none) : t.weight f k = 0 := by
  rw [weight, h, Option.elim_none]

theorem total_eq_zero_iff {t : ExtTreeMap κ α cmp} {f : κ → α → ℕ} :
    t.total f = 0 ↔ ∀ k v, t[k]? = some v → f k v = 0 := by
  unfold total
  rw [List.sum_eq_zero_iff]
  constructor
  · intro h k v hget
    exact h _ (List.mem_map_of_mem (mem_toList_iff_getElem?_eq_some.mpr hget))
  · intro h n hn
    obtain ⟨entry, hentry, rfl⟩ := List.mem_map.mp hn
    exact h _ _ (mem_toList_iff_getElem?_eq_some.mp hentry)

omit [LawfulEqCmp cmp] in
theorem sum_filter_values (t : ExtTreeMap κ α cmp) (p : α → Bool) (f : α → ℕ) :
    (((t.toList.map Prod.snd).filter p).map f).sum = t.total fun _ v => if p v then f v else 0 := by
  unfold total
  induction t.toList with
  | nil => rfl
  | cons entry entries ih =>
      rw [List.map_cons, List.map_cons, List.sum_cons, ← ih, List.filter_cons]
      by_cases hp : p entry.2 = true <;> simp [hp]

section Sums

variable {α' : Type} [DecidableEq κ] {t : ExtTreeMap κ α cmp} {t' : ExtTreeMap κ α' cmp}
  {f : κ → α → ℕ} {f' : κ → α' → ℕ}

theorem total_eq_sum {keys : Finset κ} (h : t.keys.toFinset ⊆ keys) :
    t.total f = ∑ k ∈ keys, t.weight f k := by
  have hnodup : t.keys.Nodup := by
    rw [← map_fst_toList_eq_keys]
    exact t.nodup_map_fst_toList
  have hsum : t.total f = ∑ k ∈ t.keys.toFinset, t.weight f k := by
    rw [List.sum_toFinset _ hnodup, ← map_fst_toList_eq_keys, List.map_map]
    refine congrArg List.sum (List.map_congr_left fun entry hentry => ?_)
    exact (weight_of_getElem?_eq_some (mem_toList_iff_getElem?_eq_some.mp hentry)).symm
  rw [hsum]
  refine Finset.sum_subset h fun k _ hk => weight_of_getElem?_eq_none ?_
  simpa using hk

theorem exists_total_eq_sum (t : ExtTreeMap κ α cmp) (f : κ → α → ℕ) (t' : ExtTreeMap κ α' cmp)
    (f' : κ → α' → ℕ) (k₀ : κ) : ∃ keys : Finset κ, k₀ ∈ keys ∧
      t.total f = ∑ k ∈ keys, t.weight f k ∧ t'.total f' = ∑ k ∈ keys, t'.weight f' k := by
  refine ⟨{k₀} ∪ (t.keys.toFinset ∪ t'.keys.toFinset), by simp, total_eq_sum ?_, total_eq_sum ?_⟩
  · exact Finset.subset_union_left.trans Finset.subset_union_right
  · exact Finset.subset_union_right.trans Finset.subset_union_right

theorem total_add_weight (k₀ : κ) (h : ∀ k, k ≠ k₀ → t.weight f k = t'.weight f' k) :
    t.total f + t'.weight f' k₀ = t'.total f' + t.weight f k₀ := by
  obtain ⟨keys, hk₀, hsum, hsum'⟩ := exists_total_eq_sum t f t' f' k₀
  have hrest : ∑ k ∈ keys.erase k₀, t.weight f k = ∑ k ∈ keys.erase k₀, t'.weight f' k :=
    Finset.sum_congr rfl fun k hk => h k (Finset.ne_of_mem_erase hk)
  rw [hsum, hsum', ← Finset.add_sum_erase _ _ hk₀, ← Finset.add_sum_erase _ _ hk₀, hrest]
  omega

theorem total_le_of_weight_le {limit : ℕ} (k₀ : κ)
    (h : ∀ k, k ≠ k₀ → t'.weight f' k ≤ t.weight f k)
    (h₀ : t'.weight f' k₀ ≤ t.weight f k₀ ∨ t.total f + t'.weight f' k₀ ≤ limit + t.weight f k₀)
    (hlimit : t.total f ≤ limit) : t'.total f' ≤ limit := by
  obtain ⟨keys, hk₀, hsum, hsum'⟩ := exists_total_eq_sum t f t' f' k₀
  have hrest : ∑ k ∈ keys.erase k₀, t'.weight f' k ≤ ∑ k ∈ keys.erase k₀, t.weight f k :=
    Finset.sum_le_sum fun k hk => h k (Finset.ne_of_mem_erase hk)
  rw [hsum, ← Finset.add_sum_erase _ _ hk₀] at h₀ hlimit
  rw [hsum', ← Finset.add_sum_erase _ _ hk₀]
  omega

theorem total_eq_of_weight_eq (h : ∀ k, t.weight f k = t'.weight f' k) :
    t.total f = t'.total f' := by
  have hsub : t.keys.toFinset ⊆ t.keys.toFinset ∪ t'.keys.toFinset := Finset.subset_union_left
  have hsub' : t'.keys.toFinset ⊆ t.keys.toFinset ∪ t'.keys.toFinset := Finset.subset_union_right
  rw [total_eq_sum hsub, total_eq_sum hsub']
  exact Finset.sum_congr rfl fun k _ => h k

theorem total_mono (h : ∀ k, t.weight f k ≤ t'.weight f' k) : t.total f ≤ t'.total f' := by
  have hsub : t.keys.toFinset ⊆ t.keys.toFinset ∪ t'.keys.toFinset := Finset.subset_union_left
  have hsub' : t'.keys.toFinset ⊆ t.keys.toFinset ∪ t'.keys.toFinset := Finset.subset_union_right
  rw [total_eq_sum hsub, total_eq_sum hsub']
  exact Finset.sum_le_sum fun k _ => h k

theorem total_insert (k : κ) (v : α) :
    (t.insert k v).total f + t.weight f k = t.total f + f k v := by
  rw [total_add_weight k fun k' hk' => ?_, weight_of_getElem?_eq_some getElem?_insert_self]
  simp [weight, getElem?_insert, Ne.symm hk']

theorem total_erase (k : κ) : (t.erase k).total f + t.weight f k = t.total f := by
  rw [total_add_weight k fun k' hk' => ?_, weight_of_getElem?_eq_none getElem?_erase_self, add_zero]
  simp [weight, getElem?_erase, Ne.symm hk']

end Sums

end Std.ExtTreeMap
