import Syfrah.State.LayerDb

/-!
# References between the records of a database

A schema says which records a record refers to, by table and key, and how its key goes with its
content. A database is integral when every record that is referred to exists. Storing a record keeps
that if what it refers to exists, and removing one if nothing refers to it.
-/

namespace Syfrah

variable {T : Type} {Row : T → Type}

abbrev Ref (T : Type) := T × String

/-- What records refer to, and under which keys they may be stored. -/
structure RefSchema (Row : T → Type) where
  refs : (t : T) → Row t → List (Ref T)
  keyed : (t : T) → String → Row t → Prop

@[simp]
theorem LayerDb.get_empty {t : T} {key : String} : (empty : LayerDb Row).get t key = none :=
  Std.ExtTreeMap.getElem?_empty

/-- Whether the record that a reference names exists. -/
def LayerDb.present (db : LayerDb Row) (ref : Ref T) : Bool := (db.get ref.1 ref.2).isSome

namespace RefSchema

variable (schema : RefSchema Row) {db : LayerDb Row} {outside : List (Ref T)} {t : T} {key : String}
  {row : Row t} {ref : Ref T}

/-- Every reference, of a record or from outside the database, names a record that exists. -/
structure Integral (outside : List (Ref T)) (db : LayerDb Row) : Prop where
  keyed : ∀ t key row, db.get t key = some row → schema.keyed t key row
  refs : ∀ t key row, db.get t key = some row → ∀ ref ∈ schema.refs t row, db.present ref = true
  outside : ∀ ref ∈ outside, db.present ref = true

structure Unreferenced (outside : List (Ref T)) (db : LayerDb Row) (ref : Ref T) : Prop where
  refs : ∀ t key row, db.get t key = some row → ref ∉ schema.refs t row
  outside : ref ∉ outside

variable [DecidableEq T]

/-- A search for references through the given tables. -/
def unreferenced (tables : List T) (outside : List (Ref T)) (db : LayerDb Row) (ref : Ref T) :
    Bool :=
  (tables.all fun t => (db.list t).all fun entry => !(schema.refs t entry.2).contains ref) &&
    !outside.contains ref

variable {schema}

theorem unreferenced_iff {tables : List T} (htables : ∀ t, t ∈ tables) :
    schema.unreferenced tables outside db ref = true ↔ schema.Unreferenced outside db ref := by
  simp only [unreferenced, Bool.and_eq_true, List.all_eq_true, Bool.not_eq_true',
    List.contains_eq_mem, decide_eq_false_iff_not]
  constructor
  · rintro ⟨hrefs, houtside⟩
    exact ⟨fun t key row hget => hrefs t (htables t) (key, row)
      (Std.ExtTreeMap.mem_toList_iff_getElem?_eq_some.mpr hget), houtside⟩
  · rintro ⟨hrefs, houtside⟩
    exact ⟨fun t _ entry hentry => hrefs t entry.1 entry.2
      (Std.ExtTreeMap.mem_toList_iff_getElem?_eq_some.mp hentry), houtside⟩

end RefSchema

namespace LayerDb

variable [DecidableEq T] {db : LayerDb Row} {t u : T} {key key' : String} {row : Row t} {ref : Ref T}

/-- What a table holds after a record was stored. -/
theorem of_get_set {row' : Row u} (h : (db.set t key row).get u key' = some row') :
    (∃ heq : t = u, key = key' ∧ heq ▸ row = row') ∨ db.get u key' = some row' := by
  by_cases hu : u = t
  · subst hu
    rw [get_set] at h
    split at h
    · exact .inl ⟨rfl, ‹_›, Option.some.inj h⟩
    · exact .inr h
  · rw [get_set_of_ne _ hu] at h
    exact .inr h

theorem of_get_delete {row' : Row u} (h : (db.delete t key).get u key' = some row') :
    db.get u key' = some row' := by
  by_cases hu : u = t
  · subst hu
    rw [get_delete] at h
    exact (Option.ite_none_left_eq_some.mp h).2
  · rwa [get_delete_of_ne _ hu] at h

@[simp]
theorem present_set_self : (db.set t key row).present (t, key) = true := by
  simp [present, get_set]

theorem present_set (h : db.present ref = true) : (db.set t key row).present ref = true := by
  obtain ⟨u, key'⟩ := ref
  by_cases hu : u = t
  · subst hu
    simp only [present, get_set] at h ⊢
    split
    · rfl
    · exact h
  · simpa only [present, get_set_of_ne _ hu] using h

theorem present_delete (h : db.present ref = true) (hne : ref ≠ (t, key)) :
    (db.delete t key).present ref = true := by
  obtain ⟨u, key'⟩ := ref
  by_cases hu : u = t
  · subst hu
    have hkey : key ≠ key' := fun heq => hne (heq ▸ rfl)
    simpa only [present, get_delete, if_neg hkey] using h
  · simpa only [present, get_delete_of_ne _ hu] using h

end LayerDb

namespace RefSchema

variable [DecidableEq T] {schema : RefSchema Row} {db : LayerDb Row} {outside : List (Ref T)} {t : T}
  {key : String} {row : Row t} {ref : Ref T}

/-- A record may be stored when what it refers to is there, itself included. -/
theorem Integral.set (h : schema.Integral outside db) (hkeyed : schema.keyed t key row)
    (hrefs : ∀ ref ∈ schema.refs t row, (db.set t key row).present ref = true) :
    schema.Integral outside (db.set t key row) := by
  refine ⟨fun u key' row' hget => ?_, fun u key' row' hget ref hmem => ?_,
    fun ref hmem => LayerDb.present_set (h.outside ref hmem)⟩
  · rcases LayerDb.of_get_set hget with ⟨rfl, rfl, rfl⟩ | hold
    · exact hkeyed
    · exact h.keyed u key' row' hold
  · rcases LayerDb.of_get_set hget with ⟨rfl, rfl, rfl⟩ | hold
    · exact hrefs ref hmem
    · exact LayerDb.present_set (h.refs u key' row' hold ref hmem)

/-- A record that nothing refers to may be removed. -/
theorem Integral.delete (h : schema.Integral outside db)
    (hfree : schema.Unreferenced outside db (t, key)) :
    schema.Integral outside (db.delete t key) := by
  refine ⟨fun u key' row' hget => h.keyed u key' row' (LayerDb.of_get_delete hget),
    fun u key' row' hget ref hmem => ?_, fun ref hmem => ?_⟩
  · have hold := LayerDb.of_get_delete hget
    exact LayerDb.present_delete (h.refs u key' row' hold ref hmem)
      fun heq => hfree.refs u key' row' hold (heq ▸ hmem)
  · exact LayerDb.present_delete (h.outside ref hmem) fun heq => hfree.outside (heq ▸ hmem)

theorem Unreferenced.delete (h : schema.Unreferenced outside db ref) :
    schema.Unreferenced outside (db.delete t key) ref :=
  ⟨fun u key' row' hget => h.refs u key' row' (LayerDb.of_get_delete hget), h.outside⟩

end RefSchema

end Syfrah
