import Std.Data.ExtTreeMap
import Syfrah.State.Ambient

/-!
# The embedded database of a layer

A `LayerDb` holds one table per table name; a table maps string keys to records and is listed in the
order of its keys. Records go through JSON on the way in and out, which is taken to lose nothing, so
a table holds the records themselves.
-/

namespace Syfrah

/-- A table: records under string keys, listed in key order. -/
abbrev Table (α : Type) := Std.ExtTreeMap String α

/-- A database with the tables `T`, each with its own type of record. -/
@[ext]
structure LayerDb {T : Type} (Row : T → Type) where
  table : (t : T) → Table (Row t)

namespace LayerDb

variable {T : Type} {Row : T → Type}

def empty : LayerDb Row := ⟨fun _ => ∅⟩

def get (db : LayerDb Row) (t : T) (key : String) : Option (Row t) := (db.table t)[key]?

def list (db : LayerDb Row) (t : T) : List (String × Row t) := (db.table t).toList

variable [DecidableEq T]

def set (db : LayerDb Row) (t : T) (key : String) (value : Row t) : LayerDb Row :=
  ⟨Function.update db.table t ((db.table t).insert key value)⟩

def delete (db : LayerDb Row) (t : T) (key : String) : LayerDb Row :=
  ⟨Function.update db.table t ((db.table t).erase key)⟩

@[simp]
theorem table_set_self (db : LayerDb Row) (t : T) (key : String) (value : Row t) :
    (db.set t key value).table t = (db.table t).insert key value := by
  simp [set]

@[simp]
theorem table_delete_self (db : LayerDb Row) (t : T) (key : String) :
    (db.delete t key).table t = (db.table t).erase key := by
  simp [delete]

theorem table_set_of_ne (db : LayerDb Row) {t u : T} (h : u ≠ t) (key : String) (value : Row t) :
    (db.set t key value).table u = db.table u := by
  simp [set, Function.update_of_ne h]

theorem table_delete_of_ne (db : LayerDb Row) {t u : T} (h : u ≠ t) (key : String) :
    (db.delete t key).table u = db.table u := by
  simp [delete, Function.update_of_ne h]

theorem get_set (db : LayerDb Row) (t : T) (key key' : String) (value : Row t) :
    (db.set t key value).get t key' = if key = key' then some value else db.get t key' := by
  simp [get, Std.ExtTreeMap.getElem?_insert]

theorem get_delete (db : LayerDb Row) (t : T) (key key' : String) :
    (db.delete t key).get t key' = if key = key' then none else db.get t key' := by
  simp [get, Std.ExtTreeMap.getElem?_erase]

theorem get_set_of_ne (db : LayerDb Row) {t u : T} (h : u ≠ t) (key key' : String) (value : Row t) :
    (db.set t key value).get u key' = db.get u key' := by
  rw [get, table_set_of_ne db h, get]

theorem get_delete_of_ne (db : LayerDb Row) {t u : T} (h : u ≠ t) (key key' : String) :
    (db.delete t key).get u key' = db.get u key' := by
  rw [get, table_delete_of_ne db h, get]

end LayerDb

/-! ### Store operations -/

/-- A store operation: it works on the tables of the store, reads the outside of the node and may
fail. -/
abbrev StoreM {T : Type} (Row : T → Type) (ε α : Type) := Tx ε (LayerDb Row × Ambient) α

section Store

variable {T : Type} {Row : T → Type} {ε : Type}

def dbGet (t : T) (key : String) : StoreM Row ε (Option (Row t)) :=
  Tx.read fun s => s.1.get t key

theorem dbGet_bind_apply {α : Type} (t : T) (key : String) (k : Option (Row t) → StoreM Row ε α)
    (s : LayerDb Row × Ambient) : (dbGet t key >>= k) s = k (s.1.get t key) s := rfl

def dbExists (t : T) (key : String) : StoreM Row ε Bool :=
  Tx.read fun s => (s.1.get t key).isSome

variable [DecidableEq T]

def dbSet (t : T) (key : String) (value : Row t) : StoreM Row ε Unit :=
  Tx.write fun s => (s.1.set t key value, s.2)

/-- Remove a record and say whether there was one. -/
def dbDelete (t : T) (key : String) : StoreM Row ε Bool :=
  Tx.take fun s => ((s.1.get t key).isSome, (s.1.delete t key, s.2))

def nowSecs : StoreM Row ε ℕ :=
  Tx.take fun s => (s.2.nowSecs.1, (s.1, s.2.nowSecs.2))

/-- A fresh random identifier after the given word. -/
def generateId (word : String) : StoreM Row ε String :=
  Tx.take fun s => ((s.2.generateId word).1, (s.1, (s.2.generateId word).2))

end Store

end Syfrah
