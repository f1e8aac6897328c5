import Syfrah.ControlPlane.Snapshot
import Syfrah.Lib.TreeMap

/-!
# A snapshot installed on another state machine

The export skips empty tables and the import leaves alone what the export skipped. So after an
installation a table is the one of the source where that is not empty, and the one the target had
before where it is.

The six stores are seen as one family of tables, so that the argument is made once.
-/

namespace Syfrah

section Tables

variable {T : Type} {Row : T → Type} (schema : Schema Row)

theorem readRaw_exportTableRaw (source : LayerDb Row) (t : T) :
    readRaw schema t (exportTableRaw schema source t) = source.table t := by
  simp only [readRaw, exportTableRaw, List.foldl_map, schema.unwrap_wrap, LayerDb.list]
  rw [Std.ExtTreeMap.foldl_insert_eq_insertMany, Std.ExtTreeMap.insertMany_toList]

theorem exportTableRaw_isEmpty (db : LayerDb Row) (t : T) :
    (exportTableRaw schema db t).isEmpty = (db.table t).isEmpty := by
  rw [Bool.eq_iff_iff]
  simp [exportTableRaw, LayerDb.list, ← Std.ExtTreeMap.isEmpty_toList]

theorem exportTable_of_ne (db : LayerDb Row) (tables : RawTables) {t : T} {key : String}
    (hkey : schema.name t ≠ key) : (exportTable schema db tables t)[key]? = tables[key]? := by
  unfold exportTable
  split
  · rfl
  · simp [Std.ExtTreeMap.getElem?_insert, hkey]

theorem exportTable_self (db : LayerDb Row) (tables : RawTables) (t : T) :
    (exportTable schema db tables t)[schema.name t]? =
      if (db.table t).isEmpty then tables[schema.name t]?
      else some (exportTableRaw schema db t) := by
  unfold exportTable
  rw [exportTableRaw_isEmpty]
  split <;> simp

theorem exportStore_of_forall_ne (db : LayerDb Row) (tables : RawTables) {key : String}
    (hkey : ∀ t, schema.name t ≠ key) :
    (exportStore schema db tables)[key]? = tables[key]? := by
  unfold exportStore
  induction schema.tableNames generalizing tables with
  | nil => rfl
  | cons t ts ih => rw [List.foldl_cons, ih, exportTable_of_ne schema db tables (hkey t)]

theorem foldl_exportTable_name [DecidableEq T] (hname : Function.Injective schema.name)
    (db : LayerDb Row) (t : T) (ts : List T) (tables : RawTables) :
    (ts.foldl (exportTable schema db) tables)[schema.name t]? =
      if t ∈ ts ∧ (db.table t).isEmpty = false then some (exportTableRaw schema db t)
      else tables[schema.name t]? := by
  induction ts generalizing tables with
  | nil => simp
  | cons u us ih =>
      rw [List.foldl_cons, ih]
      by_cases hu : u = t
      · subst hu
        rw [exportTable_self]
        cases (db.table u).isEmpty <;> simp
      · have hmem : t ∈ u :: us ↔ t ∈ us := by simp [Ne.symm hu]
        rw [exportTable_of_ne schema db tables fun h => hu (hname h)]
        simp only [hmem]

theorem exportStore_name [DecidableEq T] (hname : Function.Injective schema.name)
    (db : LayerDb Row) (tables : RawTables) (t : T) :
    (exportStore schema db tables)[schema.name t]? =
      if (db.table t).isEmpty then tables[schema.name t]?
      else some (exportTableRaw schema db t) := by
  rw [exportStore, foldl_exportTable_name schema hname]
  cases (db.table t).isEmpty <;> simp [schema.mem_tableNames]

theorem importTable_of_ne [DecidableEq T] (tables : RawTables) (db : LayerDb Row) {t u : T}
    (hu : u ≠ t) : (importTable schema tables db u).table t = db.table t := by
  unfold importTable
  split
  · simp [importTableRaw, Function.update_of_ne (Ne.symm hu)]
  · rfl

theorem importTable_self [DecidableEq T] (tables : RawTables) (db : LayerDb Row) (t : T) :
    (importTable schema tables db t).table t =
      (tables[schema.name t]?).elim (db.table t) (readRaw schema t) := by
  unfold importTable
  cases tables[schema.name t]? with
  | none => rfl
  | some entries => simp [importTableRaw]

theorem importStore_table [DecidableEq T] (tables : RawTables) (db : LayerDb Row) (t : T) :
    (importStore schema tables db).table t =
      (tables[schema.name t]?).elim (db.table t) (readRaw schema t) := by
  have hfold : ∀ (ts : List T) (db : LayerDb Row),
      (ts.foldl (importTable schema tables) db).table t =
        if t ∈ ts then (tables[schema.name t]?).elim (db.table t) (readRaw schema t)
        else db.table t := by
    intro ts
    induction ts with
    | nil => simp
    | cons u us ih =>
        intro db
        rw [List.foldl_cons, ih]
        by_cases hu : u = t
        · subst hu
          rw [importTable_self]
          cases tables[schema.name u]? <;> simp
        · rw [importTable_of_ne schema tables db hu]
          simp [Ne.symm hu]
  rw [importStore, hfold, if_pos (schema.mem_tableNames t)]

end Tables

/-! ### The stores as one family -/

namespace StoreName

def schema : (n : StoreName) → Schema n.Row
  | org => orgSchema
  | ipam => ipamSchema
  | placement => placementSchema
  | sgRule => sgRuleSchema
  | hypervisor => hypervisorSchema
  | storage => storageSchema

def all : List StoreName := [org, ipam, placement, sgRule, hypervisor, storage]

theorem mem_all (n : StoreName) : n ∈ all := by cases n <;> decide

def listed : List ((n : StoreName) × n.TableOf) :=
  all.flatMap fun n => n.schema.tableNames.map (Sigma.mk n)

theorem mem_listed (n : StoreName) (t : n.TableOf) : ⟨n, t⟩ ∈ listed := by
  refine List.mem_flatMap.mpr ⟨n, mem_all n, ?_⟩
  exact List.mem_map_of_mem (n.schema.mem_tableNames t)

theorem nodup_names : (listed.map fun x => x.1.schema.name x.2).Nodup := by decide +kernel

theorem name_injective {n m : StoreName} {t : n.TableOf} {u : m.TableOf}
    (h : n.schema.name t = m.schema.name u) :
    (⟨n, t⟩ : (n : StoreName) × n.TableOf) = ⟨m, u⟩ :=
  List.inj_on_of_nodup_map nodup_names (mem_listed n t) (mem_listed m u) h

theorem schema_name_injective (n : StoreName) : Function.Injective n.schema.name := fun _ _ h =>
  eq_of_heq (Sigma.mk.inj (name_injective h)).2

end StoreName

namespace RedbStateMachine

/-- The state machine holds the same listed tables, storage state and Raft bookkeeping as `S`. -/
structure HoldsContentsOf (sm S : RedbStateMachine) : Prop where
  tables : ∀ n, ∀ t ∈ n.schema.tableNames, sm.tableOf n t = S.tableOf n t
  storage : sm.storage = S.storage
  smState : sm.smState = S.smState

theorem exportStoreTables_eq_foldl (sm : RedbStateMachine) :
    sm.exportStoreTables =
      StoreName.all.foldl (fun tables n => exportOptional n.schema (sm.store n) tables) ∅ := rfl

theorem exportOptional_of_ne {n m : StoreName} (hne : m ≠ n) (db : Option (LayerDb m.Row))
    (tables : RawTables) (t : n.TableOf) :
    (exportOptional m.schema db tables)[n.schema.name t]? = tables[n.schema.name t]? := by
  cases db with
  | none => rfl
  | some db =>
      refine exportStore_of_forall_ne m.schema db tables fun u hu => hne ?_
      exact congrArg Sigma.fst (StoreName.name_injective hu)

theorem exportStoreTables_name (sm : RedbStateMachine) {n : StoreName} {db : LayerDb n.Row}
    (hdb : sm.store n = some db) (t : n.TableOf) :
    sm.exportStoreTables[n.schema.name t]? =
      if (db.table t).isEmpty then none else some (exportTableRaw n.schema db t) := by
  have hfold : ∀ (ms : List StoreName), ms.Nodup → ∀ tables : RawTables,
      (ms.foldl (fun tables m => exportOptional m.schema (sm.store m) tables)
        tables)[n.schema.name t]? =
        if n ∈ ms ∧ (db.table t).isEmpty = false then some (exportTableRaw n.schema db t)
        else tables[n.schema.name t]? := by
    intro ms
    induction ms with
    | nil => simp
    | cons m ms ih =>
        intro hnodup tables
        obtain ⟨hm, hms⟩ := List.nodup_cons.mp hnodup
        rw [List.foldl_cons, ih hms]
        by_cases hmn : m = n
        · subst hmn
          simp only [hdb, exportOptional, exportStore_name m.schema m.schema_name_injective]
          cases (db.table t).isEmpty <;> simp [hm]
        · have hmem : n ∈ m :: ms ↔ n ∈ ms := by simp [Ne.symm hmn]
          rw [exportOptional_of_ne hmn]
          simp only [hmem]
  rw [exportStoreTables_eq_foldl, hfold _ (by decide)]
  cases (db.table t).isEmpty <;> simp [StoreName.mem_all]

theorem importStoreTables_store (sm : RedbStateMachine) (tables : RawTables) (n : StoreName) :
    (sm.importStoreTables tables).store n =
      (sm.store n).map (importStore n.schema tables) := by
  cases n <;> rfl

theorem installSnapshot_buildSnapshot (S T : RedbStateMachine) :
    ∃ T', T.installSnapshot S.buildSnapshot.1 = .ok T' ∧
      (∀ n, T'.store n = (T.store n).map (importStore n.schema S.exportStoreTables)) ∧
      T'.storage = S.storage ∧ T'.smState = S.smState := by
  refine ⟨_, rfl, fun n => ?_, rfl, rfl⟩
  rw [← importStoreTables_store]
  cases n <;> rfl

open Classical in
/-- **Tables after an installation.** A table that is not empty at the source replaces the one of
the target; a table that is empty at the source leaves it as it was. -/
theorem tableOf_installSnapshot {S T T' : RedbStateMachine} {n : StoreName}
    (hstores : (S.store n).isSome = (T.store n).isSome)
    (hstore : T'.store n = (T.store n).map (importStore n.schema S.exportStoreTables))
    (t : n.TableOf) :
    T'.tableOf n t = if S.tableOf n t = some ∅ then T.tableOf n t else S.tableOf n t := by
  unfold tableOf
  rw [hstore]
  cases hS : S.store n with
  | none =>
      have hT : T.store n = none := by simpa [hS] using hstores.symm
      simp [hT]
  | some source =>
      obtain ⟨target, hT⟩ : ∃ target, T.store n = some target := by
        rw [← Option.isSome_iff_exists, ← hstores, hS]
        rfl
      simp only [hT, Option.map_some, importStore_table, exportStoreTables_name S hS]
      by_cases hempty : source.table t = ∅
      · simp [hempty]
      · have hkept : (source.table t).isEmpty = false := by
          simpa [Std.ExtTreeMap.isEmpty_iff] using hempty
        simp [hkept, hempty, readRaw_exportTableRaw]

/-- **Installing a snapshot.** The target ends with the contents of the source exactly when it held
nothing in the tables that are empty at the source. -/
theorem installSnapshot_exact_iff (S T : RedbStateMachine)
    (hstores : ∀ n, (S.store n).isSome = (T.store n).isSome) :
    (∃ T', T.installSnapshot S.buildSnapshot.1 = .ok T' ∧ T'.HoldsContentsOf S) ↔
      ∀ n, ∀ t ∈ n.schema.tableNames, S.tableOf n t = some ∅ → T.tableOf n t = some ∅ := by
  obtain ⟨T', hinstall, hstore, hstorage, hstate⟩ := installSnapshot_buildSnapshot S T
  have htable : ∀ n t, S.tableOf n t = some ∅ → T'.tableOf n t = T.tableOf n t := by
    intro n t hempty
    rw [tableOf_installSnapshot (hstores n) (hstore n), if_pos hempty]
  constructor
  · rintro ⟨T'', hinstall', hsame⟩ n t ht hempty
    obtain rfl : T' = T'' := Except.ok.inj (hinstall.symm.trans hinstall')
    rw [← htable n t hempty, hsame.tables n t ht, hempty]
  · intro hcond
    refine ⟨T', hinstall, fun n t ht => ?_, hstorage, hstate⟩
    by_cases hempty : S.tableOf n t = some ∅
    · rw [htable n t hempty, hcond n t ht hempty, hempty]
    · rw [tableOf_installSnapshot (hstores n) (hstore n), if_neg hempty]

/-- **Installing twice.** A snapshot that is delivered again changes nothing more. -/
theorem installSnapshot_again (S T : RedbStateMachine) :
    ∃ T' T'', T.installSnapshot S.buildSnapshot.1 = .ok T' ∧ T'.installSnapshot S.buildSnapshot.1 = .ok T'' ∧
      (∀ n t, T''.tableOf n t = T'.tableOf n t) ∧ T''.storage = T'.storage ∧ T''.smState = T'.smState := by
  obtain ⟨T', hfirst, hstore, hstorage, hstate⟩ := installSnapshot_buildSnapshot S T
  obtain ⟨T'', hsecond, hstore', hstorage', hstate'⟩ := installSnapshot_buildSnapshot S T'
  refine ⟨T', T'', hfirst, hsecond, fun n t => ?_, hstorage'.trans hstorage.symm, hstate'.trans hstate.symm⟩
  unfold tableOf
  rw [hstore', hstore]
  cases T.store n with
  | none => rfl
  | some db =>
      simp only [Option.map_some, importStore_table]
      cases S.exportStoreTables[n.schema.name t]? <;> rfl

/-- The state machine after a log, from empty stores. -/
def afterLog (log : List StateMachineCommand) : RedbStateMachine :=
  (applyLog log .fresh).2.sm

theorem installSnapshot_exact_on_empty :
    (∀ n, ((afterLog [.single (.createOrg "acme")]).store n).isSome =
      ((new .empty).store n).isSome) ∧
    ∃ T', (new .empty).installSnapshot
        (afterLog [.single (.createOrg "acme")]).buildSnapshot.1 = .ok T' ∧
      T'.HoldsContentsOf (afterLog [.single (.createOrg "acme")]) := by
  have hstores : ∀ n, ((afterLog [.single (.createOrg "acme")]).store n).isSome =
      ((new .empty).store n).isSome := by
    intro n
    cases n <;> decide
  refine ⟨hstores, (installSnapshot_exact_iff _ _ hstores).mpr fun n t _ hempty => ?_⟩
  cases n with
  | org => rfl
  | ipam => exact absurd hempty nofun
  | placement => exact absurd hempty nofun
  | sgRule => exact absurd hempty nofun
  | hypervisor => exact absurd hempty nofun
  | storage => exact absurd hempty nofun

/-- A follower that has not yet seen the deletion of the only org keeps that org when it installs a
snapshot taken after the deletion. -/
theorem installSnapshot_keeps_deleted_org :
    ¬ ∃ T', (afterLog [.single (.createOrg "acme")]).installSnapshot
        (afterLog [.single (.createOrg "acme"), .single (.deleteOrg "acme")]).buildSnapshot.1 =
          .ok T' ∧
      T'.HoldsContentsOf
        (afterLog [.single (.createOrg "acme"), .single (.deleteOrg "acme")]) := by
  rintro ⟨T', hinstall, hsame⟩
  have horgs := hsame.tables .org OrgTable.orgs (StoreName.org.schema.mem_tableNames _)
  obtain ⟨T'', hinstall', hstore, -⟩ := installSnapshot_buildSnapshot
    (afterLog [.single (.createOrg "acme"), .single (.deleteOrg "acme")])
    (afterLog [.single (.createOrg "acme")])
  obtain rfl : T' = T'' := Except.ok.inj (hinstall.symm.trans hinstall')
  have hdeleted : (afterLog [.single (.createOrg "acme"),
      .single (.deleteOrg "acme")]).orgStore.table .orgs = ∅ := by decide
  have hkept : (afterLog [.single (.createOrg "acme")]).orgStore.table .orgs ≠ ∅ := by decide
  have hempty : (afterLog [.single (.createOrg "acme"),
      .single (.deleteOrg "acme")]).tableOf .org OrgTable.orgs = some ∅ := congrArg some hdeleted
  have hafter := tableOf_installSnapshot (by rfl) (hstore .org) OrgTable.orgs
  rw [if_pos hempty] at hafter
  exact hkept (Option.some.inj (hafter.symm.trans (horgs.trans hempty)))

end RedbStateMachine

end Syfrah
