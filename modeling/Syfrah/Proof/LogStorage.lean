import Syfrah.ControlPlane.LogStorage
import Syfrah.Lib.Run
import Syfrah.Lib.TreeMap

/-!
# The Raft log after a crash

What the database holds is what the memory would hold after the transactions made so far
(`load_run`), so a crash is a call that was cut off. Entries are removed from the lowest index on, one
by one; a cut in between leaves a gap behind the entries that stay, or entries before the first index.
-/

namespace Syfrah

variable {Payload Vote : Type}

/-! ### What is loaded from a database -/

/-- All keys of the log table are texts of indices. -/
def KeysRendered (table : Table (LogEntry Payload)) : Prop :=
  ∀ (key : String) entry, table[key]? = some entry → ∃ index < 2 ^ 64, key = toString index

theorem toString_injective {i j : ℕ} (h : toString i = toString j) : i = j := by
  have hi : Text.parseUnsigned (max i j + 1) (toString i) = some i := Text.parseUnsigned_toString (by omega)
  have hj : Text.parseUnsigned (max i j + 1) (toString j) = some j := Text.parseUnsigned_toString (by omega)
  rw [h] at hi
  exact Option.some.inj (hi.symm.trans hj)

theorem foldl_loadLog {rows : List (String × LogEntry Payload)}
    (hrendered : ∀ row ∈ rows, ∃ index < 2 ^ 64, row.1 = toString index)
    (hnodup : (rows.map Prod.fst).Nodup) (log : Std.ExtTreeMap ℕ (LogEntry Payload)) (i : ℕ) (entry : LogEntry Payload) :
    (rows.foldl loadRow log)[i]? = some entry ↔
      (toString i, entry) ∈ rows ∨ (∀ row ∈ rows, row.1 ≠ toString i) ∧ log[i]? = some entry := by
  induction rows generalizing log with
  | nil => simp
  | cons row rows ih =>
      obtain ⟨key, value⟩ := row
      obtain ⟨hfirst, hrest⟩ := List.forall_mem_cons.mp hrendered
      obtain ⟨index, hindex, rfl⟩ := hfirst
      rw [List.map_cons, List.nodup_cons] at hnodup
      rw [List.foldl_cons, loadRow, Text.parseUnsigned_toString hindex, ih hrest hnodup.2]
      dsimp only
      have hnew : ∀ row ∈ rows, row.1 ≠ toString index :=
        fun row hrow heq => hnodup.1 (List.mem_map.mpr ⟨row, hrow, heq⟩)
      by_cases hi : i = index
      · subst hi
        have hnone : (toString i, entry) ∉ rows := fun hmem => hnew _ hmem rfl
        rw [or_iff_right hnone, and_iff_right hnew, Std.ExtTreeMap.getElem?_insert_self, List.mem_cons]
        constructor
        · intro heq
          exact .inl (.inl (congrArg (Prod.mk _) (Option.some.inj heq).symm))
        · rintro ((heq | hmem) | ⟨hfirst, -⟩)
          · exact congrArg some (Prod.mk.inj heq).2.symm
          · exact absurd hmem hnone
          · exact absurd rfl (hfirst _ List.mem_cons_self)
      · have hne : toString index ≠ toString i := fun heq => hi (toString_injective heq.symm)
        have hother : (toString i, entry) ≠ (toString index, value) := fun heq => hne (Prod.mk.inj heq).1.symm
        have hold : (log.insert index value)[i]? = log[i]? := by
          rw [Std.ExtTreeMap.getElem?_insert, if_neg]
          simpa using Ne.symm hi
        rw [hold, List.mem_cons, or_iff_right hother, List.forall_mem_cons, and_iff_right hne]

theorem getElem?_loadLog {table : Table (LogEntry Payload)} (h : KeysRendered table) (i : ℕ) :
    (loadLog table)[i]? = table[toString i]? := by
  refine Option.ext fun entry => ?_
  unfold loadLog
  rw [foldl_loadLog _ table.nodup_map_fst_toList]
  · rw [Std.ExtTreeMap.mem_toList_iff_getElem?_eq_some, Std.ExtTreeMap.getElem?_empty]
    exact or_iff_left fun hnone => nomatch hnone.2
  · intro row hrow
    exact h row.1 row.2 (Std.ExtTreeMap.mem_toList_iff_getElem?_eq_some.mp hrow)

/-- What a store opened on a database has in memory. -/
def LogDb.load (db : LogDb Payload Vote) : LogMemory Payload Vote := (RedbLogStore.new db).memory

def LogTx.onMemory : LogTx Payload Vote → LogMemory Payload Vote → LogMemory Payload Vote
  | setLog index entry, m => { m with log := m.log.insert index entry }
  | deleteLog index, m => { m with log := m.log.erase index }
  | setPurged logId, m => { m with lastPurgedLogId := some logId }
  | setCommitted logId, m => { m with committed := some logId }
  | setVote vote, m => { m with vote := some vote }

def LogTx.Bounded : LogTx Payload Vote → Prop
  | setLog index _ => index < 2 ^ 64
  | _ => True

theorem keysRendered_run {tx : LogTx Payload Vote} {db : LogDb Payload Vote} (h : KeysRendered db.log)
    (htx : tx.Bounded) : KeysRendered (tx.run db).log := by
  intro key entry hget
  cases tx with
  | setLog index value =>
      rcases Std.ExtTreeMap.of_getElem?_insert hget with ⟨rfl, -⟩ | ⟨-, hold⟩
      · exact ⟨index, htx, rfl⟩
      · exact h key entry hold
  | deleteLog index => exact h key entry (Std.ExtTreeMap.of_getElem?_erase hget).2
  | _ => exact h key entry hget

/-- **What is loaded follows the transactions.** -/
theorem load_run {tx : LogTx Payload Vote} {db : LogDb Payload Vote} (h : KeysRendered db.log) (htx : tx.Bounded) :
    (tx.run db).load = tx.onMemory db.load := by
  have hlog : ∀ i, (tx.run db).load.log[i]? = (tx.run db).log[toString i]? := getElem?_loadLog (keysRendered_run h htx)
  have hbefore : ∀ i, db.load.log[i]? = db.log[toString i]? := getElem?_loadLog h
  cases tx with
  | setLog index entry =>
      refine congrArg (fun log => { db.load with log := log }) (Std.ExtTreeMap.ext_getElem? fun i => (hlog i).trans ?_)
      rw [LogTx.run, Std.ExtTreeMap.getElem?_insert, Std.ExtTreeMap.getElem?_insert, hbefore]
      by_cases hi : index = i
      · simp [hi]
      · have hne : toString index ≠ toString i := fun heq => hi (toString_injective heq)
        rw [if_neg (by simpa using hne), if_neg (by simpa using hi)]
  | deleteLog index =>
      refine congrArg (fun log => { db.load with log := log }) (Std.ExtTreeMap.ext_getElem? fun i => (hlog i).trans ?_)
      rw [LogTx.run, Std.ExtTreeMap.getElem?_erase, Std.ExtTreeMap.getElem?_erase, hbefore]
      by_cases hi : index = i
      · simp [hi]
      · have hne : toString index ≠ toString i := fun heq => hi (toString_injective heq)
        rw [if_neg (by simpa using hne), if_neg (by simpa using hi)]
  | _ => rfl

theorem load_foldl {txs : List (LogTx Payload Vote)} {db : LogDb Payload Vote} (h : KeysRendered db.log)
    (htxs : ∀ tx ∈ txs, tx.Bounded) :
    KeysRendered (txs.foldl (fun db tx => tx.run db) db).log ∧
      (txs.foldl (fun db tx => tx.run db) db).load = txs.foldl (fun m tx => tx.onMemory m) db.load := by
  induction txs generalizing db with
  | nil => exact ⟨h, rfl⟩
  | cons tx txs ih =>
      obtain ⟨hfirst, hrest⟩ := List.forall_mem_cons.mp htxs
      obtain ⟨hrendered, hload⟩ := ih (keysRendered_run h hfirst) hrest
      rw [load_run h hfirst] at hload
      exact ⟨hrendered, hload⟩

theorem bounded_of_mem_effect {m : LogMemory Payload Vote} {call : LogCall Payload Vote} {tx : LogTx Payload Vote}
    (htx : tx ∈ (call.effect m).2) : tx.Bounded := by
  cases call with
  | saveVote vote =>
      obtain rfl := List.mem_singleton.mp htx
      trivial
  | saveCommitted committed =>
      obtain ⟨_, -, rfl⟩ := List.mem_map.mp htx
      trivial
  | append entries =>
      obtain ⟨entry, -, rfl⟩ := List.mem_map.mp htx
      exact entry.index_lt
  | truncateAfter lastLogId =>
      obtain ⟨_, -, rfl⟩ := List.mem_map.mp htx
      trivial
  | purge logId =>
      rcases List.mem_cons.mp htx with rfl | htx
      · trivial
      · obtain ⟨_, -, rfl⟩ := List.mem_map.mp htx
        trivial

/-! ### Ranges of indices -/

/-- The indices of a log are those from the first one up to a bound. -/
def IsRange (log : Std.ExtTreeMap ℕ (LogEntry Payload)) (first stop : ℕ) : Prop :=
  ∀ i, i ∈ log ↔ first ≤ i ∧ i < stop

def nextAfter (log : Std.ExtTreeMap ℕ (LogEntry Payload)) (first : ℕ) : ℕ :=
  log.keys.foldr (fun key next => max (key + 1) next) first

section Range

variable {log : Std.ExtTreeMap ℕ (LogEntry Payload)} {first stop next : ℕ}

theorem nextAfter_spec (log : Std.ExtTreeMap ℕ (LogEntry Payload)) (first : ℕ) :
    first ≤ nextAfter log first ∧ (∀ i ∈ log, i < nextAfter log first) ∧
      (nextAfter log first = first ∨ ∃ i ∈ log, nextAfter log first = i + 1) := by
  have hkeys : ∀ keys : List ℕ, let next := keys.foldr (fun key next => max (key + 1) next) first
      first ≤ next ∧ (∀ i ∈ keys, i < next) ∧ (next = first ∨ ∃ i ∈ keys, next = i + 1) := by
    intro keys
    induction keys with
    | nil => exact ⟨le_rfl, nofun, .inl rfl⟩
    | cons key keys ih =>
        obtain ⟨hfirst, hbelow, hreached⟩ := ih
        refine ⟨hfirst.trans (le_max_right _ _), List.forall_mem_cons.mpr ⟨?_, fun i hi => ?_⟩, ?_⟩
        · exact lt_max_of_lt_left (Nat.lt_succ_self key)
        · exact (hbelow i hi).trans_le (le_max_right _ _)
        · rw [List.foldr_cons]
          rcases le_total (keys.foldr (fun key next => max (key + 1) next) first) (key + 1) with hle | hle
          · exact .inr ⟨key, List.mem_cons_self, max_eq_left hle⟩
          · rw [max_eq_right hle]
            exact hreached.imp_right fun ⟨i, hi, heq⟩ => ⟨i, List.mem_cons_of_mem _ hi, heq⟩
  obtain ⟨hfirst, hbelow, hreached⟩ := hkeys log.keys
  refine ⟨hfirst, fun i hi => hbelow i (Std.ExtTreeMap.mem_keys.mpr hi), hreached.imp_right ?_⟩
  exact fun ⟨i, hi, heq⟩ => ⟨i, Std.ExtTreeMap.mem_keys.mp hi, heq⟩

theorem IsRange.nextAfter (h : IsRange log first stop) : IsRange log first (nextAfter log first) := by
  obtain ⟨hfirst, hbelow, hreached⟩ := nextAfter_spec log first
  intro i
  constructor
  · intro hi
    exact ⟨((h i).mp hi).1, hbelow i hi⟩
  · rintro ⟨hle, hlt⟩
    rcases hreached with heq | ⟨last, hlast, heq⟩
    · omega
    · have hstop := ((h last).mp hlast).2
      exact (h i).mpr ⟨hle, by omega⟩

theorem IsRange.insert (h : IsRange log first next) {index : ℕ} (hfirst : first ≤ index) (hnext : index ≤ next)
    (entry : LogEntry Payload) : IsRange (log.insert index entry) first (max next (index + 1)) := by
  intro i
  simp only [Std.ExtTreeMap.mem_insert, Std.LawfulEqCmp.compare_eq_iff_eq, h i]
  omega

theorem isRange_insert_iff (h : IsRange log first next) (hle : first ≤ next) {index : ℕ} {entry : LogEntry Payload} :
    (∃ stop, IsRange (log.insert index entry) first stop) ↔ first ≤ index ∧ index ≤ next := by
  constructor
  · rintro ⟨stop, hrange⟩
    obtain ⟨hfirst, hstop⟩ := (hrange index).mp Std.ExtTreeMap.mem_insert_self
    refine ⟨hfirst, ?_⟩
    by_contra hgap
    -- the index that follows the old range is missing
    have hmem := (hrange next).mpr ⟨hle, by omega⟩
    simp only [Std.ExtTreeMap.mem_insert, Std.LawfulEqCmp.compare_eq_iff_eq, h next] at hmem
    omega
  · rintro ⟨hfirst, hnext⟩
    exact ⟨_, h.insert hfirst hnext entry⟩

/-- Each entry is in the range of those before it or follows it. -/
def AppendsInOrder (first : ℕ) : ℕ → List (LogEntry Payload) → Prop
  | _, [] => True
  | next, entry :: entries => first ≤ entry.logId.index ∧ entry.logId.index ≤ next ∧
      AppendsInOrder first (max next (entry.logId.index + 1)) entries

theorem isRange_append_iff (h : IsRange log first next) (hle : first ≤ next) (entries : List (LogEntry Payload)) :
    (∀ n, ∃ stop, IsRange ((entries.take n).foldl (fun log entry => log.insert entry.logId.index entry) log)
      first stop) ↔ AppendsInOrder first next entries := by
  induction entries generalizing log next with
  | nil =>
      refine iff_of_true (fun n => ⟨next, ?_⟩) trivial
      rw [List.take_nil]
      exact h
  | cons entry entries ih =>
      rw [AppendsInOrder, ← and_assoc]
      constructor
      · intro hall
        have hbounds := (isRange_insert_iff h hle).mp (hall 1)
        refine ⟨hbounds, (ih (h.insert hbounds.1 hbounds.2 entry) (hle.trans (le_max_left _ _))).mp fun n => ?_⟩
        exact hall (n + 1)
      · rintro ⟨hbounds, hrest⟩ n
        cases n with
        | zero => exact ⟨next, h⟩
        | succ n => exact (ih (h.insert hbounds.1 hbounds.2 entry) (hle.trans (le_max_left _ _))).mpr hrest n

theorem isRange_truncate_iff (h : IsRange log first next) (start : ℕ) :
    (∀ n, ∃ stop, IsRange (((log.keys.filter fun key => decide (start ≤ key)).take n).foldl
      (fun log key => log.erase key) log) first stop) ↔ (log.keys.filter fun key => decide (start ≤ key)).length ≤ 1 := by
  have hmem : ∀ key, key ∈ log.keys.filter (fun key => decide (start ≤ key)) ↔ key ∈ log ∧ start ≤ key := by
    intro key
    rw [List.mem_filter, Std.ExtTreeMap.mem_keys, decide_eq_true_eq]
  have hsorted : (log.keys.filter fun key => decide (start ≤ key)).Pairwise (· < ·) :=
    (log.ordered_keys.imp fun hlt => Nat.compare_eq_lt.mp hlt).filter _
  match hkeys : log.keys.filter fun key => decide (start ≤ key) with
  | [] => exact iff_of_true (fun n => ⟨next, by rw [List.take_nil]; exact h⟩) (Nat.zero_le 1)
  | [key] =>
      refine iff_of_true (fun n => ?_) le_rfl
      obtain ⟨hkey, hstart⟩ := (hmem key).mp (hkeys ▸ List.mem_singleton_self key)
      cases n with
      | zero => exact ⟨next, h⟩
      | succ n =>
          refine ⟨key, fun i => ?_⟩
          simp only [List.take_succ_cons, List.take_nil, List.foldl_cons, List.foldl_nil, Std.ExtTreeMap.mem_erase,
            ne_eq, Std.LawfulEqCmp.compare_eq_iff_eq, h i]
          have hlast : i ∈ log → start ≤ i → i = key := fun hi hle =>
            List.mem_singleton.mp (hkeys ▸ (hmem i).mpr ⟨hi, hle⟩)
          have hrange := (h key).mp hkey
          rw [h i] at hlast
          omega
  | key :: key' :: keys =>
      refine iff_of_false (fun hall => ?_) (by simp)
      obtain ⟨stop, hrange⟩ := hall 1
      rw [hkeys, List.pairwise_cons] at hsorted
      have hlt := hsorted.1 key' List.mem_cons_self
      obtain ⟨hkey, -⟩ := (hmem key).mp (hkeys ▸ List.mem_cons_self)
      obtain ⟨hkey', -⟩ := (hmem key').mp (hkeys ▸ List.mem_cons_of_mem _ List.mem_cons_self)
      -- the first key is gone while the second is there
      have hheld : key' ∈ log.erase key := by
        rw [Std.ExtTreeMap.mem_erase]
        exact ⟨by simpa using hlt.ne, hkey'⟩
      have hgone : key ∉ log.erase key := by
        rw [Std.ExtTreeMap.mem_erase]
        simp
      have hbounds := (hrange key').mp hheld
      exact hgone ((hrange key).mpr ⟨((h key).mp hkey).1, hlt.trans hbounds.2⟩)

end Range

/-! ### Calls and crashes -/

namespace LogMemory

def firstIndex (m : LogMemory Payload Vote) : ℕ :=
  match m.lastPurgedLogId with
  | some logId => logId.index + 1
  | none => 0

/-- The indices of the log form one range that starts after the last purged index. -/
def Contiguous (m : LogMemory Payload Vote) : Prop := ∃ stop, IsRange m.log m.firstIndex stop

/-- A call that a crash cannot hurt: entries are appended without a gap, at most one entry is truncated,
nothing is purged from a log with entries, and the committed entry is not taken back. -/
def Orderly (m : LogMemory Payload Vote) : LogCall Payload Vote → Prop
  | .saveVote _ => True
  | .saveCommitted committed => committed = none → m.committed = none
  | .append entries => AppendsInOrder m.firstIndex (nextAfter m.log m.firstIndex) entries
  | .truncateAfter (some logId) => (m.log.keys.filter fun key => (logId.index + 1) % 2 ^ 64 ≤ key).length ≤ 1
  | .truncateAfter none => (m.log.keys.filter fun key => 0 ≤ key).length ≤ 1
  | .purge logId => (∀ i, i ∉ m.log) ∨ logId.index + 1 = m.firstIndex

variable (m : LogMemory Payload Vote)

theorem foldl_setLog (entries : List (LogEntry Payload)) :
    (entries.map fun entry => LogTx.setLog entry.logId.index entry).foldl (fun m tx => tx.onMemory m) m =
      { m with log := entries.foldl (fun log entry => log.insert entry.logId.index entry) m.log } := by
  induction entries generalizing m with
  | nil => rfl
  | cons entry entries ih => exact ih _

theorem foldl_deleteLog (keys : List ℕ) :
    (keys.map LogTx.deleteLog).foldl (fun m tx => tx.onMemory m) m =
      { m with log := keys.foldl (fun log key => log.erase key) m.log } := by
  induction keys generalizing m with
  | nil => rfl
  | cons key keys ih => exact ih _

theorem effect_eq_foldl_iff (call : LogCall Payload Vote) :
    (call.effect m).2.foldl (fun m tx => tx.onMemory m) m = (call.effect m).1 ↔
      (call = .saveCommitted none → m.committed = none) := by
  cases call with
  | saveVote vote => exact iff_of_true rfl nofun
  | saveCommitted committed =>
      cases committed with
      | none =>
          refine ⟨fun heq _ => congrArg LogMemory.committed heq, fun hnone => ?_⟩
          change m = { m with committed := none }
          rw [← hnone rfl]
      | some logId => exact iff_of_true rfl nofun
  | append entries => exact iff_of_true (foldl_setLog m entries) nofun
  | truncateAfter lastLogId => exact iff_of_true (foldl_deleteLog m _) nofun
  | purge logId => exact iff_of_true (foldl_deleteLog _ _) nofun

def AllContiguous (call : LogCall Payload Vote) : Prop :=
  ∀ n, (((call.effect m).2.take n).foldl (fun m tx => tx.onMemory m) m).Contiguous

variable {m}

theorem contiguous_truncate_iff (h : m.Contiguous) (start : ℕ) :
    (∀ n, ((((m.remove (m.log.keys.filter fun key => decide (start ≤ key))).2).take n).foldl
      (fun m tx => tx.onMemory m) m).Contiguous) ↔ (m.log.keys.filter fun key => decide (start ≤ key)).length ≤ 1 := by
  obtain ⟨stop, hrange⟩ := h
  rw [← isRange_truncate_iff hrange]
  refine forall_congr' fun n => ?_
  rw [remove, ← List.map_take, foldl_deleteLog]
  rfl

theorem contiguous_purge_iff (h : m.Contiguous) (logId : LogId) :
    m.AllContiguous (.purge logId) ↔ (∀ i, i ∉ m.log) ∨ logId.index + 1 = m.firstIndex := by
  obtain ⟨stop, hrange⟩ := h
  have htxs : (LogCall.effect m (.purge logId)).2 =
      .setPurged logId :: (m.log.keys.filter fun key => decide (key ≤ logId.index)).map .deleteLog := rfl
  unfold AllContiguous
  rw [htxs]
  constructor
  · intro hall
    obtain ⟨stop', hpurged⟩ := hall 1
    refine or_iff_not_imp_left.mpr fun hentries => ?_
    -- both first indices are in the log
    obtain ⟨i, hi⟩ := not_forall_not.mp hentries
    have hbefore := (hrange i).mp hi
    have hafter : logId.index + 1 ≤ i ∧ i < stop' := (hpurged i).mp hi
    have hfirst : m.firstIndex ∈ m.log := (hrange _).mpr ⟨le_rfl, by omega⟩
    have hfirst' : logId.index + 1 ∈ m.log := (hpurged _).mpr ⟨le_rfl, by omega⟩
    have hle : logId.index + 1 ≤ m.firstIndex := ((hpurged _).mp hfirst).1
    have hge := ((hrange _).mp hfirst').1
    omega
  · intro hcond n
    have hkeys : m.log.keys.filter (fun key => decide (key ≤ logId.index)) = [] := by
      rw [List.filter_eq_nil_iff]
      intro key hkey
      rw [Std.ExtTreeMap.mem_keys] at hkey
      rcases hcond with hempty | heq
      · exact absurd hkey (hempty key)
      · have hge := ((hrange key).mp hkey).1
        simp only [decide_eq_true_eq]
        omega
    rw [hkeys]
    cases n with
    | zero => exact ⟨stop, hrange⟩
    | succ n =>
        rw [List.take_succ_cons, List.map_nil, List.take_nil]
        rcases hcond with hempty | heq
        · refine ⟨0, fun i => iff_of_false (hempty i) (by omega)⟩
        · refine ⟨stop, fun i => ?_⟩
          change i ∈ m.log ↔ logId.index + 1 ≤ i ∧ i < stop
          rw [heq]
          exact hrange i

/-- **The calls that are safe at every crash point**, and that leave the memory as it would be loaded. -/
theorem orderly_iff (h : m.Contiguous) (call : LogCall Payload Vote) :
    m.AllContiguous call ∧ (call.effect m).2.foldl (fun m tx => tx.onMemory m) m = (call.effect m).1 ↔
      m.Orderly call := by
  rw [effect_eq_foldl_iff]
  -- transactions on other tables leave the log alone
  have hother : ∀ txs : List (LogTx Payload Vote), (∀ tx ∈ txs, ∀ m : LogMemory Payload Vote, m.Contiguous →
      (tx.onMemory m).Contiguous) → ∀ n, ((txs.take n).foldl (fun m tx => tx.onMemory m) m).Contiguous := by
    intro txs htxs n
    refine List.foldlRecOn _ _ h fun m hm tx htx => htxs tx (List.mem_of_mem_take htx) m hm
  cases call with
  | saveVote vote =>
      refine iff_of_true ⟨hother _ fun tx htx m hm => ?_, nofun⟩ trivial
      obtain rfl := List.mem_singleton.mp htx
      exact hm
  | saveCommitted committed =>
      have hall : m.AllContiguous (.saveCommitted committed) := by
        refine hother _ fun tx htx m hm => ?_
        obtain ⟨_, -, rfl⟩ := List.mem_map.mp htx
        exact hm
      rw [and_iff_right hall, LogCall.saveCommitted.injEq]
      exact Iff.rfl
  | append entries =>
      rw [and_iff_left (fun heq => nomatch heq)]
      obtain ⟨stop, hrange⟩ := h
      rw [Orderly, ← isRange_append_iff hrange.nextAfter (nextAfter_spec _ _).1]
      refine forall_congr' fun n => ?_
      change (((entries.map fun entry => LogTx.setLog entry.logId.index entry).take n).foldl _ m).Contiguous ↔ _
      rw [← List.map_take, foldl_setLog]
      rfl
  | truncateAfter lastLogId =>
      rw [and_iff_left (fun heq => nomatch heq)]
      cases lastLogId with
      | none => exact contiguous_truncate_iff h 0
      | some logId => exact contiguous_truncate_iff h ((logId.index + 1) % 2 ^ 64)
  | purge logId =>
      rw [and_iff_left (fun heq => nomatch heq)]
      exact contiguous_purge_iff h logId

end LogMemory

/-! ### Runs of calls -/

namespace RedbLogStore

/-- A store on an orderly database, with what is loaded from it in memory. -/
structure Settled (s : RedbLogStore Payload Vote) : Prop where
  rendered : KeysRendered s.db.log
  reopens : new s.db = s
  contiguous : s.memory.Contiguous

/-- Wherever the process stops during a call, the indices on disk form one range after the last purged
index; and after the call, a store that is opened again is the same. -/
def SurvivesCrash (s : RedbLogStore Payload Vote) (call : LogCall Payload Vote) : Prop :=
  (∀ n, (s.stoppedAfter call n).load.Contiguous) ∧ new (s.step call).2.db = (s.step call).2

variable {s t : RedbLogStore Payload Vote}

theorem new_eq_iff : new s.db = s ↔ s.db.load = s.memory := by
  constructor
  · intro heq
    exact congrArg memory heq
  · intro heq
    exact congrArg (RedbLogStore.mk s.db) heq

theorem Settled.survivesCrash_iff (h : s.Settled) (call : LogCall Payload Vote) :
    s.SurvivesCrash call ↔ s.memory.Orderly call := by
  have hload := new_eq_iff.mp h.reopens
  have hbounded : ∀ tx ∈ (call.effect s.memory).2, tx.Bounded := fun tx => bounded_of_mem_effect
  rw [← LogMemory.orderly_iff h.contiguous, SurvivesCrash]
  refine and_congr (forall_congr' fun n => ?_) ?_
  · rw [stoppedAfter, (load_foldl h.rendered fun tx htx => hbounded tx (List.mem_of_mem_take htx)).2, hload]
  · rw [new_eq_iff, step, (load_foldl h.rendered hbounded).2, hload]

theorem Settled.step (h : s.Settled) {call : LogCall Payload Vote} (hcall : s.memory.Orderly call) :
    (s.step call).2.Settled := by
  have hload := new_eq_iff.mp h.reopens
  have hbounded : ∀ tx ∈ (call.effect s.memory).2, tx.Bounded := fun tx => bounded_of_mem_effect
  obtain ⟨hall, heffect⟩ := (LogMemory.orderly_iff h.contiguous call).mpr hcall
  have hcontiguous := hall (call.effect s.memory).2.length
  rw [List.take_length, heffect] at hcontiguous
  exact ⟨(load_foldl h.rendered hbounded).1, ((h.survivesCrash_iff call).mpr hcall).2, hcontiguous⟩

/-- **The log survives every crash of a run** just in case each call is orderly when it is made. -/
theorem survivesCrash_iff_orderly {es : List (Exec (RedbLogStore Payload Vote) (LogCall Payload Vote) Unit)}
    (hrun : Run RedbLogStore.step s es t) (hsettled : s.Settled) :
    (∀ e ∈ es, e.before.SurvivesCrash e.action) ↔ ∀ e ∈ es, e.before.memory.Orderly e.action :=
  hrun.forall_iff_within (I := Settled) (D := fun _ => True) (Q := fun e => e.before.SurvivesCrash e.action)
    (C := fun e => e.before.memory.Orderly e.action) hsettled (fun _ _ => trivial)
    (fun _ call h _ => h.survivesCrash_iff call) fun _ _ h _ hcall => h.step hcall

def onEmpty : RedbLogStore Payload Vote := new ⟨∅, none, none, none⟩

theorem settled_onEmpty : (onEmpty : RedbLogStore Payload Vote).Settled where
  rendered key entry hget := nomatch (Std.ExtTreeMap.getElem?_empty (α := String)).symm.trans hget
  reopens := rfl
  contiguous := ⟨0, fun i => iff_of_false Std.ExtTreeMap.not_mem_empty (by omega)⟩

def entryAt (index : Fin (2 ^ 64)) : LogEntry Unit := ⟨⟨"1-1", index⟩, (), index.isLt⟩

theorem orderly_three_entries :
    (onEmpty : RedbLogStore Unit Unit).memory.Orderly (.append [entryAt 0, entryAt 1, entryAt 2]) :=
  ⟨Nat.zero_le _, by decide +kernel, Nat.zero_le _, by decide +kernel, Nat.zero_le _, by decide +kernel, trivial⟩

def threeAppended : RedbLogStore Unit Unit := reached step [.append [entryAt 0, entryAt 1, entryAt 2]] onEmpty

theorem survivesCrash_three_appended :
    (onEmpty : RedbLogStore Unit Unit).Settled ∧
      ∀ e ∈ trace step [.append [entryAt 0, entryAt 1, entryAt 2]] (onEmpty : RedbLogStore Unit Unit),
        e.before.SurvivesCrash e.action := by
  refine ⟨settled_onEmpty, ?_⟩
  refine (survivesCrash_iff_orderly (run_trace _ _) settled_onEmpty).mpr fun e he => ?_
  obtain rfl := List.mem_singleton.mp he
  exact orderly_three_entries

/-- A process that stops while it truncates the log to its first entry leaves a gap. -/
theorem truncateAfter_leaves_gap :
    threeAppended.Settled ∧ ¬threeAppended.SurvivesCrash (.truncateAfter (some ⟨"1-1", 0⟩)) := by
  refine ⟨settled_onEmpty.step orderly_three_entries, fun ⟨hcontiguous, _⟩ => ?_⟩
  obtain ⟨stop, hrange⟩ := hcontiguous 1
  have hlast : 2 ∈ (threeAppended.stoppedAfter (.truncateAfter (some ⟨"1-1", 0⟩)) 1).load.log := by decide +kernel
  have hgone : 1 ∉ (threeAppended.stoppedAfter (.truncateAfter (some ⟨"1-1", 0⟩)) 1).load.log := by decide +kernel
  have hstop := ((hrange 2).mp hlast).2
  exact hgone ((hrange 1).mpr ⟨Nat.zero_le _, by omega⟩)

end RedbLogStore

end Syfrah
