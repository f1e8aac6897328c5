import Syfrah.Fabric.PeerIndex
import Syfrah.Lib.Run
import Syfrah.Lib.TreeMap

/-!
# The index of the peers against the table

Collecting removed peers deletes them from the table only, so that an index made before still has them.
And if the file cannot be opened twice, an index made by a function that writes holds just what that
function wrote.
-/

namespace Std.ExtTreeMap

variable {κ α : Type} [Ord κ] [TransOrd κ] [LawfulEqOrd κ] [DecidableEq κ]

theorem getElem?_insertMany_of_notMem {entries : List (κ × α)} {t : ExtTreeMap κ α} {k : κ}
    (h : k ∉ entries.map Prod.fst) : (t.insertMany entries)[k]? = t[k]? := by
  refine getElem?_insertMany_list_of_contains_eq_false ?_
  simpa using h

/-- What is written over does not matter. -/
theorem insertMany_eq_iff {entries : List (κ × α)} {t t' : ExtTreeMap κ α} :
    t.insertMany entries = t'.insertMany entries ↔ ∀ k, t[k]? ≠ t'[k]? → k ∈ entries.map Prod.fst := by
  constructor
  · intro heq k hne
    by_contra hk
    have hk' := congrArg (fun t => t[k]?) heq
    simp only [getElem?_insertMany_of_notMem hk] at hk'
    exact hne hk'
  · intro h
    induction entries generalizing t t' with
    | nil =>
        refine ext_getElem? fun k => ?_
        by_contra hne
        simpa using h k (by simpa using hne)
    | cons entry entries ih =>
        rw [insertMany_cons, insertMany_cons]
        refine ih fun k hne => ?_
        rw [getElem?_insert, getElem?_insert] at hne
        split at hne
        · exact absurd rfl hne
        · rename_i hother
          rcases List.mem_cons.mp (h k hne) with rfl | hk
          · exact absurd ReflCmp.compare_self hother
          · exact hk

end Std.ExtTreeMap

namespace Syfrah

namespace Mesh

namespace IndexedPeers

open Std.ExtTreeMap

variable {reopens : Bool} {s : IndexedPeers} {entries : List (String × PeerRecord)}

/-- A lookup returns what is stored. -/
def Mirrors (s : IndexedPeers) : Prop := ∀ key, s.peerByKey key = s.stored[key]?

theorem mirrors_of_index_eq_none (h : s.index = none) : s.Mirrors := by
  intro key
  rw [peerByKey, ensurePeerIndex, h]
  rfl

theorem mirrors_iff {index : Peers} (h : s.index = some index) : s.Mirrors ↔ index = s.stored := by
  simp only [Mirrors, peerByKey, ensurePeerIndex, h, Option.getD_some]
  exact ⟨fun heq => Std.ExtTreeMap.ext_getElem? (heq ·), fun heq key => by rw [heq]⟩

theorem setPeers_of_index {index : Peers} (h : s.index = some index) (entries : List (String × PeerRecord)) :
    (entries.foldl (setPeer reopens) s).index = some (index.insertMany entries) ∧
      (entries.foldl (setPeer reopens) s).stored = s.stored.insertMany entries := by
  induction entries generalizing s index with
  | nil => exact ⟨by simpa using h, by simp⟩
  | cons entry entries ih =>
      have hnext : (s.setPeer reopens entry).index = some (index.insert entry.1 entry.2) := by
        simp [setPeer, ensurePeerIndex, h]
      rw [List.foldl_cons, insertMany_cons, insertMany_cons]
      exact ih hnext

/-- An index that a writer makes starts from the table with its first write, or from nothing. -/
theorem setPeers_of_none (h : s.index = none) (hne : entries ≠ []) :
    (entries.foldl (setPeer reopens) s).index =
        some ((if reopens then s.stored else ∅).insertMany entries) ∧
      (entries.foldl (setPeer reopens) s).stored = s.stored.insertMany entries := by
  obtain ⟨entry, entries, rfl⟩ := List.exists_cons_of_ne_nil hne
  have hnext : (s.setPeer reopens entry).index =
      some ((if reopens then s.stored else ∅).insert entry.1 entry.2) := by
    simp only [setPeer, ensurePeerIndex, h, Option.getD_none, stored, Option.getD_some, Option.some.injEq]
    split
    · refine Std.ExtTreeMap.ext_getElem? fun key => ?_
      rw [getElem?_insert, getElem?_insert]
      split <;> rfl
    · rfl
  rw [List.foldl_cons, insertMany_cons, insertMany_cons]
  exact setPeers_of_index hnext entries

/-- What a call writes over the table. -/
def Call.writes (s : IndexedPeers) : Call → List (String × PeerRecord)
  | .upsertPeer peer => [(peer.wgPublicKey, peer)]
  | .upsertPeerBounded peer maxPeers => if s.stored.refuses peer maxPeers then [] else [(peer.wgPublicKey, peer)]
  | .purgeStalePeersByName name exceptWgKey => s.stored.purgeStalePeersByName name exceptWgKey
  | .removePeer nameOrKey => (s.stored.removePeer nameOrKey).toList
  | .updatePeerEndpoint nameOrKey endpoint => (s.stored.updatePeerEndpoint nameOrKey endpoint).toList
  | _ => []

/-- What it deletes one by one. -/
def Call.deletes (s : IndexedPeers) : Call → List String
  | .gcRemovedPeers thresholdSecs now => s.stored.gcRemovedPeers thresholdSecs now
  | _ => []

/-- Nothing is deleted under an index; and if the file cannot be opened twice, a call that writes without
an index writes everything that is stored. -/
def Keeps (reopens : Bool) (s : IndexedPeers) (call : Call) : Prop :=
  (s.index.isSome → call.deletes s = []) ∧
    (s.index = none → reopens = false → call.writes s ≠ [] → ∀ key ∈ s.stored, key ∈ (call.writes s).map Prod.fst)

theorem mirrors_setPeers_iff (h : s.Mirrors) (entries : List (String × PeerRecord)) :
    (entries.foldl (setPeer reopens) s).Mirrors ↔
      (s.index = none → reopens = false → entries ≠ [] → ∀ key ∈ s.stored, key ∈ entries.map Prod.fst) := by
  cases hindex : s.index with
  | some index =>
      obtain ⟨hpatched, hstored⟩ := @setPeers_of_index reopens s index hindex entries
      rw [mirrors_iff hpatched, hstored, (mirrors_iff hindex).mp h]
      exact iff_of_true rfl nofun
  | none =>
      by_cases hne : entries = []
      · subst hne
        exact iff_of_true h fun _ _ hne => absurd rfl hne
      · obtain ⟨hmade, hstored⟩ := @setPeers_of_none reopens s entries hindex hne
        rw [mirrors_iff hmade, hstored]
        cases reopens with
        | true => exact iff_of_true rfl nofun
        | false =>
            rw [if_neg Bool.false_ne_true, insertMany_eq_iff]
            simp only [hne, ne_eq, not_false_eq_true, true_imp_iff, getElem?_empty]
            refine forall_congr' fun key => ?_
            rw [← Std.ExtTreeMap.isSome_getElem?_iff_mem, Option.isSome_iff_ne_none]
            exact imp_congr_left ne_comm

/-- Without a file there is nothing to read, and nothing is written. -/
theorem foldl_writes_of_table {writes : Peers → List (String × PeerRecord)} (hempty : writes ∅ = []) :
    (match s.table with
      | none => s
      | some t => (writes t).foldl (setPeer reopens) s) = (writes s.stored).foldl (setPeer reopens) s := by
  rw [stored]
  cases s.table with
  | none => rw [Option.getD_none, hempty]; rfl
  | some t => rfl

theorem elim_setPeer (entry : Option (String × PeerRecord)) :
    entry.elim s (s.setPeer reopens) = entry.toList.foldl (setPeer reopens) s := by
  cases entry <;> rfl

theorem find_empty (nameOrKey : String) : Peers.find ∅ nameOrKey = none := by simp [Peers.find]

theorem mem_of_mem_gcRemovedPeers {t : Peers} {thresholdSecs now : ℕ} {key : String}
    (h : key ∈ t.gcRemovedPeers thresholdSecs now) : key ∈ t := by
  rw [Peers.gcRemovedPeers] at h
  split at h
  · cases h
  · obtain ⟨entry, hentry, rfl⟩ := List.mem_map.mp h
    have hstored := Std.ExtTreeMap.mem_toList_iff_getElem?_eq_some.mp (List.mem_of_mem_filter hentry)
    exact Std.ExtTreeMap.isSome_getElem?_iff_mem.mp (Option.isSome_of_eq_some hstored)

/-- Deleting peers is seen through the index if there is one. -/
theorem mirrors_gcRemovedPeers_iff (h : s.Mirrors) (thresholdSecs now : ℕ) :
    (s.gcRemovedPeers thresholdSecs now).Mirrors ↔
      (s.index.isSome → s.stored.gcRemovedPeers thresholdSecs now = []) := by
  cases hindex : s.index with
  | none =>
      refine iff_of_true (mirrors_of_index_eq_none ?_) nofun
      rw [gcRemovedPeers]
      split <;> exact hindex
  | some index =>
      have hcopy := (mirrors_iff hindex).mp h
      have hkept : (s.gcRemovedPeers thresholdSecs now).index = some index := by
        rw [gcRemovedPeers]
        split <;> exact hindex
      have hstored : (s.gcRemovedPeers thresholdSecs now).stored =
          (s.stored.gcRemovedPeers thresholdSecs now).foldl (fun t key => t.erase key) s.stored := by
        rw [gcRemovedPeers]
        split
        · rename_i hnone
          have hgc : Peers.gcRemovedPeers ∅ thresholdSecs now = [] := by simp [Peers.gcRemovedPeers]
          rw [stored, hnone, Option.getD_none, hgc]
          rfl
        · simp [stored, *]
      rw [mirrors_iff hkept, hcopy, hstored]
      simp only [Option.isSome_some, true_imp_iff]
      constructor
      · intro heq
        by_contra hne
        obtain ⟨key, hkey⟩ := List.exists_mem_of_ne_nil _ hne
        have hgone := getElem?_foldl_erase (s.stored.gcRemovedPeers thresholdSecs now) s.stored key
        rw [← heq, if_pos hkey] at hgone
        have hmem := mem_of_mem_gcRemovedPeers hkey
        rw [← Std.ExtTreeMap.isSome_getElem?_iff_mem, hgone] at hmem
        cases hmem
      · intro hnil
        rw [hnil]
        rfl

theorem mirrors_writes_iff (h : s.Mirrors) {call : Call} (hdeletes : call.deletes s = [])
    (hstep : (step reopens call s).2 = (call.writes s).foldl (setPeer reopens) s) :
    (step reopens call s).2.Mirrors ↔ s.Keeps reopens call := by
  rw [hstep, mirrors_setPeers_iff h, Keeps, hdeletes]
  simp only [implies_true, true_and]

/-- **One call keeps the index a mirror** exactly if it meets the condition. -/
theorem mirrors_step_iff (h : s.Mirrors) (call : Call) :
    (step reopens call s).2.Mirrors ↔ s.Keeps reopens call := by
  cases call with
  | save peers => exact iff_of_true (mirrors_of_index_eq_none rfl) ⟨fun _ => rfl, fun _ _ hne => absurd rfl hne⟩
  | clear => exact iff_of_true (mirrors_of_index_eq_none rfl) ⟨fun _ => rfl, fun _ _ hne => absurd rfl hne⟩
  | peerByKey wgPublicKey =>
      refine iff_of_true ((mirrors_iff rfl).mpr ?_) ⟨fun _ => rfl, fun _ _ hne => absurd rfl hne⟩
      exact Std.ExtTreeMap.ext_getElem? (h ·)
  | gcRemovedPeers thresholdSecs now =>
      have hkeeps : s.Keeps reopens (.gcRemovedPeers thresholdSecs now) ↔
          (s.index.isSome → s.stored.gcRemovedPeers thresholdSecs now = []) :=
        and_iff_left fun _ _ hne => absurd rfl hne
      rw [hkeeps]
      exact mirrors_gcRemovedPeers_iff h thresholdSecs now
  | upsertPeer peer => exact mirrors_writes_iff h rfl rfl
  | upsertPeerBounded peer maxPeers =>
      cases hfull : s.stored.refuses peer maxPeers with
      | true =>
          have hstep : (step reopens (.upsertPeerBounded peer maxPeers) s).2 = { s with table := some s.stored } := by
            simp only [step, upsertPeerBounded, hfull, if_true]
          rw [hstep]
          refine iff_of_true h ⟨fun _ => rfl, fun _ _ hne => absurd ?_ hne⟩
          simp only [Call.writes, hfull, if_true]
      | false =>
          refine mirrors_writes_iff h rfl ?_
          simp only [step, upsertPeerBounded, Call.writes, hfull]
          rfl
  | purgeStalePeersByName name exceptWgKey =>
      refine mirrors_writes_iff h rfl ?_
      exact foldl_writes_of_table (by simp [Peers.purgeStalePeersByName])
  | removePeer nameOrKey =>
      refine mirrors_writes_iff h rfl ?_
      simp only [step, removePeer, elim_setPeer]
      exact foldl_writes_of_table (by simp [Peers.removePeer, find_empty])
  | updatePeerEndpoint nameOrKey endpoint =>
      refine mirrors_writes_iff h rfl ?_
      simp only [step, updatePeerEndpoint, elim_setPeer]
      exact foldl_writes_of_table (by simp [Peers.updatePeerEndpoint, find_empty])

/-- **The index mirrors the table** throughout a process exactly if every call meets the condition. -/
theorem peer_index_mirrors_iff (reopens : Bool) (table : Option Peers) (calls : List Call) :
    (∀ e ∈ trace (step reopens) calls ⟨table, none⟩, e.after.Mirrors) ↔
      ∀ e ∈ trace (step reopens) calls ⟨table, none⟩, e.before.Keeps reopens e.action := by
  refine (run_trace calls _).forall_after_iff (C := Keeps reopens) (mirrors_of_index_eq_none rfl) ?_
  exact fun s call h => mirrors_step_iff h call

/-- A peer that was removed long ago. -/
def removedPeer (name : String) : PeerRecord :=
  { name, wgPublicKey := name, endpoint := ⟨"10.0.0.1", 51820, by decide⟩, meshIpv6 := 0, lastSeen := 0
    status := .removed, region := none, zone := none }

/-- **Two ways to lose the mirror**: the index keeps a peer that was collected; and where the file cannot
be opened twice, the index made by an update lacks the peers that were there. -/
theorem collected_peer_found :
    ¬ (reached (step true) [.upsertPeer (removedPeer "a"), .gcRemovedPeers 1 10] ⟨none, none⟩).Mirrors ∧
      ¬ (reached (step false) [.upsertPeer (removedPeer "b")]
        ⟨some {("a", removedPeer "a")}, none⟩).Mirrors := by
  refine ⟨fun h => ?_, fun h => ?_⟩
  · exact absurd (h "a") (by decide +kernel)
  · exact absurd (h "a") (by decide +kernel)

end IndexedPeers

end Mesh

end Syfrah
