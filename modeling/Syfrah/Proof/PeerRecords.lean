import Syfrah.Fabric.PeerTasks
import Syfrah.Lib.Slots
import Syfrah.Lib.TreeMap

/-!
# Records of peers and the tasks that carry them

Every task writes records that it has read before, with another endpoint, status or time, or the record
that it was started with. So what holds of all records that are stored and of all that tasks carry stays
so, if it survives such changes and holds of the records that come from outside.
-/

namespace Syfrah

namespace Mesh

variable {Key Digest : Type}

structure PeerRecord.Follows (r' r : PeerRecord) : Prop where
  name : r'.name = r.name
  wgPublicKey : r'.wgPublicKey = r.wgPublicKey
  meshIpv6 : r'.meshIpv6 = r.meshIpv6
  removed : r.status = .removed → r'.status = .removed

theorem evaluatePeerHealth_follows (handshake : Option ℕ) (now timeout : ℕ) (peer : PeerRecord) :
    (evaluatePeerHealth handshake now timeout peer).Follows peer := by
  unfold evaluatePeerHealth
  extract_lets seen recovered
  have hseen : seen.Follows peer ∧ seen.status = peer.status := by
    simp only [seen]
    split
    · split
      · exact ⟨⟨rfl, rfl, rfl, id⟩, rfl⟩
      · exact ⟨⟨rfl, rfl, rfl, id⟩, rfl⟩
    · exact ⟨⟨rfl, rfl, rfl, id⟩, rfl⟩
  have hrecovered : recovered.Follows peer := by
    obtain ⟨hname, hkey, hip, hremoved⟩ := hseen.1
    simp only [recovered]
    split
    · next hunreachable =>
      refine ⟨hname, hkey, hip, fun h => ?_⟩
      rw [← hseen.2, hunreachable.1] at h
      cases h
    · exact hseen.1
  obtain ⟨hname, hkey, hip, hremoved⟩ := hrecovered
  split
  · next hactive =>
    refine ⟨hname, hkey, hip, fun h => ?_⟩
    rw [hremoved h] at hactive
    cases hactive.1
  · exact ⟨hname, hkey, hip, hremoved⟩

namespace Peers

variable {t : Peers}

theorem mem_toList {e : String × PeerRecord} : e ∈ t.toList ↔ t[e.1]? = some e.2 :=
  Std.ExtTreeMap.mem_toList_iff_getElem?_eq_some

theorem mem_getPeers {r : PeerRecord} : r ∈ t.getPeers ↔ ∃ k : String, t[k]? = some r := by
  simp only [getPeers, List.mem_map, mem_toList, Prod.exists]
  exact ⟨fun ⟨k, _, h, heq⟩ => ⟨k, heq ▸ h⟩, fun ⟨k, h⟩ => ⟨k, r, h, rfl⟩⟩

theorem of_find {x : String} {e : String × PeerRecord} (h : t.find x = some e) :
    t[e.1]? = some e.2 ∧ e.2.isCalled x = true := by
  have hcalled := List.find?_some h
  exact ⟨mem_toList.mp (List.mem_of_find?_eq_some h), hcalled⟩

theorem of_removePeer {x : String} {e : String × PeerRecord} (h : t.removePeer x = some e) :
    ∃ r, t[e.1]? = some r ∧ r.isCalled x = true ∧ e.2 = { r with status := .removed } := by
  obtain ⟨e', hfind, rfl⟩ := Option.map_eq_some_iff.mp h
  exact ⟨e'.2, (of_find hfind).1, (of_find hfind).2, rfl⟩

theorem of_updatePeerEndpoint {x : String} {endpoint : SocketAddr} {e : String × PeerRecord}
    (h : t.updatePeerEndpoint x endpoint = some e) :
    ∃ r, t[e.1]? = some r ∧ e.2 = { r with endpoint := endpoint } := by
  obtain ⟨e', hfind, rfl⟩ := Option.map_eq_some_iff.mp h
  exact ⟨e'.2, (of_find hfind).1, rfl⟩

theorem of_mem_purgeStalePeersByName {name key : String} {e : String × PeerRecord}
    (h : e ∈ t.purgeStalePeersByName name key) :
    ∃ r, t[e.1]? = some r ∧ e.2 = { r with status := .removed } := by
  obtain ⟨e', he', rfl⟩ := List.mem_map.mp h
  exact ⟨e'.2, mem_toList.mp (List.mem_of_mem_filter he'), rfl⟩

end Peers

def Task.records : Task → List PeerRecord
  | .listStale record => [record]
  | .purge record writes => record :: writes.map Prod.snd
  | .count record => [record]
  | .configure record _ _ => [record]
  | .checkLimit record => [record]
  | .store record => [record]
  | .writeBack peers => peers
  | .setEndpoint _ peer => [peer]
  | .reconfigure peer => [peer]
  | .markRemoved _ _ peer => [peer]
  | .sync _ _ => []
  | .announceRemoval _ _ => []
  | .collect _ => []
  | .finished => []

section Holds

variable (P : PeerRecord → Prop)

def Lasting : Prop := ∀ r r' : PeerRecord, r'.Follows r → P r → P r'

def Peers.All (t : Peers) : Prop := ∀ (k : String) r, t[k]? = some r → P r

def Task.All (task : Task) : Prop := ∀ r ∈ task.records, P r

variable {P}

theorem Peers.All.insert {t : Peers} (h : t.All P) {k : String} {r : PeerRecord} (hr : P r) :
    Peers.All P (t.insert k r) := by
  intro k' r' h'
  rcases Std.ExtTreeMap.of_getElem?_insert h' with ⟨-, rfl⟩ | ⟨-, hold⟩
  · exact hr
  · exact h k' r' hold

theorem Peers.All.erase {t : Peers} (h : t.All P) {k : String} : Peers.All P (t.erase k) :=
  fun k' r' h' => h k' r' (Std.ExtTreeMap.of_getElem?_erase h').2

theorem Peers.All.getPeers {t : Peers} (h : t.All P) {r : PeerRecord} (hr : r ∈ t.getPeers) : P r := by
  obtain ⟨k, hk⟩ := Peers.mem_getPeers.mp hr
  exact h k r hk

theorem tasks_advance (config : NodeConfig) (s : PeerNode) (now : ℕ) (targets : List String)
    (task : Task) : (s.advance config now targets task).1.tasks = s.tasks := by
  unfold PeerNode.advance
  split <;> rfl

/-- **One transaction**: what holds of the stored records and of those that the task carries holds
of both afterwards. -/
theorem all_advance (hP : Lasting P) (config : NodeConfig) {s : PeerNode} (now : ℕ)
    (targets : List String) {task : Task} (hs : s.peers.All P) (ht : task.All P) :
    (s.advance config now targets task).1.peers.All P ∧
      (s.advance config now targets task).2.All P := by
  unfold PeerNode.advance
  split
  · next record =>
    refine ⟨hs, List.forall_mem_cons.mpr ⟨ht record List.mem_cons_self, fun r hr => ?_⟩⟩
    obtain ⟨e, he, rfl⟩ := List.mem_map.mp hr
    obtain ⟨r, hr, heq⟩ := Peers.of_mem_purgeStalePeersByName he
    rw [heq]
    exact hP r _ ⟨rfl, rfl, rfl, fun _ => rfl⟩ (hs e.1 r hr)
  · next record key peer writes =>
    obtain ⟨hrecord, hrest⟩ := List.forall_mem_cons.mp ht
    obtain ⟨hpeer, hwrites⟩ := List.forall_mem_cons.mp hrest
    exact ⟨hs.insert hpeer, List.forall_mem_cons.mpr ⟨hrecord, hwrites⟩⟩
  · next record =>
    refine ⟨hs, ?_⟩
    dsimp only
    split
    · exact nofun
    · exact ht
  · exact ⟨hs, ht⟩
  · exact ⟨hs, ht⟩
  · next record =>
    refine ⟨hs, ?_⟩
    dsimp only
    split
    · exact nofun
    · exact ht
  · next record => exact ⟨hs.insert (ht record List.mem_cons_self), nofun⟩
  · exact ⟨hs, nofun⟩
  · next peer peers =>
    obtain ⟨hpeer, hpeers⟩ := List.forall_mem_cons.mp ht
    exact ⟨hs.insert hpeer, hpeers⟩
  · next key peer => exact ⟨hs.insert (ht peer List.mem_cons_self), ht⟩
  · exact ⟨hs, nofun⟩
  · next nameOrKey key peer => exact ⟨hs.insert (ht peer List.mem_cons_self), nofun⟩
  · exact ⟨hs, nofun⟩
  · exact ⟨hs, nofun⟩
  · exact ⟨hs, nofun⟩
  · exact ⟨hs.erase, nofun⟩
  · exact ⟨hs, nofun⟩

/-- The record that an action brings in from outside. -/
def PeerNode.incoming (config : NodeConfig) (s : PeerNode) : PeerAct Key Digest → Option PeerRecord
  | .pinAccept req peer now => (admitJoin req peer).bind fun req => s.pinRecord config req now
  | .manualAccept req peer now => (admitJoin req peer).bind fun req => s.operatorRecord config req now
  | .announce record now => admitAnnounce config.myRecord.endpoint now record
  | _ => none

variable (P) in
structure PeerNode.All (s : PeerNode) : Prop where
  stored : s.peers.All P
  carried : ∀ task ∈ s.tasks, task.All P

theorem PeerNode.All.spawn {s : PeerNode} (h : s.All P) {task : Task} (ht : task.All P) :
    (s.spawn task).All P :=
  ⟨h.stored, List.forall_mem_append.mpr ⟨h.carried, List.forall_mem_singleton.mpr ht⟩⟩

theorem PeerNode.All.onAccepted {s : PeerNode} (h : s.All P) {record : PeerRecord} (hr : P record) :
    (s.onAccepted record).All P := by
  have htask : (Task.listStale record).All P := List.forall_mem_singleton.mpr hr
  obtain ⟨hstored, hcarried⟩ := h.spawn htask
  exact ⟨hstored, hcarried⟩

theorem PeerNode.All.advance (hP : Lasting P) (config : NodeConfig) {s : PeerNode} (h : s.All P)
    (now : ℕ) (targets : List String) {i : ℕ} {task : Task} (hi : s.tasks[i]? = some task) :
    ((s.advance config now targets task).1.setTask i (s.advance config now targets task).2).All P := by
  obtain ⟨hstored, hleft⟩ := all_advance hP config now targets h.stored
    (h.carried task (List.mem_of_getElem? hi))
  refine ⟨hstored, fun other hother => ?_⟩
  rcases List.mem_or_eq_of_mem_set hother with hold | rfl
  · rw [tasks_advance] at hold
    exact h.carried other hold
  · exact hleft

/-- **One step**: a lasting property of the records of a node stays if it holds of what comes in. -/
theorem PeerNode.All.step (hP : Lasting P) {config : NodeConfig} {s : PeerNode} (h : s.All P)
    {act : PeerAct Key Digest} (hincoming : ∀ r, s.incoming config act = some r → P r) :
    (PeerNode.step config act s).2.All P := by
  cases act with
  | pinAccept req peer now =>
      simp only [PeerNode.step]
      split
      · next record hrecord =>
        exact h.onAccepted (hincoming record hrecord)
      · exact h
  | manualAccept req peer now =>
      simp only [PeerNode.step]
      split
      · next record hrecord =>
        exact h.onAccepted (hincoming record hrecord)
      · exact h
  | announce record now =>
      simp only [PeerNode.step]
      split
      · next record' hrecord =>
        exact h.spawn (List.forall_mem_singleton.mpr (hincoming record' hrecord))
      · exact h
  | healthCheck handshake now timeout =>
      simp only [PeerNode.step]
      split
      · exact h
      · refine h.spawn fun r hr => ?_
        obtain ⟨peer, hpeer, rfl⟩ := List.mem_map.mp hr
        exact hP peer _ (evaluatePeerHealth_follows _ _ _ _) (h.stored.getPeers hpeer)
  | updatePeerEndpoint nameOrKey endpoint =>
      simp only [PeerNode.step]
      split
      · next key peer hfound =>
        obtain ⟨r, hr, heq⟩ := Peers.of_updatePeerEndpoint hfound
        obtain rfl : peer = _ := heq
        exact h.spawn (List.forall_mem_singleton.mpr
          (hP r _ ⟨rfl, rfl, rfl, id⟩ (h.stored key r hr)))
      · exact h
  | removePeer nameOrKey =>
      simp only [PeerNode.step]
      split
      · exact h
      · split
        · next key peer hfound =>
          obtain ⟨r, hr, -, heq⟩ := Peers.of_removePeer hfound
          obtain rfl : peer = _ := heq
          exact h.spawn (List.forall_mem_singleton.mpr
            (hP r _ ⟨rfl, rfl, rfl, fun _ => rfl⟩ (h.stored key r hr)))
        · exact h
  | gcRemovedPeers thresholdSecs now => exact h.spawn nofun
  | advance i now targets =>
      simp only [PeerNode.step]
      split
      · next task hi => exact h.advance hP config now targets hi
      · exact h
  | elsewhere key node => exact ⟨h.stored, h.carried⟩

end Holds

end Mesh

end Syfrah
