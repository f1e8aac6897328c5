import Syfrah.Lib.Run
import Syfrah.Proof.PeerRecords

/-!
# Removed peers

A removal marks one record and is announced. It lasts as long as no record of the peer with another
status is stored, carried by a task or announced; and since every node refuses announces of removed
peers, the announcement changes nothing where the peer is not marked already.
-/

namespace Syfrah

namespace Mesh

variable {Key Digest : Type}

/-! ### The property -/

/-- Peers whose removal was reported are stored as removed only, and so they are where the removal was
announced. -/
structure PeerNode.RemovalsHold (s : PeerNode) : Prop where
  stay : ∀ x ∈ s.reported, ∀ (k : String) r, s.peers[k]? = some r → r.isCalled x = true →
    r.status = .removed
  delivered : ∀ status ∈ s.delivered, status = some .removed

/-! ### The condition -/

/-- The name or key of a removal that is done and not yet reported. -/
def Task.reporting : Task → Option String
  | .sync nameOrKey _ => some nameOrKey
  | .announceRemoval nameOrKey _ => some nameOrKey
  | _ => none

/-- A record has a name or key with another status than removed. -/
def PeerRecord.lives (r : PeerRecord) (x : String) : Bool := r.isCalled x && r.status != .removed

/-- A removal is done when no other record of the peer is alive, stored or carried by a task; it is
announced only to nodes that have marked the peer; no announce of a removed peer is admitted; and no
join of the peer is accepted before its removal is reported. -/
def PeerAct.settled (config : NodeConfig) (s : PeerNode) : PeerAct Key Digest → Bool
  | .announce record now => (admitAnnounce config.myRecord.endpoint now record).all fun r =>
      s.removed.all fun x => !r.isCalled x
  | .pinAccept req peer now => (s.incoming config (.pinAccept req peer now)).all fun r =>
      s.tasks.all fun task => task.reporting.all fun x => !r.isCalled x
  | .manualAccept req peer now => (s.incoming config (.manualAccept req peer now)).all fun r =>
      s.tasks.all fun task => task.reporting.all fun x => !r.isCalled x
  | .advance i _ targets =>
    match s.tasks[i]? with
    | some (.markRemoved nameOrKey key _) =>
      (s.peers.toList.all fun e => e.1 == key || !e.2.lives nameOrKey) &&
        s.tasks.all fun task => task.records.all fun r => !r.lives nameOrKey
    | some (.announceRemoval _ peer) => (s.targetsOf peer targets).all fun key =>
        (s.others key).peers[peer.wgPublicKey]?.map PeerRecord.status == some .removed
    | _ => true
  | _ => true

/-! ### Announces of removed peers -/

theorem admitAnnounce_removed {endpoint : SocketAddr} {now : ℕ} {record : PeerRecord}
    (h : record.status = .removed) : admitAnnounce endpoint now record = none := by
  unfold admitAnnounce receiveAnnounce
  cases validatePeerRecord record with
  | error e => rfl
  | ok _ =>
      rw [if_pos h]
      by_cases hstale : maxAnnounceAgeSecs < now - record.lastSeen
      · rw [if_pos hstale]
      · rw [if_neg hstale]

/-- **Announced removals**: no node changes anything on the announce of a removed peer. -/
theorem OtherNode.handleAnnounce_removed (n : OtherNode) (now : ℕ) {record : PeerRecord}
    (h : record.status = .removed) : n.handleAnnounce now record = n := by
  unfold handleAnnounce
  rw [admitAnnounce_removed h]

/-! ### The invariant -/

def PeerRecord.Gone (xs : List String) (r : PeerRecord) : Prop :=
  ∀ x ∈ xs, r.isCalled x = true → r.status = .removed

theorem lasting_gone (xs : List String) : Lasting (PeerRecord.Gone xs) := by
  intro r r' hfollows h x hx hcalled
  have hsame : r.isCalled x = r'.isCalled x := by
    simp [PeerRecord.isCalled, hfollows.name, hfollows.wgPublicKey]
  exact hfollows.removed (h x hx (hsame ▸ hcalled))

theorem PeerRecord.gone_of_not_lives {r : PeerRecord} {x : String} (h : r.lives x = false)
    (hcalled : r.isCalled x = true) : r.status = .removed := by
  simpa [lives, hcalled] using h

def Task.marks : Task → Option PeerRecord
  | .markRemoved _ _ peer => some peer
  | .sync _ peer => some peer
  | .announceRemoval _ peer => some peer
  | _ => none

structure PeerNode.Forgotten (s : PeerNode) : Prop where
  all : s.All (PeerRecord.Gone s.removed)
  reporting : ∀ task ∈ s.tasks, ∀ x ∈ task.reporting, x ∈ s.removed
  marks : ∀ task ∈ s.tasks, ∀ peer ∈ task.marks, peer.status = .removed
  reported : s.reported ⊆ s.removed
  delivered : ∀ status ∈ s.delivered, status = some .removed

namespace PeerNode

variable {s s' : PeerNode} {config : NodeConfig} {i now : ℕ} {targets : List String} {task : Task}

theorem forgotten_start (others : String → OtherNode) :
    (PeerNode.start others).Forgotten where
  all := ⟨fun k r h => by simp [start] at h, nofun⟩
  reporting := nofun
  marks := nofun
  reported := fun _ => id
  delivered := nofun

theorem Forgotten.removalsHold (h : s.Forgotten) : s.RemovalsHold where
  stay x hx k r hr := h.all.stored k r hr x (h.reported hx)
  delivered := h.delivered

theorem All.mono {xs xs' : List String} (h : s.All (PeerRecord.Gone xs)) (hsub : xs' ⊆ xs) :
    s.All (PeerRecord.Gone xs') where
  stored k r hr x hx := h.stored k r hr x (hsub hx)
  carried task htask r hr x hx := h.carried task htask r hr x (hsub hx)

namespace Forgotten

theorem spawn (h : s.Forgotten) (hall : (s.spawn task).All (PeerRecord.Gone s.removed))
    (hreporting : task.reporting = none) (hmarks : ∀ peer ∈ task.marks, peer.status = .removed) :
    (s.spawn task).Forgotten where
  all := hall
  reporting := List.forall_mem_append.mpr ⟨h.reporting, by simp [hreporting]⟩
  marks := List.forall_mem_append.mpr ⟨h.marks, List.forall_mem_singleton.mpr hmarks⟩
  reported := h.reported
  delivered := h.delivered

theorem onAccepted (h : s.Forgotten) {record : PeerRecord}
    (hreporting : ∀ task ∈ s.tasks, ∀ x ∈ task.reporting, record.isCalled x = false) :
    (s.onAccepted record).Forgotten where
  all := by
    refine (h.all.mono (List.filter_subset_self _)).onAccepted fun x hx hcalled => ?_
    have hnot := List.of_mem_filter hx
    simp [hcalled] at hnot
  reporting := by
    refine List.forall_mem_append.mpr ⟨fun task htask x hx => ?_, by simp [Task.reporting]⟩
    exact List.mem_filter.mpr ⟨h.reporting task htask x hx, by simp [hreporting task htask x hx]⟩
  marks := List.forall_mem_append.mpr ⟨h.marks, by simp [Task.marks]⟩
  reported := fun x hx => by
    obtain ⟨hold, hnot⟩ := List.mem_filter.mp hx
    exact List.mem_filter.mpr ⟨h.reported hold, hnot⟩
  delivered := h.delivered

theorem setTask (h : s.Forgotten) (hi : s.tasks[i]? = some task)
    (hremoved : (s.advance config now targets task).1.removed = s.removed)
    (hreported : (s.advance config now targets task).1.reported = s.reported)
    (hdelivered : (s.advance config now targets task).1.delivered = s.delivered)
    (hreporting : ∀ x ∈ (s.advance config now targets task).2.reporting, x ∈ task.reporting)
    (hmarks : ∀ peer ∈ (s.advance config now targets task).2.marks, peer ∈ task.marks) :
    ((s.advance config now targets task).1.setTask i
      (s.advance config now targets task).2).Forgotten := by
  have htask := List.mem_of_getElem? hi
  have hall := h.all.advance (lasting_gone s.removed) config now targets hi
  have htasks : ∀ other ∈ ((s.advance config now targets task).1.setTask i
      (s.advance config now targets task).2).tasks,
      other ∈ s.tasks ∨ other = (s.advance config now targets task).2 := by
    intro other hother
    refine (List.mem_or_eq_of_mem_set hother).imp_left fun hold => ?_
    rwa [tasks_advance] at hold
  refine ⟨?_, fun other hother x hx => ?_, fun other hother peer hpeer => ?_, ?_, ?_⟩
  · change All (PeerRecord.Gone (s.advance config now targets task).1.removed) _
    rwa [hremoved]
  · change x ∈ (s.advance config now targets task).1.removed
    rw [hremoved]
    rcases htasks other hother with hold | rfl
    · exact h.reporting other hold x hx
    · exact h.reporting task htask x (hreporting x hx)
  · rcases htasks other hother with hold | rfl
    · exact h.marks other hold peer hpeer
    · exact h.marks task htask peer (hmarks peer hpeer)
  · change (s.advance config now targets task).1.reported ⊆
      (s.advance config now targets task).1.removed
    rw [hremoved, hreported]
    exact h.reported
  · change ∀ status ∈ (s.advance config now targets task).1.delivered, _
    rw [hdelivered]
    exact h.delivered

theorem markRemoved (h : s.Forgotten) {nameOrKey key : String} {peer : PeerRecord}
    (hi : s.tasks[i]? = some (.markRemoved nameOrKey key peer))
    (hstored : ∀ (k : String) r, s.peers[k]? = some r → k ≠ key → r.lives nameOrKey = false)
    (hcarried : ∀ task ∈ s.tasks, ∀ r ∈ task.records, r.lives nameOrKey = false) :
    (({ s with peers := s.peers.insert key peer, removed := nameOrKey :: s.removed } :
      PeerNode).setTask i (.sync nameOrKey peer)).Forgotten := by
  have htask := List.mem_of_getElem? hi
  have hgone : ∀ task ∈ s.tasks, ∀ r ∈ task.records, r.Gone (nameOrKey :: s.removed) :=
    fun task ht r hr => List.forall_mem_cons.mpr
      ⟨PeerRecord.gone_of_not_lives (hcarried task ht r hr), h.all.carried task ht r hr⟩
  refine ⟨⟨fun k r hr => ?_, fun other hother => ?_⟩, fun other hother x hx => ?_,
    fun other hother marked hmarked => ?_, ?_, h.delivered⟩
  · rcases Std.ExtTreeMap.of_getElem?_insert hr with ⟨-, rfl⟩ | ⟨hne, hold⟩
    · exact hgone _ htask r List.mem_cons_self
    · exact List.forall_mem_cons.mpr ⟨PeerRecord.gone_of_not_lives (hstored k r hold hne),
        h.all.stored k r hold⟩
  · rcases List.mem_or_eq_of_mem_set hother with hold | rfl
    · exact hgone other hold
    · exact nofun
  · rcases List.mem_or_eq_of_mem_set hother with hold | rfl
    · exact List.mem_cons_of_mem _ (h.reporting other hold x hx)
    · exact Option.mem_some_iff.mp hx ▸ List.mem_cons_self
  · rcases List.mem_or_eq_of_mem_set hother with hold | rfl
    · exact h.marks other hold marked hmarked
    · exact h.marks _ htask marked hmarked
  · exact List.subset_cons_of_subset _ h.reported

theorem announceRemoval (h : s.Forgotten) {nameOrKey : String} {peer : PeerRecord}
    (hi : s.tasks[i]? = some (.announceRemoval nameOrKey peer))
    (htargets : ∀ key ∈ s.targetsOf peer targets,
      (s.others key).peers[peer.wgPublicKey]?.map PeerRecord.status = some .removed) :
    ((s.announceRemoval nameOrKey peer now targets).setTask i .finished).Forgotten := by
  have htask := List.mem_of_getElem? hi
  have hmarked : peer.status = .removed := h.marks _ htask peer rfl
  have htasks : ∀ other ∈ s.tasks.set i .finished, other ∈ s.tasks ∨ other = .finished :=
    fun other hother => List.mem_or_eq_of_mem_set hother
  refine ⟨⟨h.all.stored, fun other hother => ?_⟩, fun other hother x hx => ?_,
    fun other hother marked hmarked => ?_, ?_, ?_⟩
  · rcases htasks other hother with hold | rfl
    · exact h.all.carried other hold
    · exact nofun
  · rcases htasks other hother with hold | rfl
    · exact h.reporting other hold x hx
    · cases hx
  · rcases htasks other hother with hold | rfl
    · exact h.marks other hold marked hmarked
    · cases hmarked
  · exact List.cons_subset.mpr ⟨h.reporting _ htask nameOrKey rfl, h.reported⟩
  · refine List.forall_mem_append.mpr ⟨fun status hstatus => ?_, h.delivered⟩
    obtain ⟨key, hkey, rfl⟩ := List.mem_map.mp hstatus
    dsimp only
    rw [if_pos hkey, OtherNode.handleAnnounce_removed _ now hmarked]
    exact htargets key hkey

theorem forall_none {α : Type} {p : α → Prop} : ∀ x, none = some x → p x :=
  fun _ h => by cases h

theorem advance (h : s.Forgotten) (hi : s.tasks[i]? = some task)
    (hact : (PeerAct.advance i now targets : PeerAct Key Digest).settled config s = true) :
    ((s.advance config now targets task).1.setTask i
      (s.advance config now targets task).2).Forgotten := by
  cases task
  case markRemoved nameOrKey key peer =>
    simp only [PeerAct.settled, hi, Bool.and_eq_true, List.all_eq_true, Bool.or_eq_true, beq_iff_eq,
      Bool.not_eq_true'] at hact
    refine h.markRemoved hi (fun k r hr hne => ?_) hact.2
    exact (hact.1 (k, r) (Peers.mem_toList.mpr hr)).resolve_left hne
  case announceRemoval nameOrKey peer =>
    simp only [PeerAct.settled, hi, List.all_eq_true, beq_iff_eq] at hact
    exact h.announceRemoval hi hact
  case purge record writes =>
    cases writes with
    | nil =>
        refine h.setTask hi rfl rfl rfl ?_ ?_
        all_goals
          simp only [PeerNode.advance]
          split
          all_goals exact forall_none
    | cons write writes => exact h.setTask hi rfl rfl rfl forall_none forall_none
  case checkLimit record =>
    refine h.setTask hi rfl rfl rfl ?_ ?_
    all_goals
      simp only [PeerNode.advance]
      split
      all_goals exact forall_none
  case writeBack peers =>
    cases peers with
    | nil => exact h.setTask hi rfl rfl rfl forall_none forall_none
    | cons peer peers => exact h.setTask hi rfl rfl rfl forall_none forall_none
  case collect keys =>
    cases keys with
    | nil => exact h.setTask hi rfl rfl rfl forall_none forall_none
    | cons key keys => exact h.setTask hi rfl rfl rfl forall_none forall_none
  case sync nameOrKey peer => exact h.setTask hi rfl rfl rfl (fun _ => id) fun _ => id
  all_goals exact h.setTask hi rfl rfl rfl forall_none forall_none

end Forgotten

theorem Forgotten.step (h : s.Forgotten) {act : PeerAct Key Digest}
    (hact : act.settled config s = true) : (PeerNode.step config act s).2.Forgotten := by
  have hall (hincoming : ∀ r, s.incoming config act = some r → r.Gone s.removed) :
      (PeerNode.step config act s).2.All (PeerRecord.Gone s.removed) :=
    h.all.step (lasting_gone s.removed) hincoming
  cases act with
  | pinAccept req peer now =>
      simp only [PeerNode.step]
      split
      · next record hrecord =>
        refine h.onAccepted fun task htask x hx => ?_
        have hincoming : s.incoming config (.pinAccept req peer now) = some record := hrecord
        simp only [PeerAct.settled, hincoming, Option.all_some, List.all_eq_true] at hact
        simpa using (Option.all_eq_true _ _).mp (hact task htask) x hx
      · exact h
  | manualAccept req peer now =>
      simp only [PeerNode.step]
      split
      · next record hrecord =>
        refine h.onAccepted fun task htask x hx => ?_
        have hincoming : s.incoming config (.manualAccept req peer now) = some record := hrecord
        simp only [PeerAct.settled, hincoming, Option.all_some, List.all_eq_true] at hact
        simpa using (Option.all_eq_true _ _).mp (hact task htask) x hx
      · exact h
  | announce record now =>
      have hnone : ∀ r, admitAnnounce config.myRecord.endpoint now record = some r →
          r.Gone s.removed := by
        intro r hr x hx hcalled
        simp only [PeerAct.settled, hr, Option.all_some, List.all_eq_true] at hact
        exact absurd hcalled (by simpa using hact x hx)
      have hafter := hall hnone
      simp only [PeerNode.step]
      split
      · next hadmitted =>
        simp only [PeerNode.step, hadmitted] at hafter
        exact h.spawn hafter rfl forall_none
      · exact h
  | healthCheck handshake now timeout =>
      have hafter := hall forall_none
      simp only [PeerNode.step]
      split
      · exact h
      · next hchanged =>
        simp only [PeerNode.step, if_neg hchanged] at hafter
        exact h.spawn hafter rfl forall_none
  | updatePeerEndpoint nameOrKey endpoint =>
      have hafter := hall forall_none
      simp only [PeerNode.step]
      split
      · next hfound =>
        simp only [PeerNode.step, hfound] at hafter
        exact h.spawn hafter rfl forall_none
      · exact h
  | removePeer nameOrKey =>
      have hafter := hall forall_none
      simp only [PeerNode.step]
      split
      · exact h
      · next hother =>
        split
        · next key peer hfound =>
          simp only [PeerNode.step, if_neg hother, hfound] at hafter
          refine h.spawn hafter rfl fun marked hmarked => ?_
          obtain ⟨r, -, -, heq⟩ := Peers.of_removePeer hfound
          obtain rfl : peer = marked := Option.some.inj hmarked
          exact congrArg PeerRecord.status heq
        · exact h
  | gcRemovedPeers thresholdSecs now => exact h.spawn (hall forall_none) rfl forall_none
  | advance i now targets =>
      simp only [PeerNode.step]
      split
      · next task hi => exact h.advance hi hact
      · exact h
  | elsewhere key node =>
      exact ⟨⟨h.all.stored, h.all.carried⟩, h.reporting, h.marks, h.reported, h.delivered⟩

end PeerNode

/-- **Removed peers stay removed**, in every run in which removals are done when nothing else carries
the peer, announced only where it is marked, and not followed by announces of the peer. -/
theorem removalsHold_of_settled (config : NodeConfig) (others : String → OtherNode)
    (acts : List (PeerAct Key Digest))
    (hacts : ∀ e ∈ trace (PeerNode.step config) acts (.start others),
      e.action.settled config e.before = true) :
    (reached (PeerNode.step config) acts (.start others)).RemovalsHold :=
  (invariant_reached (I := PeerNode.Forgotten) (PeerNode.forgotten_start others)
    (fun _ _ h hact => h.step hact) hacts).removalsHold

def loneNode : NodeConfig where
  sha256 _ := Vector.replicate 32 0
  meshName := "mesh"
  meshSecret := "secret"
  meshPrefix := Vector.replicate 8 0
  nodeName := "leader"
  wgPublicKey := "leader-key"
  myRecord := ⟨"leader", "leader-key", ⟨"192.0.2.1", 51820, host_one⟩, Vector.replicate 8 0, 0,
    .active, none, none⟩
  publicEndpoint := none
  maxPeers := 10

def unknownNodes : String → OtherNode := fun _ => ⟨⟨"192.0.2.2", 51820, host_two⟩, 10, ∅⟩

def joinAndRemove : List (PeerAct Unit Unit) :=
  [.pinAccept ⟨"r1", "alice", "AAAAAAAAAAAAAAAAAAAAAAAAAAAAAAAAAAAAAAAAAAA=",
    ⟨"192.0.2.7", 51820, host_seven⟩, 51820, some "pin", none, none, 0, .empty⟩
    ⟨"192.0.2.7", 40000, host_seven⟩ 0] ++ List.replicate 6 (.advance 0 0 []) ++
    [.removePeer "alice"] ++ List.replicate 3 (.advance 1 0 [])

theorem removalsHold_joinAndRemove :
    (reached (PeerNode.step loneNode) joinAndRemove (.start unknownNodes)).reported = ["alice"] ∧
      (reached (PeerNode.step loneNode) joinAndRemove (.start unknownNodes)).RemovalsHold :=
  ⟨by decide +kernel, removalsHold_of_settled loneNode unknownNodes joinAndRemove
    (by decide +kernel)⟩

/-- Another node that still has the peer announces it. -/
def announcedAgain : List (PeerAct Unit Unit) :=
  joinAndRemove ++ [.announce ⟨"alice", "AAAAAAAAAAAAAAAAAAAAAAAAAAAAAAAAAAAAAAAAAAA=",
    ⟨"192.0.2.7", 51820, host_seven⟩, Vector.replicate 8 0, 0, .active, none, none⟩ 0] ++
    List.replicate 4 (.advance 2 0 [])

/-- The announce brings the removed peer back. -/
theorem announce_revives_removed_peer :
    ¬(reached (PeerNode.step loneNode) announcedAgain (.start unknownNodes)).RemovalsHold := by
  intro h
  have hstatus := h.stay "alice" (by decide +kernel) "AAAAAAAAAAAAAAAAAAAAAAAAAAAAAAAAAAAAAAAAAAA="
    ⟨"alice", "AAAAAAAAAAAAAAAAAAAAAAAAAAAAAAAAAAAAAAAAAAA=", ⟨"192.0.2.7", 51820, host_seven⟩,
      Vector.replicate 8 0, 0, .active, none, none⟩ (by decide +kernel) (by decide +kernel)
  cases hstatus

end Mesh

end Syfrah
