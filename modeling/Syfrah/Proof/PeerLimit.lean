import Syfrah.Fabric.BoundedUpsert

/-!
# The limit on stored peers

A call that has passed the limit check holds the database open until it has stored its peer. No other
call can store one in between, so the check is still right when the peer is stored.
-/

namespace Syfrah

namespace Mesh

def Peers.Fits (t : Peers) (peer : PeerRecord) (maxPeers : ℕ) : Prop :=
  t.contains peer.wgPublicKey = true ∨ t.size < maxPeers

theorem Peers.size_upsertPeer_le {t : Peers} {peer : PeerRecord} {maxPeers : ℕ} (h : t.size ≤ maxPeers)
    (hfits : t.Fits peer maxPeers) : (t.upsertPeer peer).size ≤ maxPeers := by
  rw [upsertPeer, Std.ExtTreeMap.size_insert]
  rcases hfits with hstored | hroom
  · rw [if_pos hstored]
    exact h
  · split <;> omega

namespace SharedStore

variable {maxPeers : ℕ}

def Guarded (maxPeers : ℕ) (s : SharedStore) (i : ℕ) : UpsertCall → Prop
  | .openDb _ => True
  | .checkExists _ => s.openedBy = some i
  | .count _ => s.openedBy = some i
  | .set peer => s.openedBy = some i ∧ s.peers.Fits peer maxPeers
  | .returned _ => True

structure Within (maxPeers : ℕ) (s : SharedStore) : Prop where
  size_le : s.peers.size ≤ maxPeers
  guarded : ∀ i call, s.calls[i]? = some call → s.Guarded maxPeers i call

theorem Guarded.of_other {s s' : SharedStore} {i j : ℕ} {call : UpsertCall} (h : s.Guarded maxPeers j call)
    (hopened : s.openedBy = some i) (hne : j ≠ i) : s'.Guarded maxPeers j call := by
  have hother : s.openedBy ≠ some j := by
    rw [hopened]
    exact fun heq => hne (Option.some.inj heq).symm
  cases call with
  | openDb peer => trivial
  | checkExists peer => exact absurd h hother
  | count peer => exact absurd h hother
  | set peer => exact absurd h.1 hother
  | returned result => trivial

theorem Guarded.of_closed {s s' : SharedStore} {j : ℕ} {call : UpsertCall} (h : s.Guarded maxPeers j call)
    (hclosed : s.openedBy = none) : s'.Guarded maxPeers j call := by
  cases call with
  | openDb peer => trivial
  | checkExists peer => cases hclosed.symm.trans h
  | count peer => cases hclosed.symm.trans h
  | set peer => cases hclosed.symm.trans h.1
  | returned result => trivial

theorem Within.update {s s' : SharedStore} {i : ℕ} {call : UpsertCall} (h : s.Within maxPeers)
    (hcalls : s'.calls = s.calls.set i call) (hsize : s'.peers.size ≤ maxPeers)
    (hcall : s'.Guarded maxPeers i call)
    (hothers : ∀ j other, j ≠ i → s.Guarded maxPeers j other → s'.Guarded maxPeers j other) :
    s'.Within maxPeers := by
  refine ⟨hsize, fun j other hother => ?_⟩
  rw [hcalls, List.getElem?_set] at hother
  split at hother
  · rename_i heq
    subst heq
    split at hother
    · exact Option.some.inj hother ▸ hcall
    · cases hother
  · rename_i hne
    exact hothers j other (Ne.symm hne) (h.guarded j other hother)

/-- **One transaction keeps the limit.** -/
theorem Within.advance {s : SharedStore} {i : ℕ} {call : UpsertCall} (h : s.Within maxPeers)
    (hcall : s.calls[i]? = some call) : (s.advance maxPeers i call).Within maxPeers := by
  have hguarded := h.guarded i call hcall
  cases call with
  | openDb peer =>
      rw [SharedStore.advance]
      split
      · exact h.update rfl h.size_le trivial fun _ other _ hother => by cases other <;> exact hother
      · rename_i hfree
        have hclosed : s.openedBy = none := by simpa using hfree
        exact h.update rfl h.size_le rfl fun _ _ _ hother => hother.of_closed hclosed
  | checkExists peer =>
      refine h.update rfl h.size_le ?_ fun _ _ hne hother => hother.of_other hguarded hne
      split
      · rename_i hstored
        exact ⟨hguarded, .inl hstored⟩
      · exact hguarded
  | count peer =>
      rw [SharedStore.advance]
      split
      · exact h.update rfl h.size_le trivial fun _ _ hne hother => hother.of_other hguarded hne
      · rename_i hroom
        refine h.update rfl h.size_le ⟨hguarded, .inr ?_⟩ fun _ _ hne hother => hother.of_other hguarded hne
        exact Nat.lt_of_not_le hroom
  | set peer =>
      refine h.update rfl ?_ trivial fun _ _ hne hother => hother.of_other hguarded.1 hne
      exact Peers.size_upsertPeer_le h.size_le hguarded.2
  | returned result => exact h

theorem Within.step {s : SharedStore} (h : s.Within maxPeers) (a : UpsertAct) :
    (step maxPeers a s).2.Within maxPeers := by
  cases a with
  | call peer =>
      refine ⟨h.size_le, fun i call hcall => ?_⟩
      simp only [SharedStore.step, List.getElem?_append] at hcall
      split at hcall
      · have hguarded := h.guarded i call hcall
        cases call <;> exact hguarded
      · obtain rfl := List.mem_singleton.mp (List.mem_of_getElem? hcall)
        trivial
  | advance i =>
      rw [SharedStore.step]
      cases hcall : s.calls[i]? with
      | none => exact h
      | some call => exact h.advance hcall

/-- **The limit on stored peers is hard.** Whatever the interleaving of the transactions of bounded
upserts, a store that starts with at most the maximal number of peers never has more. -/
theorem size_le_of_bounded_upserts {peers : Peers} (h : peers.size ≤ maxPeers) (acts : List UpsertAct) :
    (reached (step maxPeers) acts (start peers)).peers.size ≤ maxPeers := by
  have hstart : (start peers).Within maxPeers := ⟨h, fun _ _ hcall => by cases hcall⟩
  have hwithin : (reached (step maxPeers) acts (start peers)).Within maxPeers :=
    invariant_reached (C := fun _ => True) hstart (fun _ a hI _ => hI.step a) fun _ _ => trivial
  exact hwithin.size_le

theorem size_le_of_two_upserts :
    (∅ : Peers).size ≤ 1 ∧ ∀ first second : PeerRecord,
      (reached (step 1) [.call first, .call second, .advance 0, .advance 0, .advance 1, .advance 0, .advance 0]
        (start ∅)).peers.size ≤ 1 :=
  ⟨by decide, fun _ _ => size_le_of_bounded_upserts (by decide) _⟩

end SharedStore

end Mesh

end Syfrah
