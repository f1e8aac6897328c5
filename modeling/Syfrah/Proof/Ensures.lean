import Syfrah.ControlPlane.Apply

/-!
# One run of a handler

A handler is followed step by step through the stores it works on. The rules here say what is to be
shown after an operation of a store, whether it succeeds or fails.
-/

namespace Syfrah

open Replica Tx

variable {ε α β : Type} {T : Type} {Row : T → Type}

theorem Tx.Ensures.check {s : LayerDb Row × Ambient}
    {post : Except ε β → LayerDb Row × Ambient → Prop} {x : Except ε α}
    {k : α → StoreM Row ε β} (herror : ∀ e, x = .error e → post (.error e) s)
    (hok : ∀ a, x = .ok a → Ensures (k a) s post) : Ensures (OrgStore.check x >>= k) s post := by
  cases x with
  | ok a => exact hok a rfl
  | error e => exact herror e rfl

theorem Tx.Ensures.org {r : Replica} {m : OrgM α} {k : α → Handler β}
    {mid : Except OrgError α → OrgDb × Ambient → Prop} {post : Except String β → Replica → Prop}
    (hm : Ensures m (orgLens.get r) mid)
    (hok : ∀ a t, mid (.ok a) t → Ensures (k a) (orgLens.set t r) post)
    (herror : ∀ e t, mid (.error e) t → post (.error e.display) (orgLens.set t r)) :
    Ensures (Replica.org m >>= k) r post := by
  unfold Ensures at hm ⊢
  rw [bind_apply, Replica.org, Tx.mapError, zoom_apply]
  rcases hrun : m (orgLens.get r) with ⟨result, t⟩
  rw [hrun] at hm
  cases result with
  | ok a => exact hok a t hm
  | error e => exact herror e t hm

theorem Tx.Ensures.onStore {l : Tx.Lens RedbStateMachine (Option (LayerDb Row))} {missing : String}
    {r : Replica} {m : StoreM Row OrgError α} {k : α → Handler β}
    {mid : LayerDb Row → Except OrgError α → LayerDb Row × Ambient → Prop}
    {post : Except String β → Replica → Prop} (hnone : l.get r.sm = none → ∀ e, post (.error e) r)
    (hm : ∀ db, l.get r.sm = some db → Ensures m (db, r.ambient) (mid db))
    (hok : ∀ db a t, l.get r.sm = some db → mid db (.ok a) t →
      Ensures (k a) { sm := l.set (some t.1) r.sm, ambient := t.2 } post)
    (herror : ∀ db e t, l.get r.sm = some db → mid db (.error e) t →
      post (.error e.display) { sm := l.set (some t.1) r.sm, ambient := t.2 }) :
    Ensures (Replica.onStore l missing m >>= k) r post := by
  cases hstore : l.get r.sm with
  | none =>
      have hrun : Replica.onStore l missing m r = (.error missing, r) := by
        simp [Replica.onStore, hstore]
      unfold Ensures
      rw [bind_apply_error hrun]
      exact hnone hstore _
  | some db =>
      have hdb := hm db hstore
      unfold Ensures at hdb ⊢
      rw [bind_apply, Replica.onStore, hstore]
      dsimp only
      rcases hrun : m (db, r.ambient) with ⟨result, t⟩
      rw [hrun] at hdb
      cases result with
      | ok a => exact hok db a t hstore hdb
      | error e => exact herror db e t hstore hdb

theorem ensures_onStore_query {l : Tx.Lens RedbStateMachine (Option (LayerDb Row))} {missing : String}
    (f : LayerDb Row → α) (r : Replica) :
    Ensures (Replica.onStore l missing (query f)) r fun result t =>
      t = r ∧ ∀ a, result = .ok a → ∃ db, l.get r.sm = some db ∧ f db = a := by
  unfold Ensures Replica.onStore
  cases hstore : l.get r.sm with
  | none => exact ⟨rfl, nofun⟩
  | some db =>
      have hset : l.set (some db) r.sm = r.sm := by rw [← hstore, l.set_get]
      refine ⟨?_, fun a ha => ⟨db, rfl, Except.ok.inj ha⟩⟩
      exact congrArg (fun sm => { r with sm := sm }) hset

end Syfrah
