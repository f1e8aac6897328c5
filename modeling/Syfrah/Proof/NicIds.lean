import Syfrah.Proof.Ensures

/-!
# Interfaces and their identifiers

The identifier of an interface is the text of its VM and of its subnet, with a dash between them and
dashes for the slashes of the subnet. Neither part is quoted, so that two pairs can share an
identifier, and an interface that is already stored under it answers the command as created.
-/

namespace Syfrah

open Replica Tx

/-- The interface of this VM in this subnet, with these addresses. -/
def NetworkInterface.Connects (nic : NetworkInterface) (vmId subnetId ip mac : String) : Prop :=
  nic.vmId = some vmId ∧ nic.subnetId = subnetId ∧ nic.privateIp = ip ∧ nic.mac = mac

/-- The interface table holds, under this identifier, what the command asked for. -/
def Replica.HoldsNic (r : Replica) (id vmId subnetId ip mac : String) : Prop :=
  ∃ nic, r.sm.orgStore.get .nics id = some nic ∧ nic.Connects vmId subnetId ip mac

/-- Two pairs of a VM and a subnet that read the same once a dash stands between them: the subnets
differ in slashes and dashes only, or a dash inside one VM is where the other VM ends. -/
def SharesNicId (vmId subnetId vmId' subnetId' : String) : Prop :=
  let subnet := (Text.replaceChar '/' '-' subnetId).toList
  let subnet' := (Text.replaceChar '/' '-' subnetId').toList
  (vmId = vmId' ∧ subnet = subnet') ∨
    (∃ w, vmId'.toList = vmId.toList ++ '-' :: w ∧ subnet = w ++ '-' :: subnet') ∨
    ∃ w, vmId.toList = vmId'.toList ++ '-' :: w ∧ subnet' = w ++ '-' :: subnet

namespace OrgStore

variable {nic : NetworkInterface} {s : OrgDb × Ambient}

theorem createNic_known {known : NetworkInterface} (h : s.1.get .nics nic.id = some known) :
    OrgStore.createNic nic s = (.error (.nicAlreadyExists nic.id), s) := by
  change (Tx.rejectIf (s.1.get .nics nic.id).isSome _ >>= fun _ => _ : OrgM Unit) s = _
  rw [h]
  rfl

theorem createNic_new (h : s.1.get .nics nic.id = none) :
    OrgStore.createNic nic s = (.ok (), (s.1.set .nics nic.id nic, s.2)) := by
  change (Tx.rejectIf (s.1.get .nics nic.id).isSome _ >>= fun _ => _ : OrgM Unit) s = _
  rw [h]
  rfl

end OrgStore

theorem Replica.zoom_result {α : Type} {m : OrgM α} {x : Except OrgError α} {t : OrgDb × Ambient}
    {r : Replica} (h : m (orgLens.get r) = (x, t)) :
    (zoom orgLens m).result r = ((.ok x, orgLens.set t r) : Except String _ × Replica) := by
  simp only [Tx.result, zoom_apply, h]

namespace Handle

variable {vmId subnetId ip mac vmId' subnetId' : String} {r : Replica}

theorem toList_nicId (vmId subnetId : String) :
    (nicId vmId subnetId).toList =
      "nic-".toList ++ (vmId.toList ++ '-' :: (Text.replaceChar '/' '-' subnetId).toList) := by
  simp [nicId, toString]

theorem nicId_eq_iff : nicId vmId subnetId = nicId vmId' subnetId' ↔
    SharesNicId vmId subnetId vmId' subnetId' := by
  rw [← String.toList_inj, toList_nicId, toList_nicId, List.append_cancel_left_eq,
    Text.append_separator_eq_iff, String.toList_inj]
  rfl

theorem already_exists_display (id : NicId) :
    Text.contains (OrgError.nicAlreadyExists id).display "already exists" = true := by
  have hdisplay : (OrgError.nicAlreadyExists id).display = "nic " ++ "already exists" ++ ": " ++ id :=
    rfl
  rw [Text.contains_iff_infix, hdisplay, String.toList_append, String.toList_append,
    String.toList_append, List.append_assoc]
  exact List.infix_append _ _ _

theorem createNic_spec (vmId subnetId ip mac : String) (r : Replica) :
    Ensures (createNic vmId subnetId ip mac) r fun result t =>
      result = .ok (.created (nicId vmId subnetId)) ∧
      match r.sm.orgStore.get .nics (nicId vmId subnetId) with
      | some nic => t.sm.orgStore.get .nics (nicId vmId subnetId) = some nic
      | none => t.HoldsNic (nicId vmId subnetId) vmId subnetId ip mac := by
  cases hget : r.sm.orgStore.get .nics (nicId vmId subnetId) with
  | some nic =>
      refine .bind_ok rfl (.take (.bind_ok (zoom_result (OrgStore.createNic_known hget)) ?_))
      dsimp only
      rw [already_exists_display]
      exact .pure ⟨rfl, hget⟩
  | none =>
      refine .bind_ok rfl (.take (.bind_ok (zoom_result (OrgStore.createNic_new hget)) ?_))
      exact .pure ⟨rfl, _, (LayerDb.get_set ..).trans (if_pos rfl), rfl, rfl, rfl, rfl⟩

theorem applySingle_createNic_reply (vmId subnetId ip mac : String) (r : Replica) :
    (applySingle (.createNic vmId subnetId ip mac) r).1 = .created (nicId vmId subnetId) := by
  change respond (createNic vmId subnetId ip mac r).1 = _
  rw [(createNic_spec vmId subnetId ip mac r).1]
  rfl

theorem applySingle_createNic_known (vmId subnetId ip mac : String) {known : NetworkInterface}
    (h : r.sm.orgStore.get .nics (nicId vmId subnetId) = some known) :
    (applySingle (.createNic vmId subnetId ip mac) r).2.sm.orgStore.get .nics
      (nicId vmId subnetId) = some known := by
  have hafter := (createNic_spec vmId subnetId ip mac r).2
  rw [h] at hafter
  exact hafter

theorem applySingle_createNic_new (vmId subnetId ip mac : String)
    (h : r.sm.orgStore.get .nics (nicId vmId subnetId) = none) :
    (applySingle (.createNic vmId subnetId ip mac) r).2.HoldsNic (nicId vmId subnetId) vmId subnetId
      ip mac := by
  have hafter := (createNic_spec vmId subnetId ip mac r).2
  rw [h] at hafter
  exact hafter

end Handle

open Handle

/-- **The identifier names the request only if nobody used it before.** A command stores what it asks
for exactly when its identifier is free or already holds that very interface, and two pairs of a VM
and a subnet get different identifiers exactly when they do not read the same. -/
theorem createNic_holds_iff (r r' : Replica)
    (vmId subnetId ip mac vmId' subnetId' ip' mac' : String) :
    ((∀ id, (applySingle (.createNic vmId subnetId ip mac) r).1 = .created id →
        (applySingle (.createNic vmId subnetId ip mac) r).2.HoldsNic id vmId subnetId ip mac) ↔
      ∀ nic, r.sm.orgStore.get .nics (nicId vmId subnetId) = some nic →
        nic.Connects vmId subnetId ip mac) ∧
    (((vmId, subnetId) ≠ (vmId', subnetId') →
        (applySingle (.createNic vmId subnetId ip mac) r).1 ≠
          (applySingle (.createNic vmId' subnetId' ip' mac') r').1) ↔
      ((vmId, subnetId) ≠ (vmId', subnetId') →
        ¬ SharesNicId vmId subnetId vmId' subnetId')) := by
  constructor
  · rw [applySingle_createNic_reply]
    cases hget : r.sm.orgStore.get .nics (nicId vmId subnetId) with
    | none =>
        have hholds := applySingle_createNic_new vmId subnetId ip mac hget
        refine ⟨fun _ _ h => (Option.some_ne_none _ h.symm).elim, fun _ id hid => ?_⟩
        exact StateMachineResponse.created.inj hid ▸ hholds
    | some known =>
        have hkept := applySingle_createNic_known vmId subnetId ip mac hget
        constructor
        · intro h nic hnic
          obtain ⟨stored, hstored, hconnects⟩ := h _ rfl
          rw [hkept] at hstored
          exact Option.some.inj (hstored.symm.trans hnic) ▸ hconnects
        · intro h id hid
          obtain rfl := StateMachineResponse.created.inj hid
          exact ⟨known, hkept, h known rfl⟩
  · rw [applySingle_createNic_reply, applySingle_createNic_reply, Ne, Ne,
      StateMachineResponse.created.injEq, nicId_eq_iff]

/-- The subnets `app/web` and `app-web` give a VM the same identifier: the second interface is
answered as created, and the table goes on holding the first one with its own address. -/
theorem not_holdsNic_of_shared_id :
    let first : Replica := (applySingle (.createNic "web" "app/web" "10.0.1.3" "02:00:0a:00:01:03")
      Replica.fresh).2
    let second := applySingle (.createNic "web" "app-web" "10.0.2.3" "02:00:0a:00:02:03") first
    second.1 = .created "nic-web-app-web" ∧
      ¬ second.2.HoldsNic "nic-web-app-web" "web" "app-web" "10.0.2.3" "02:00:0a:00:02:03" ∧
      second.2.HoldsNic "nic-web-app-web" "web" "app/web" "10.0.1.3" "02:00:0a:00:01:03" := by
  have hslash : nicId "web" "app/web" = "nic-web-app-web" := by decide
  have hdash : nicId "web" "app-web" = "nic-web-app-web" := by decide
  obtain ⟨nic, hfirst, hconnects⟩ := applySingle_createNic_new (r := Replica.fresh) "web" "app/web"
    "10.0.1.3" "02:00:0a:00:01:03" Std.ExtTreeMap.getElem?_empty
  rw [hslash, ← hdash] at hfirst
  have hsecond := applySingle_createNic_known _ _ "10.0.2.3" "02:00:0a:00:02:03" hfirst
  have hreply := applySingle_createNic_reply "web" "app-web" "10.0.2.3" "02:00:0a:00:02:03"
    (applySingle (.createNic "web" "app/web" "10.0.1.3" "02:00:0a:00:01:03") Replica.fresh).2
  rw [hdash] at hsecond hreply
  dsimp only
  refine ⟨hreply, ?_, nic, hsecond, hconnects⟩
  rintro ⟨stored, hstored, -, hsubnet, -⟩
  obtain rfl := Option.some.inj (hsecond.symm.trans hstored)
  exact absurd (hsubnet.symm.trans hconnects.2.1) (by decide)

end Syfrah
