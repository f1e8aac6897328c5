import Syfrah.Lib.Pass
import Syfrah.Overlay.Recovery

/-!
# What a recovery restores

The recovery repairs an interface by making it. An interface that the kernel still has is not looked
at again: a bridge that has lost its addresses stays without them, and a tunnel that has lost its
bridge stays on its own. Everything else is restored.
-/

namespace Syfrah

namespace Overlay

/-! ### Names -/

theorem bridgeName_startsWith (vpcId : String) : Text.startsWith (bridgeName vpcId) bridgePrefix = true :=
  Text.startsWith_append _ _

theorem vxlanName_startsWith (vpcId : String) : Text.startsWith (vxlanName vpcId) vxlanPrefix = true :=
  Text.startsWith_append _ _

theorem bridgeName_eq_of_vxlanName_eq {v w : String} (h : vxlanName v = vxlanName w) :
    bridgeName v = bridgeName w := by
  rw [vxlanName, vxlanName, String.append_right_inj] at h
  rw [bridgeName, bridgeName, h]

/-! ### Bridges -/

variable {input : RecoveryInput} {kernelNames : List String} {r : Recovery}

theorem perform_reliable (op : NetworkOp) (k : Kernel) :
    NetworkBackend.reliable.perform op k = .ok (op.run k) :=
  rfl

structure Kernel.SameOutside (P : String → Prop) (k k' : Kernel) : Prop where
  others : ∀ name, ¬ P name → k'.links[name]? = k.links[name]?
  peers : ∀ name : String, (k.links[name]?).bind Link.peer = none → (k'.links[name]?).bind Link.peer = none

theorem Kernel.SameOutside.refl (P : String → Prop) (k : Kernel) : k.SameOutside P k :=
  ⟨fun _ _ => rfl, fun _ => id⟩

theorem Kernel.SameOutside.trans {P : String → Prop} {k k' k'' : Kernel} (h : k.SameOutside P k')
    (h' : k'.SameOutside P k'') : k.SameOutside P k'' :=
  ⟨fun name hname => (h'.others name hname).trans (h.others name hname),
    fun name hname => h'.peers name (h.peers name hname)⟩

theorem Kernel.SameOutside.of_links {P : String → Prop} {k k' : Kernel} (h : k'.links = k.links) :
    k.SameOutside P k' :=
  ⟨fun _ _ => by rw [h], fun _ hpeer => by rw [h]; exact hpeer⟩

theorem Kernel.SameOutside.mono {P Q : String → Prop} {k k' : Kernel} (hPQ : ∀ name, P name → Q name)
    (h : k.SameOutside P k') : k.SameOutside Q k' :=
  ⟨fun name hname => h.others name fun hP => hname (hPQ name hP), h.peers⟩

theorem sameOutside_createLink {P : String → Prop} {name : String} (hname : P name) (k : Kernel) :
    k.SameOutside P (k.createLink name .new) where
  others other hother := by
    rw [Kernel.links_createLink, if_neg]
    rintro rfl
    exact hother hname
  peers other hpeer := by
    rw [Kernel.links_createLink]
    split
    · rename_i heq
      rw [heq] at hpeer
      cases hheld : k.links[name]? with
      | none => rfl
      | some link => simpa [hheld] using hpeer
    · exact hpeer

theorem sameOutside_modifyLink {P : String → Prop} {name : String} (hname : P name) {f : Link → Link}
    (hf : ∀ link, (f link).peer = link.peer) (k : Kernel) : k.SameOutside P (k.modifyLink name f) where
  others other hother := by
    rw [Kernel.links_modifyLink, if_neg]
    rintro rfl
    exact hother hname
  peers other hpeer := by
    rw [Kernel.links_modifyLink]
    split
    · rename_i heq
      rw [heq] at hpeer
      cases hheld : k.links[name]? with
      | none => rfl
      | some link => simpa [hheld, hf] using hpeer
    · exact hpeer

/-- An interface that has at least some addresses. -/
def Kernel.Has (k : Kernel) (name : String) (addresses : List (String × ℕ)) : Prop :=
  ∃ link, k.links[name]? = some link ∧ ∀ address ∈ addresses, address ∈ link.addresses

theorem has_createLink_self (name : String) (k : Kernel) : (k.createLink name .new).Has name [] := by
  refine ⟨_, (Kernel.links_createLink name .new k name).trans (if_pos rfl), ?_⟩
  exact fun address hmem => absurd hmem List.not_mem_nil

theorem has_createLink {name other : String} {addresses : List (String × ℕ)} {k : Kernel}
    (h : k.Has other addresses) : (k.createLink name .new).Has other addresses := by
  obtain ⟨link, hlink, haddresses⟩ := h
  refine ⟨link, ?_, haddresses⟩
  rw [Kernel.links_createLink]
  split
  · rename_i heq
    rw [← heq, hlink, Option.getD_some]
  · exact hlink

theorem has_of_links {name : String} {addresses : List (String × ℕ)} {k k' : Kernel}
    (hlinks : k'.links = k.links) (h : k.Has name addresses) : k'.Has name addresses := by
  rw [Kernel.Has, hlinks]
  exact h

section Addresses

variable {bridge ip name : String} {len : ℕ} {k : Kernel} {addresses : List (String × ℕ)}

theorem links_addBridgeIp : ((NetworkOp.addBridgeIp bridge ip len).run k).links[name]? =
    if name = bridge then (k.links[bridge]?).map fun link =>
      if (ip, len) ∈ link.addresses then link else { link with addresses := link.addresses ++ [(ip, len)] }
    else k.links[name]? :=
  Kernel.links_modifyLink ..

theorem has_addBridgeIp (h : k.Has name addresses) :
    ((NetworkOp.addBridgeIp bridge ip len).run k).Has name addresses := by
  obtain ⟨link, hlink, haddresses⟩ := h
  by_cases hname : name = bridge
  · subst hname
    refine ⟨_, by rw [links_addBridgeIp, if_pos rfl, hlink, Option.map_some], fun address hmem => ?_⟩
    split
    · exact haddresses address hmem
    · exact List.mem_append_left _ (haddresses address hmem)
  · exact ⟨link, by rw [links_addBridgeIp, if_neg hname, hlink], haddresses⟩

theorem has_addBridgeIp_self (ip : String) (len : ℕ) (h : k.Has bridge addresses) :
    ((NetworkOp.addBridgeIp bridge ip len).run k).Has bridge ((ip, len) :: addresses) := by
  obtain ⟨link, hlink, haddresses⟩ := h
  refine ⟨_, by rw [links_addBridgeIp, if_pos rfl, hlink, Option.map_some], fun address hmem => ?_⟩
  rcases List.mem_cons.mp hmem with rfl | hmem
  · split
    · assumption
    · exact List.mem_append_right _ (List.mem_singleton_self _)
  · split
    · exact haddresses address hmem
    · exact List.mem_append_left _ (haddresses address hmem)

theorem has_addresses {subnets : List RecoverySubnet} (h : k.Has bridge addresses) :
    (subnets.foldl (fun k s => (NetworkOp.addBridgeIp bridge s.gateway s.prefixLen).run k) k).Has bridge
      (addresses ++ subnets.map RecoverySubnet.address) := by
  induction subnets generalizing k addresses with
  | nil => simpa using h
  | cons s subnets ih =>
      obtain ⟨link, hlink, hmem⟩ := ih (has_addBridgeIp_self s.gateway s.prefixLen h)
      refine ⟨link, hlink, fun address haddress => hmem address ?_⟩
      simp only [List.map_cons, List.mem_append, List.mem_cons] at haddress ⊢
      rcases haddress with hold | hnew | hrest
      · exact .inl (.inr hold)
      · exact .inl (.inl hnew)
      · exact .inr hrest

end Addresses

variable (input kernelNames)

def MadeBridge (name : String) : Prop := name ∈ input.expectedBridges ∧ name ∉ kernelNames

def MadeVxlan (name : String) : Prop := name ∈ input.expectedVxlans ∧ name ∉ kernelNames

def gateways (vpcId : String) : List (String × ℕ) :=
  (input.subnets.filter fun s => s.vpcId == vpcId).map RecoverySubnet.address

variable {input kernelNames}

theorem recoverBridge_skip {vpc : RecoveryVpc} (h : ¬ MadeBridge input kernelNames (bridgeName vpc.id)) :
    recoverBridge .reliable input kernelNames r vpc = r := by
  rw [recoverBridge, if_pos]
  by_cases hexpected : bridgeName vpc.id ∈ input.expectedBridges
  · exact .inr (not_not.mp fun hnew => h ⟨hexpected, hnew⟩)
  · exact .inl hexpected

theorem recoverBridge_make {vpc : RecoveryVpc} (h : MadeBridge input kernelNames (bridgeName vpc.id)) :
    (recoverBridge .reliable input kernelNames r vpc).kernel =
      (input.subnets.filter fun s => s.vpcId == vpc.id).foldl
        (fun k s => (NetworkOp.addBridgeIp (bridgeName vpc.id) s.gateway s.prefixLen).run k)
        ((r.kernel.createLink (bridgeName vpc.id) .new).addRules
          (generateBridgeAcceptRules (bridgeName vpc.id))) := by
  rw [recoverBridge, if_neg]
  · rfl
  · rintro (hunexpected | hknown)
    · exact hunexpected h.1
    · exact h.2 hknown

theorem recoverBridge_sameOutside (vpc : RecoveryVpc) :
    r.kernel.SameOutside (MadeBridge input kernelNames)
      (recoverBridge .reliable input kernelNames r vpc).kernel := by
  by_cases hmade : MadeBridge input kernelNames (bridgeName vpc.id)
  · rw [recoverBridge_make hmade]
    refine Pass.invariant (P := r.kernel.SameOutside (MadeBridge input kernelNames)) ?_ ?_
    · intro k s _ hk
      refine hk.trans (sameOutside_modifyLink hmade (fun link => ?_) k)
      split <;> rfl
    · exact (sameOutside_createLink hmade r.kernel).trans (.of_links rfl)
  · rw [recoverBridge_skip hmade]
    exact .refl _ _

theorem recoverBridge_has {vpc : RecoveryVpc} (h : MadeBridge input kernelNames (bridgeName vpc.id)) :
    (recoverBridge .reliable input kernelNames r vpc).kernel.Has (bridgeName vpc.id)
      (gateways input vpc.id) := by
  rw [recoverBridge_make h]
  have hmade : ((r.kernel.createLink (bridgeName vpc.id) .new).addRules
      (generateBridgeAcceptRules (bridgeName vpc.id))).Has (bridgeName vpc.id) [] :=
    has_of_links rfl (has_createLink_self (bridgeName vpc.id) r.kernel)
  exact has_addresses hmade

theorem recoverBridge_keeps {vpc : RecoveryVpc} {name : String} {addresses : List (String × ℕ)}
    (h : r.kernel.Has name addresses) :
    (recoverBridge .reliable input kernelNames r vpc).kernel.Has name addresses := by
  by_cases hmade : MadeBridge input kernelNames (bridgeName vpc.id)
  · rw [recoverBridge_make hmade]
    refine Pass.invariant (P := fun k : Kernel => k.Has name addresses) ?_ ?_
    · intro k s _ hk
      exact has_addBridgeIp hk
    · exact has_of_links rfl (has_createLink h)
  · rw [recoverBridge_skip hmade]
    exact h

/-! ### Tunnels -/

theorem recoverVxlan_skip {vpc : RecoveryVpc} (h : ¬ MadeVxlan input kernelNames (vxlanName vpc.id)) :
    recoverVxlan .reliable input kernelNames r vpc = r := by
  rw [recoverVxlan, if_pos]
  by_cases hexpected : vxlanName vpc.id ∈ input.expectedVxlans
  · exact .inr (not_not.mp fun hnew => h ⟨hexpected, hnew⟩)
  · exact .inl hexpected

theorem recoverVxlan_make {vpc : RecoveryVpc} (h : MadeVxlan input kernelNames (vxlanName vpc.id)) :
    (recoverVxlan .reliable input kernelNames r vpc).kernel =
      (r.kernel.createLink (vxlanName vpc.id) .new).modifyLink (vxlanName vpc.id)
        fun link => { link with master := some (bridgeName vpc.id) } := by
  rw [recoverVxlan, if_neg]
  · rfl
  · rintro (hunexpected | hknown)
    · exact hunexpected h.1
    · exact h.2 hknown

theorem recoverVxlan_sameOutside (vpc : RecoveryVpc) :
    r.kernel.SameOutside (MadeVxlan input kernelNames)
      (recoverVxlan .reliable input kernelNames r vpc).kernel := by
  by_cases hmade : MadeVxlan input kernelNames (vxlanName vpc.id)
  · rw [recoverVxlan_make hmade]
    refine (sameOutside_createLink hmade r.kernel).trans (sameOutside_modifyLink hmade ?_ _)
    exact fun link => rfl
  · rw [recoverVxlan_skip hmade]
    exact .refl _ _

def Kernel.Attached (k : Kernel) (name bridge : String) : Prop :=
  ∃ link, k.links[name]? = some link ∧ link.master = some bridge

theorem recoverVxlan_attached {vpc : RecoveryVpc} (h : MadeVxlan input kernelNames (vxlanName vpc.id)) :
    (recoverVxlan .reliable input kernelNames r vpc).kernel.Attached (vxlanName vpc.id)
      (bridgeName vpc.id) := by
  rw [recoverVxlan_make h]
  refine ⟨{ (r.kernel.links[vxlanName vpc.id]?).getD .new with master := some (bridgeName vpc.id) }, ?_, rfl⟩
  rw [Kernel.links_modifyLink, if_pos rfl, Kernel.links_createLink, if_pos rfl, Option.map_some]

theorem recoverVxlan_keeps {vpc : RecoveryVpc} {vpcId : String}
    (h : r.kernel.Attached (vxlanName vpcId) (bridgeName vpcId)) :
    (recoverVxlan .reliable input kernelNames r vpc).kernel.Attached (vxlanName vpcId)
      (bridgeName vpcId) := by
  by_cases hmade : MadeVxlan input kernelNames (vxlanName vpc.id)
  · by_cases hname : vxlanName vpcId = vxlanName vpc.id
    · rw [hname, bridgeName_eq_of_vxlanName_eq hname]
      exact recoverVxlan_attached hmade
    · obtain ⟨link, hlink, hmaster⟩ := h
      refine ⟨link, ?_, hmaster⟩
      rw [recoverVxlan_make hmade, Kernel.links_modifyLink, if_neg hname, Kernel.links_createLink,
        if_neg hname, hlink]
  · rw [recoverVxlan_skip hmade]
    exact h

/-! ### Orphans -/

def Link.without (gone : String → Bool) (link : Link) : Link :=
  { link with master := link.master.filter fun m => !gone m }

def orphan (names expected : List String) (name : String) : Bool := name ∈ names ∧ name ∉ expected

def Kernel.Cleaned (gone : String → Bool) (k k' : Kernel) : Prop :=
  ∀ name : String, k'.links[name]? = if gone name then none else (k.links[name]?).map (Link.without gone)

theorem Link.without_without (gone more : String → Bool) (link : Link) :
    (link.without gone).without more = link.without fun name => gone name || more name := by
  simp [Link.without, Option.filter_filter]

namespace Kernel.Cleaned

variable {k k' k'' : Kernel} {gone more : String → Bool}

theorem peer (h : k.Cleaned gone k') {name : String} (hpeer : (k.links[name]?).bind Link.peer = none) :
    (k'.links[name]?).bind Link.peer = none := by
  rw [h name]
  split
  · rfl
  · rw [Option.bind_map]
    exact hpeer

theorem trans (h : k.Cleaned gone k') (h' : k'.Cleaned more k'') :
    k.Cleaned (fun name => gone name || more name) k'' := by
  intro name
  rw [h' name, h name]
  cases hgone : gone name with
  | true => simp [hgone]
  | false =>
      cases hmore : more name with
      | true => simp [hmore]
      | false =>
          simp only [hgone, hmore, Bool.false_eq_true, if_false, Bool.or_self, Option.map_map]
          congr 1
          funext link
          exact Link.without_without gone more link

end Kernel.Cleaned

theorem cleaned_cleanOrphans (delete : String → NetworkOp)
    (hdelete : ∀ name k, (delete name).run k = k.deleteLink name) (expected names : List String)
    (hpeers : ∀ name ∈ names, (r.kernel.links[name]?).bind Link.peer = none) :
    r.kernel.Cleaned (orphan names expected)
      (names.foldl (cleanOrphan .reliable delete expected) r).kernel := by
  induction names generalizing r with
  | nil =>
      have hkeep : Link.without (orphan [] expected) = id := by
        funext link
        rcases link with ⟨_ | m, addresses, peer⟩ <;> simp [Link.without, orphan]
      intro name
      simp [hkeep, orphan]
  | cons name names ih =>
      obtain ⟨hpeer, hpeers⟩ := List.forall_mem_cons.mp hpeers
      by_cases hexpected : name ∈ expected
      · -- the name is kept, so the orphans are those among the rest
        have hsame : orphan (name :: names) expected = orphan names expected := by
          funext n
          by_cases hn : n = name <;> simp [orphan, hn, hexpected]
        rw [hsame, List.foldl_cons, cleanOrphan, if_pos hexpected]
        exact ih hpeers
      · have hsplit : orphan (name :: names) expected = fun n => n == name || orphan names expected n := by
          funext n
          by_cases hn : n = name <;> simp [orphan, hn, hexpected]
        have hfirst : r.kernel.Cleaned (· == name) (cleanOrphan .reliable delete expected r name).kernel := by
          intro other
          have hstep : (cleanOrphan .reliable delete expected r name).kernel = r.kernel.deleteLink name := by
            rw [cleanOrphan, if_neg hexpected]
            exact hdelete name r.kernel
          simp only [hstep, Kernel.links_deleteLink hpeer, beq_iff_eq]
          rfl
        rw [hsplit, List.foldl_cons]
        exact hfirst.trans (ih fun n hn => hfirst.peer (hpeers n hn))

/-! ### The whole recovery -/

variable (input) (k : Kernel)

def rebuilt : Kernel :=
  (input.vpcs.foldl (recoverVxlan .reliable input (k.listInterfaces vxlanPrefix))
    (input.vpcs.foldl (recoverBridge .reliable input (k.listInterfaces bridgePrefix))
      ⟨k, ⟨0, 0, 0, 0, 0⟩⟩)).kernel

def orphaned (name : String) : Bool :=
  orphan (k.listInterfaces bridgePrefix) input.expectedBridges name ||
    orphan (k.listInterfaces vxlanPrefix) input.expectedVxlans name ||
    orphan (k.listInterfaces tapPrefix) input.expectedTaps name

/-- Bridges, tunnels and the devices of VMs are not ends of pairs. -/
def Kernel.Plain (k : Kernel) : Prop :=
  ∀ name : String, (Text.startsWith name bridgePrefix ∨ Text.startsWith name vxlanPrefix ∨
    Text.startsWith name tapPrefix) → (k.links[name]?).bind Link.peer = none

variable {input k}

theorem mem_listInterfaces {start name : String} :
    name ∈ k.listInterfaces start ↔ name ∈ k.links ∧ Text.startsWith name start = true := by
  rw [Kernel.listInterfaces, List.mem_filter, Std.ExtTreeMap.mem_keys]

theorem rebuilt_sameOutside : k.SameOutside (fun name =>
    MadeBridge input (k.listInterfaces bridgePrefix) name ∨
      MadeVxlan input (k.listInterfaces vxlanPrefix) name) (rebuilt input k) := by
  refine Pass.invariant (P := fun r : Recovery => k.SameOutside _ r.kernel) ?_ ?_
  · intro r vpc _ hr
    exact hr.trans ((recoverVxlan_sameOutside vpc).mono fun _ => Or.inr)
  · refine Pass.invariant (P := fun r : Recovery => k.SameOutside _ r.kernel) ?_ (.refl _ _)
    intro r vpc _ hr
    exact hr.trans ((recoverBridge_sameOutside vpc).mono fun _ => Or.inl)

theorem links_reapplyVmRules (r : Recovery) (p : RecoveryPlacement) :
    (reapplyVmRules .reliable r p).kernel.links = r.kernel.links :=
  rfl

theorem links_reapplyNat (r : Recovery) (subnet : RecoverySubnet) :
    (reapplyNat .reliable input r subnet).kernel.links = r.kernel.links := by
  rw [reapplyNat]
  split <;> rfl

theorem links_rebuildFdb (r : Recovery) (p : RecoveryPlacement) :
    (rebuildFdb .reliable input r p).kernel.links = r.kernel.links := by
  by_cases hlocal : p.vpcId ∉ input.localVpcIds
  · rw [rebuildFdb, if_pos hlocal]
  · rw [rebuildFdb, if_neg hlocal]
    simp only [perform_reliable, NetworkOp.run]

theorem links_refresh (r : Recovery) (vms remotes : List RecoveryPlacement) (subnets : List RecoverySubnet) :
    (remotes.foldl (rebuildFdb .reliable input)
      (subnets.foldl (reapplyNat .reliable input) (vms.foldl (reapplyVmRules .reliable) r))).kernel.links =
      r.kernel.links := calc
  _ = (subnets.foldl (reapplyNat .reliable input) (vms.foldl (reapplyVmRules .reliable) r)).kernel.links :=
    Pass.unchanged (f := fun r : Recovery => r.kernel.links) fun r p _ => links_rebuildFdb r p
  _ = (vms.foldl (reapplyVmRules .reliable) r).kernel.links :=
    Pass.unchanged (f := fun r : Recovery => r.kernel.links) fun r s _ => links_reapplyNat r s
  _ = r.kernel.links :=
    Pass.unchanged (f := fun r : Recovery => r.kernel.links) fun r p _ => links_reapplyVmRules r p

/-- **What is left** after a recovery is what was made and what was there, without the orphans. -/
theorem links_recoverNetwork (hplain : k.Plain) :
    (rebuilt input k).Cleaned (orphaned input k) (recoverNetwork .reliable input k).kernel := by
  obtain ⟨r, hr, hresult⟩ : ∃ r : Recovery, r.kernel.links = (rebuilt input k).links ∧
      recoverNetwork .reliable input k =
        (k.listInterfaces tapPrefix).foldl (cleanOrphan .reliable .deleteTap input.expectedTaps)
          ((k.listInterfaces vxlanPrefix).foldl (cleanOrphan .reliable .deleteVxlan input.expectedVxlans)
            ((k.listInterfaces bridgePrefix).foldl
              (cleanOrphan .reliable .deleteBridge input.expectedBridges) r)) :=
    ⟨_, links_refresh _ _ _ _, rfl⟩
  have hpeer : ∀ n : String, (Text.startsWith n bridgePrefix ∨ Text.startsWith n vxlanPrefix ∨
      Text.startsWith n tapPrefix) → (r.kernel.links[n]?).bind Link.peer = none := by
    intro n hn
    rw [hr]
    exact rebuilt_sameOutside.peers n (hplain n hn)
  have hbridges := cleaned_cleanOrphans (r := r) .deleteBridge (fun _ _ => rfl) input.expectedBridges
    (k.listInterfaces bridgePrefix) fun n hn => hpeer n (.inl (mem_listInterfaces.mp hn).2)
  have hvxlans := cleaned_cleanOrphans .deleteVxlan (fun _ _ => rfl) input.expectedVxlans
    (k.listInterfaces vxlanPrefix)
    fun n hn => hbridges.peer (hpeer n (.inr (.inl (mem_listInterfaces.mp hn).2)))
  have htaps := cleaned_cleanOrphans .deleteTap (fun _ _ => rfl) input.expectedTaps
    (k.listInterfaces tapPrefix)
    fun n hn => (hbridges.trans hvxlans).peer (hpeer n (.inr (.inr (mem_listInterfaces.mp hn).2)))
  have hall := (hbridges.trans hvxlans).trans htaps
  rw [hresult]
  intro name
  rw [← hr]
  exact hall name

/-- **Connectivity**: every VPC with a local placement has its bridge, the addresses of its subnets on
the bridge and its tunnel attached to the bridge, and there are no other bridges, tunnels or devices of
VMs than those with a local placement. -/
structure Recovered (input : RecoveryInput) (k : Kernel) : Prop where
  bridge : ∀ vpc ∈ input.vpcs, vpc.id ∈ input.localVpcIds →
    k.Has (bridgeName vpc.id) (gateways input vpc.id)
  vxlan : ∀ vpc ∈ input.vpcs, vpc.id ∈ input.localVpcIds →
    k.Attached (vxlanName vpc.id) (bridgeName vpc.id)
  bridges : ∀ name ∈ k.links, Text.startsWith name bridgePrefix → name ∈ input.expectedBridges
  vxlans : ∀ name ∈ k.links, Text.startsWith name vxlanPrefix → name ∈ input.expectedVxlans
  taps : ∀ name ∈ k.links, Text.startsWith name tapPrefix → name ∈ input.expectedTaps

/-- What must be true of the interfaces that have survived: such a bridge has its addresses, and such a
tunnel is attached. -/
def Intact (input : RecoveryInput) (k : Kernel) : Prop :=
  ∀ vpc ∈ input.vpcs, vpc.id ∈ input.localVpcIds →
    (bridgeName vpc.id ∈ k.links → k.Has (bridgeName vpc.id) (gateways input vpc.id)) ∧
    (vxlanName vpc.id ∈ k.links → k.Attached (vxlanName vpc.id) (bridgeName vpc.id))

theorem startsWith_of_mem_expectedBridges {name : String} (h : name ∈ input.expectedBridges) :
    Text.startsWith name bridgePrefix = true := by
  obtain ⟨vpcId, -, rfl⟩ := List.mem_map.mp h
  exact bridgeName_startsWith vpcId

theorem startsWith_of_mem_expectedVxlans {name : String} (h : name ∈ input.expectedVxlans) :
    Text.startsWith name vxlanPrefix = true := by
  obtain ⟨vpcId, -, rfl⟩ := List.mem_map.mp h
  exact vxlanName_startsWith vpcId

theorem orphan_eq_false_of_expected {names expected : List String} {name : String} (h : name ∈ expected) :
    orphan names expected name = false := by
  simp [orphan, h]

theorem orphan_eq_false_of_startsWith {start name : String} {expected : List String}
    (h : Text.startsWith name start = false) : orphan (k.listInterfaces start) expected name = false := by
  simp [orphan, mem_listInterfaces, h]

theorem orphaned_bridgeName {vpcId : String} (h : vpcId ∈ input.localVpcIds) :
    orphaned input k (bridgeName vpcId) = false := by
  have hexpected : bridgeName vpcId ∈ input.expectedBridges := List.mem_map_of_mem h
  have hvxlan : Text.startsWith (bridgeName vpcId) vxlanPrefix = false :=
    Text.not_startsWith_of_startsWith (bridgeName_startsWith vpcId) (by decide) (by decide)
  have htap : Text.startsWith (bridgeName vpcId) tapPrefix = false :=
    Text.not_startsWith_of_startsWith (bridgeName_startsWith vpcId) (by decide) (by decide)
  rw [orphaned, orphan_eq_false_of_expected hexpected, orphan_eq_false_of_startsWith hvxlan,
    orphan_eq_false_of_startsWith htap]
  rfl

theorem orphaned_vxlanName {vpcId : String} (h : vpcId ∈ input.localVpcIds) :
    orphaned input k (vxlanName vpcId) = false := by
  have hexpected : vxlanName vpcId ∈ input.expectedVxlans := List.mem_map_of_mem h
  have hbridge : Text.startsWith (vxlanName vpcId) bridgePrefix = false :=
    Text.not_startsWith_of_startsWith (vxlanName_startsWith vpcId) (by decide) (by decide)
  have htap : Text.startsWith (vxlanName vpcId) tapPrefix = false :=
    Text.not_startsWith_of_startsWith (vxlanName_startsWith vpcId) (by decide) (by decide)
  rw [orphaned, orphan_eq_false_of_expected hexpected, orphan_eq_false_of_startsWith hbridge,
    orphan_eq_false_of_startsWith htap]
  rfl

section Cleaned

variable {k' : Kernel} {gone : String → Bool} {name bridge : String}

theorem Kernel.Cleaned.has_iff (h : k.Cleaned gone k') (hname : gone name = false)
    {addresses : List (String × ℕ)} : k'.Has name addresses ↔ k.Has name addresses := by
  have hlinks := h name
  rw [hname, if_neg Bool.false_ne_true] at hlinks
  rw [Kernel.Has, Kernel.Has, hlinks]
  cases k.links[name]? with
  | none => simp
  | some link => simp [Link.without]

theorem Kernel.Cleaned.attached_iff (h : k.Cleaned gone k') (hname : gone name = false)
    (hbridge : gone bridge = false) : k'.Attached name bridge ↔ k.Attached name bridge := by
  have hlinks := h name
  rw [hname, if_neg Bool.false_ne_true] at hlinks
  rw [Kernel.Attached, Kernel.Attached, hlinks]
  cases k.links[name]? with
  | none => simp
  | some link => simp [Link.without, Option.filter_eq_some_iff, hbridge]

end Cleaned

/-! ### What was made -/

theorem rebuilt_of_not_made {name : String} (hbridge : ¬ MadeBridge input (k.listInterfaces bridgePrefix) name)
    (hvxlan : ¬ MadeVxlan input (k.listInterfaces vxlanPrefix) name) :
    (rebuilt input k).links[name]? = k.links[name]? :=
  rebuilt_sameOutside.others name (not_or.mpr ⟨hbridge, hvxlan⟩)

theorem not_madeVxlan_of_bridge {name : String} {names : List String} (h : Text.startsWith name bridgePrefix = true) :
    ¬ MadeVxlan input names name := by
  intro hmade
  have hother : Text.startsWith name vxlanPrefix = false := Text.not_startsWith_of_startsWith h (by decide) (by decide)
  rw [startsWith_of_mem_expectedVxlans hmade.1] at hother
  exact absurd hother (by decide)

theorem not_madeBridge_of_vxlan {name : String} {names : List String} (h : Text.startsWith name vxlanPrefix = true) :
    ¬ MadeBridge input names name := by
  intro hmade
  have hother : Text.startsWith name bridgePrefix = false := Text.not_startsWith_of_startsWith h (by decide) (by decide)
  rw [startsWith_of_mem_expectedBridges hmade.1] at hother
  exact absurd hother (by decide)

theorem rebuilt_bridge {vpc : RecoveryVpc} (hvpc : vpc ∈ input.vpcs) (hlocal : vpc.id ∈ input.localVpcIds) :
    (rebuilt input k).Has (bridgeName vpc.id) (gateways input vpc.id) ↔
      (bridgeName vpc.id ∈ k.links → k.Has (bridgeName vpc.id) (gateways input vpc.id)) := by
  have hstarts := bridgeName_startsWith vpc.id
  by_cases hheld : bridgeName vpc.id ∈ k.links
  · have hsame : (rebuilt input k).links[bridgeName vpc.id]? = k.links[bridgeName vpc.id]? :=
      rebuilt_of_not_made (fun hmade => hmade.2 (mem_listInterfaces.mpr ⟨hheld, hstarts⟩))
        (not_madeVxlan_of_bridge hstarts)
    rw [Kernel.Has, Kernel.Has, hsame]
    exact ⟨fun h _ => h, fun h => h hheld⟩
  · refine ⟨fun _ hcontra => absurd hcontra hheld, fun _ => ?_⟩
    have hmade : MadeBridge input (k.listInterfaces bridgePrefix) (bridgeName vpc.id) :=
      ⟨List.mem_map_of_mem hlocal, fun hmem => hheld (mem_listInterfaces.mp hmem).1⟩
    -- made in the first pass, and the second one touches tunnels only
    refine Pass.invariant (P := fun r : Recovery => r.kernel.Has _ _) ?_
      (Pass.reached (P := fun r : Recovery => r.kernel.Has _ _) hvpc (fun r => recoverBridge_has hmade)
        fun r other _ hr => recoverBridge_keeps hr)
    rintro r other - ⟨link, hlink, haddresses⟩
    refine ⟨link, ?_, haddresses⟩
    rw [(recoverVxlan_sameOutside other).others _ (not_madeVxlan_of_bridge hstarts), hlink]

theorem rebuilt_vxlan {vpc : RecoveryVpc} (hvpc : vpc ∈ input.vpcs) (hlocal : vpc.id ∈ input.localVpcIds) :
    (rebuilt input k).Attached (vxlanName vpc.id) (bridgeName vpc.id) ↔
      (vxlanName vpc.id ∈ k.links → k.Attached (vxlanName vpc.id) (bridgeName vpc.id)) := by
  have hstarts := vxlanName_startsWith vpc.id
  by_cases hheld : vxlanName vpc.id ∈ k.links
  · have hsame : (rebuilt input k).links[vxlanName vpc.id]? = k.links[vxlanName vpc.id]? :=
      rebuilt_of_not_made (not_madeBridge_of_vxlan hstarts)
        fun hmade => hmade.2 (mem_listInterfaces.mpr ⟨hheld, hstarts⟩)
    rw [Kernel.Attached, Kernel.Attached, hsame]
    exact ⟨fun h _ => h, fun h => h hheld⟩
  · refine ⟨fun _ hcontra => absurd hcontra hheld, fun _ => ?_⟩
    have hmade : MadeVxlan input (k.listInterfaces vxlanPrefix) (vxlanName vpc.id) :=
      ⟨List.mem_map_of_mem hlocal, fun hmem => hheld (mem_listInterfaces.mp hmem).1⟩
    exact Pass.reached (P := fun r : Recovery => r.kernel.Attached _ _) hvpc
      (fun r => recoverVxlan_attached hmade) fun r other _ hr => recoverVxlan_keeps hr

theorem mem_links_of_cleaned {k' : Kernel} {gone : String → Bool} {name : String} (h : k.Cleaned gone k')
    (hmem : name ∈ k'.links) : gone name = false ∧ name ∈ k.links := by
  rw [Std.ExtTreeMap.mem_iff_isSome_getElem?, h name] at hmem
  cases hgone : gone name with
  | true => simp [hgone] at hmem
  | false =>
      rw [hgone, if_neg Bool.false_ne_true, Option.isSome_map, ← Std.ExtTreeMap.mem_iff_isSome_getElem?] at hmem
      exact ⟨rfl, hmem⟩

theorem mem_links_rebuilt {name : String} (hmem : name ∈ (rebuilt input k).links) :
    name ∈ k.links ∨ name ∈ input.expectedBridges ∨ name ∈ input.expectedVxlans := by
  by_cases hbridge : MadeBridge input (k.listInterfaces bridgePrefix) name
  · exact .inr (.inl hbridge.1)
  · by_cases hvxlan : MadeVxlan input (k.listInterfaces vxlanPrefix) name
    · exact .inr (.inr hvxlan.1)
    · refine .inl ?_
      rw [Std.ExtTreeMap.mem_iff_isSome_getElem?, rebuilt_of_not_made hbridge hvxlan,
        ← Std.ExtTreeMap.mem_iff_isSome_getElem?] at hmem
      exact hmem

theorem orphan_eq_false_iff {names expected : List String} {name : String} :
    orphan names expected name = false ↔ (name ∈ names → name ∈ expected) := by
  simp [orphan]

theorem no_orphans (hplain : k.Plain) {name : String}
    (hmem : name ∈ (recoverNetwork .reliable input k).kernel.links) :
    (Text.startsWith name bridgePrefix → name ∈ input.expectedBridges) ∧
    (Text.startsWith name vxlanPrefix → name ∈ input.expectedVxlans) ∧
    (Text.startsWith name tapPrefix → name ∈ input.expectedTaps) := by
  obtain ⟨hkept, hrebuilt⟩ := mem_links_of_cleaned (links_recoverNetwork hplain) hmem
  simp only [orphaned, Bool.or_eq_false_iff, orphan_eq_false_iff, mem_listInterfaces] at hkept
  obtain ⟨⟨hbridge, hvxlan⟩, htap⟩ := hkept
  rcases mem_links_rebuilt hrebuilt with hheld | hexpected | hexpected
  · exact ⟨fun hstarts => hbridge ⟨hheld, hstarts⟩, fun hstarts => hvxlan ⟨hheld, hstarts⟩,
      fun hstarts => htap ⟨hheld, hstarts⟩⟩
  · have hstarts := startsWith_of_mem_expectedBridges hexpected
    have hnot : Text.startsWith name vxlanPrefix = false := Text.not_startsWith_of_startsWith hstarts (by decide) (by decide)
    have hnot' : Text.startsWith name tapPrefix = false := Text.not_startsWith_of_startsWith hstarts (by decide) (by decide)
    exact ⟨fun _ => hexpected, fun h => by simp [hnot] at h, fun h => by simp [hnot'] at h⟩
  · have hstarts := startsWith_of_mem_expectedVxlans hexpected
    have hnot : Text.startsWith name bridgePrefix = false := Text.not_startsWith_of_startsWith hstarts (by decide) (by decide)
    have hnot' : Text.startsWith name tapPrefix = false := Text.not_startsWith_of_startsWith hstarts (by decide) (by decide)
    exact ⟨fun h => by simp [hnot] at h, fun _ => hexpected, fun h => by simp [hnot'] at h⟩

/-- **Recovery.** With a backend that does everything, the recovery brings back connectivity just in
case the interfaces that had survived were intact. -/
theorem recoverNetwork_recovers_iff (hplain : k.Plain) :
    Recovered input (recoverNetwork .reliable input k).kernel ↔ Intact input k := by
  have hcleaned : (rebuilt input k).Cleaned (orphaned input k) (recoverNetwork .reliable input k).kernel :=
    links_recoverNetwork hplain
  have hbridge : ∀ vpc ∈ input.vpcs, vpc.id ∈ input.localVpcIds →
      ((recoverNetwork .reliable input k).kernel.Has (bridgeName vpc.id) (gateways input vpc.id) ↔
        (bridgeName vpc.id ∈ k.links → k.Has (bridgeName vpc.id) (gateways input vpc.id))) :=
    fun vpc hvpc hlocal => (hcleaned.has_iff (orphaned_bridgeName hlocal)).trans (rebuilt_bridge hvpc hlocal)
  have hvxlan : ∀ vpc ∈ input.vpcs, vpc.id ∈ input.localVpcIds →
      ((recoverNetwork .reliable input k).kernel.Attached (vxlanName vpc.id) (bridgeName vpc.id) ↔
        (vxlanName vpc.id ∈ k.links → k.Attached (vxlanName vpc.id) (bridgeName vpc.id))) :=
    fun vpc hvpc hlocal => (hcleaned.attached_iff (orphaned_vxlanName hlocal)
      (orphaned_bridgeName hlocal)).trans (rebuilt_vxlan hvpc hlocal)
  constructor
  · intro h vpc hvpc hlocal
    exact ⟨(hbridge vpc hvpc hlocal).mp (h.bridge vpc hvpc hlocal),
      (hvxlan vpc hvpc hlocal).mp (h.vxlan vpc hvpc hlocal)⟩
  · intro h
    exact
      { bridge := fun vpc hvpc hlocal => (hbridge vpc hvpc hlocal).mpr (h vpc hvpc hlocal).1
        vxlan := fun vpc hvpc hlocal => (hvxlan vpc hvpc hlocal).mpr (h vpc hvpc hlocal).2
        bridges := fun name hmem => (no_orphans hplain hmem).1
        vxlans := fun name hmem => (no_orphans hplain hmem).2.1
        taps := fun name hmem => (no_orphans hplain hmem).2.2 }

def oneVm : RecoveryInput where
  vpcs := [⟨"vpc-1", 100⟩]
  subnets := [⟨"vpc-1", "10.0.0.0/24", "10.0.0.1"⟩]
  placements := [⟨"vpc-1", "vm-1", "02:00:0a:00:00:03", "10.0.0.3", "node-1"⟩]
  localNode := "node-1"
  localIp := "fd00::1"

theorem recoverNetwork_recovers_after_reboot :
    Kernel.empty.Plain ∧ Recovered oneVm (recoverNetwork .reliable oneVm .empty).kernel := by
  have hplain : Kernel.empty.Plain := fun name _ => rfl
  refine ⟨hplain, (recoverNetwork_recovers_iff hplain).mpr fun vpc _ _ => ⟨?_, ?_⟩⟩
  · exact fun hmem => absurd hmem Std.ExtTreeMap.not_mem_empty
  · exact fun hmem => absurd hmem Std.ExtTreeMap.not_mem_empty

/-- The tunnel has survived and its bridge has not. -/
def bridgeGone : Kernel := Kernel.empty.createLink (vxlanName "vpc-1") .new

theorem recoverNetwork_leaves_vxlan_detached :
    bridgeGone.Plain ∧ ¬ Recovered oneVm (recoverNetwork .reliable oneVm bridgeGone).kernel := by
  have hheld : bridgeGone.links[vxlanName "vpc-1"]? = some .new := by
    rw [bridgeGone, Kernel.links_createLink, if_pos rfl]
    rfl
  have hplain : bridgeGone.Plain := by
    intro name _
    rw [bridgeGone, Kernel.links_createLink]
    split <;> rfl
  refine ⟨hplain, fun h => ?_⟩
  have hattached := h.vxlan ⟨"vpc-1", 100⟩ (List.mem_singleton_self _) (by decide)
  rw [(links_recoverNetwork hplain).attached_iff (orphaned_vxlanName (by decide))
    (orphaned_bridgeName (by decide)), rebuilt_vxlan (List.mem_singleton_self _) (by decide)] at hattached
  obtain ⟨link, hlink, hmaster⟩ := hattached (Std.ExtTreeMap.mem_iff_isSome_getElem?.mpr (by rw [hheld]; rfl))
  rw [hheld] at hlink
  obtain rfl := Option.some_inj.mp hlink
  cases hmaster

end Overlay

end Syfrah

