import Syfrah.Lib.Pass
import Syfrah.Overlay.Reconcile

/-!
# Passes of the reconciliation and the forward chain

A pass only adds to the forward chain, apart from the first one, which may delete rules with the pairs
of old peerings. Each pass adds the rules of the bridges, then the protection of the ports of the
infrastructure, and both once more in the next pass: the chain grows, and the rules of a bridge stand in
front of the protection.
-/

namespace Syfrah

namespace Overlay

/-! ### What a step adds -/

def Kernel.Detached (expected : List String) (k : Kernel) : Prop :=
  ∀ (name : String) (link : Link), k.links[name]? = some link → Text.startsWith name peerStartA →
    name ∈ expected ∨ link.master = none

structure Kernel.Grows (expected : List String) (added : List ForwardRule) (k k' : Kernel) : Prop where
  forward : k'.forward = k.forward ++ added
  detached : k.Detached expected → k'.Detached expected

variable {expected : List String} {added more : List ForwardRule} {k k' k'' : Kernel}

namespace Kernel.Grows

theorem refl (expected : List String) (k : Kernel) : k.Grows expected [] k :=
  ⟨(List.append_nil _).symm, id⟩

theorem trans (h : k.Grows expected added k') (h' : k'.Grows expected more k'') :
    k.Grows expected (added ++ more) k'' where
  forward := by rw [h'.forward, h.forward, List.append_assoc]
  detached := h'.detached ∘ h.detached

theorem addRules (expected : List String) (rules : List ForwardRule) (k : Kernel) :
    k.Grows expected rules (k.addRules rules) :=
  ⟨rfl, id⟩

theorem of_eq (hforward : k'.forward = k.forward) (hlinks : k'.links = k.links) : k.Grows expected [] k' where
  forward := by rw [hforward, List.append_nil]
  detached hdetached := by
    rw [Kernel.Detached, hlinks]
    exact hdetached

theorem foldl {A : Type} {rules : A → List ForwardRule} {step : ReconcilePass → A → ReconcilePass}
    {elements : List A} (hstep : ∀ (p : ReconcilePass), ∀ a ∈ elements, p.kernel.Grows expected (rules a) (step p a).kernel)
    (p : ReconcilePass) : p.kernel.Grows expected (elements.flatMap rules) (elements.foldl step p).kernel := by
  induction elements generalizing p with
  | nil => exact .refl expected p.kernel
  | cons a elements ih =>
      rw [List.flatMap_cons, List.foldl_cons]
      refine (hstep p a List.mem_cons_self).trans (ih (fun p b hb => ?_) (step p a))
      exact hstep p b (List.mem_cons_of_mem a hb)

theorem createLink (expected : List String) (name : String) {link : Link} (hlink : link.master = none)
    (k : Kernel) : k.Grows expected [] (k.createLink name link) where
  forward := by
    rw [Kernel.createLink, List.append_nil]
    split <;> rfl
  detached hdetached other held hheld hstarts := by
    rw [Kernel.links_createLink] at hheld
    split at hheld
    · rename_i heq
      subst heq
      cases hold : k.links[other]? with
      | none =>
          rw [hold, Option.getD_none] at hheld
          exact .inr (Option.some_inj.mp hheld ▸ hlink)
      | some link' =>
          rw [hold, Option.getD_some] at hheld
          exact hdetached other held (hold.trans hheld) hstarts
    · exact hdetached other held hheld hstarts

theorem attach {iface : String} (hiface : Text.startsWith iface peerStartA → iface ∈ expected)
    (bridge : String) (k : Kernel) :
    k.Grows expected [] ((NetworkOp.attachToBridge iface bridge).run k) where
  forward := by
    change (k.modifyLink iface _).forward = _
    rw [Kernel.modifyLink, List.append_nil]
    split <;> rfl
  detached hdetached other held hheld hstarts := by
    change (k.modifyLink iface _).links[other]? = _ at hheld
    rw [Kernel.links_modifyLink] at hheld
    split at hheld
    · rename_i heq
      exact .inl (heq ▸ hiface (heq ▸ hstarts))
    · exact hdetached other held hheld hstarts

end Kernel.Grows

/-! ### Up to the peerings -/

variable (state : NetworkState)

def passRules : List ForwardRule :=
  (state.bridges.flatMap fun bridge => generateBridgeAcceptRules bridge.name) ++ generateInfraProtection ++
    state.vmRules.flatMap fun (tap, mac, ip) => vmRules tap mac ip

theorem grows_checkBridges (expected : List String) (p : ReconcilePass) :
    p.kernel.Grows expected (state.bridges.flatMap fun bridge => generateBridgeAcceptRules bridge.name)
      (checkBridges .reliable state p).kernel := by
  refine Kernel.Grows.foldl (fun p bridge _ => ?_) p
  simp only [checkBridge]
  split
  · exact .addRules expected _ _
  · exact (Kernel.Grows.createLink expected bridge.name rfl p.kernel).trans (.addRules expected _ _)

theorem grows_reapplyRules (expected : List String) (p : ReconcilePass) :
    p.kernel.Grows expected (state.vmRules.flatMap fun (tap, mac, ip) => vmRules tap mac ip)
      (reapplyRules .reliable state p).kernel :=
  Kernel.Grows.foldl (fun p _ _ => .addRules expected _ p.kernel) p

theorem kernel_checkTaps (p : ReconcilePass) : (checkTaps .reliable state p).kernel = p.kernel := by
  refine Pass.unchanged (f := ReconcilePass.kernel) fun p vm _ => ?_
  split <;> rfl

theorem kernel_warnOrphans (start kind : String) (names : List String) (p : ReconcilePass) :
    (warnOrphans .reliable start kind names p).kernel = p.kernel := by
  refine Pass.unchanged (f := ReconcilePass.kernel) fun p name _ => ?_
  split <;> rfl

def beforePeerings (order : HashOrder) (k : Kernel) : ReconcilePass :=
  let p : ReconcilePass := ⟨k, ⟨0, 0, 0, 0, 0, 0, 0, 0, []⟩⟩
  let p := checkTaps .reliable state (checkBridges .reliable state p)
  let p := p.attempt .reliable .enableBrNetfilter id "br_netfilter re-enable failed"
  let p := p.attempt .reliable .applyInfraProtection id "infra protection re-apply failed"
  let p := p.attempt .reliable .applySgBaseChain id "SG base chain re-apply failed"
  let p := detectOrphanedIps state (reapplyRules .reliable state p)
  reconcileFdb .reliable state order (reconcileSgChains state (detectOrphanedInterfaces .reliable state p))

theorem grows_beforePeerings (expected : List String) (order : HashOrder) (k : Kernel) :
    k.Grows expected (passRules state) (beforePeerings state order k).kernel := by
  let start : ReconcilePass := ⟨k, ⟨0, 0, 0, 0, 0, 0, 0, 0, []⟩⟩
  let checked := checkTaps .reliable state (checkBridges .reliable state start)
  let protectedPass := (checked.attempt .reliable .enableBrNetfilter id "br_netfilter re-enable failed").attempt
    .reliable .applyInfraProtection id "infra protection re-apply failed"
  have hbridges : k.Grows expected _ checked.kernel :=
    kernel_checkTaps state (checkBridges .reliable state start) ▸ grows_checkBridges state expected start
  have hinfra := hbridges.trans (.addRules expected generateInfraProtection checked.kernel)
  let reapplied := reapplyRules .reliable state
    (protectedPass.attempt .reliable .applySgBaseChain id "SG base chain re-apply failed")
  have hvms := hinfra.trans (grows_reapplyRules state expected
    (protectedPass.attempt .reliable .applySgBaseChain id "SG base chain re-apply failed"))
  have hwarned : (detectOrphanedInterfaces .reliable state (detectOrphanedIps state reapplied)).kernel =
      reapplied.kernel :=
    (kernel_warnOrphans ..).trans (kernel_warnOrphans ..)
  have hlast : reapplied.kernel.Grows expected [] (beforePeerings state order k).kernel :=
    .of_eq (by rw [← hwarned]; rfl) (by rw [← hwarned]; rfl)
  have hall := hvms.trans hlast
  rw [List.append_nil] at hall
  exact hall

/-! ### Peerings -/

variable {state}

theorem peerNameB_not_startsWith (peeringId : String) :
    Text.startsWith (peerNameB peeringId) peerStartA = false := by
  have hstarts : Text.startsWith (peerNameB peeringId) peerStartB = true := by
    rw [peerNameB, peerStartB]
    exact Text.startsWith_append _ _
  exact Text.not_startsWith_of_startsWith hstarts (by decide) (by decide)

theorem grows_createVethPeer {peeringId bridgeA bridgeB : String} (hexpected : peerNameA peeringId ∈ expected)
    (k : Kernel) : k.Grows expected (peeringRules bridgeA bridgeB)
      (createVethPeer .reliable peeringId bridgeA bridgeB k).2 := by
  have hpair : k.Grows expected [] ((NetworkOp.createVethPair (peerNameA peeringId) (peerNameB peeringId)).run k) := by
    rw [NetworkOp.run]
    split
    · exact .refl expected k
    · exact (Kernel.Grows.createLink expected _ rfl k).trans (.createLink expected _ rfl _)
  have hattachB : Text.startsWith (peerNameB peeringId) peerStartA → peerNameB peeringId ∈ expected := by
    intro hstarts
    rw [peerNameB_not_startsWith] at hstarts
    cases hstarts
  exact ((hpair.trans (.attach (fun _ => hexpected) bridgeA _)).trans (.attach hattachB bridgeB _)).trans
    (.addRules expected _ _)

theorem grows_wirePeering {peering : ExpectedPeering} (hexpected : peerNameA peering.peeringId ∈ expected)
    (p : ReconcilePass) : ∃ added, p.kernel.Grows expected added (wirePeering .reliable p peering).kernel := by
  have hlist : NetworkBackend.reliable.listInterfaces peerPrefix p.kernel =
      .ok (p.kernel.listInterfaces peerPrefix) := rfl
  have hcreate : createVethPeer .reliable peering.peeringId peering.bridgeA peering.bridgeB p.kernel =
      (none, (createVethPeer .reliable peering.peeringId peering.bridgeA peering.bridgeB p.kernel).2) := rfl
  simp only [wirePeering, hlist]
  split
  · exact ⟨[], .refl expected _⟩
  · split
    · exact ⟨_, .addRules expected _ _⟩
    · rw [hcreate]
      exact ⟨_, grows_createVethPeer hexpected p.kernel⟩

theorem of_links_deleteLink {name other : String} {link : Link}
    (h : (k.deleteLink name).links[other]? = some link) :
    other ≠ name ∧ ∃ held, k.links[other]? = some held ∧ (held.master = none → link.master = none) := by
  rw [Kernel.deleteLink] at h
  simp only [Std.ExtTreeMap.getElem?_filterMap'] at h
  obtain ⟨held, hheld, hkept⟩ := Option.bind_eq_some_iff.mp h
  split at hkept
  · cases hkept
  · rename_i hgone
    refine ⟨?_, held, hheld, fun hmaster => ?_⟩
    · rintro rfl
      exact hgone List.mem_cons_self
    · rw [← Option.some_inj.mp hkept, hmaster]
      rfl

/-! ### Old peerings -/

/-- There are no ends of pairs but those that peerings ask for. -/
def Kernel.NoStale (state : NetworkState) (k : Kernel) : Prop :=
  ∀ name ∈ k.links, Text.startsWith name peerStartA → name ∈ expectedPeerA state

theorem Kernel.NoStale.detached (h : k.NoStale state) : k.Detached (expectedPeerA state) := by
  intro name link hlink hstarts
  refine .inl (h name (Std.ExtTreeMap.mem_iff_isSome_getElem?.mpr ?_) hstarts)
  rw [hlink]
  rfl

theorem removeStalePeering_skip {iface : String} {p : ReconcilePass}
    (h : Text.startsWith iface peerStartA → iface ∈ expected) :
    removeStalePeering .reliable expected p iface = p := by
  rw [removeStalePeering, if_pos]
  cases hstarts : Text.startsWith iface peerStartA with
  | false => rfl
  | true => simp [h hstarts]

theorem removeStalePeering_links {iface : String} {p : ReconcilePass} (hstarts : Text.startsWith iface peerStartA)
    (hunexpected : iface ∉ expected) :
    (removeStalePeering .reliable expected p iface).kernel.links = (p.kernel.deleteLink iface).links := by
  rw [removeStalePeering, if_neg (by simp [hstarts, hunexpected])]
  dsimp only
  split <;> rfl

theorem removeStalePeering_forward {iface : String} {p : ReconcilePass} (h : p.kernel.Detached expected) :
    (removeStalePeering .reliable expected p iface).kernel.forward = p.kernel.forward := by
  by_cases hskip : Text.startsWith iface peerStartA → iface ∈ expected
  · rw [removeStalePeering_skip hskip]
  · obtain ⟨hstarts, hunexpected⟩ := Classical.not_imp.mp hskip
    have hmaster : interfaceMaster .reliable p.kernel iface = none := by
      change (p.kernel.links[iface]?).bind Link.master = none
      cases hlink : p.kernel.links[iface]? with
      | none => rfl
      | some link => exact (h iface link hlink hstarts).resolve_left hunexpected
    rw [removeStalePeering, if_neg (by simp [hstarts, hunexpected]), hmaster]
    rfl

theorem mem_links_of_removeStalePeering {iface name : String} {p : ReconcilePass}
    (h : name ∈ (removeStalePeering .reliable expected p iface).kernel.links) : name ∈ p.kernel.links := by
  by_cases hskip : Text.startsWith iface peerStartA → iface ∈ expected
  · rw [removeStalePeering_skip hskip] at h
    exact h
  · obtain ⟨hstarts, hunexpected⟩ := Classical.not_imp.mp hskip
    rw [removeStalePeering_links hstarts hunexpected, Std.ExtTreeMap.mem_iff_isSome_getElem?,
      Option.isSome_iff_exists] at h
    obtain ⟨link, hlink⟩ := h
    obtain ⟨-, held, hheld, -⟩ := of_links_deleteLink hlink
    exact Std.ExtTreeMap.mem_iff_isSome_getElem?.mpr (by rw [hheld]; rfl)

theorem detached_removeStalePeering {iface : String} {p : ReconcilePass} (h : p.kernel.Detached expected) :
    (removeStalePeering .reliable expected p iface).kernel.Detached expected := by
  by_cases hskip : Text.startsWith iface peerStartA → iface ∈ expected
  · rw [removeStalePeering_skip hskip]
    exact h
  · obtain ⟨hstarts, hunexpected⟩ := Classical.not_imp.mp hskip
    rw [Kernel.Detached, removeStalePeering_links hstarts hunexpected]
    intro name link hlink hname
    obtain ⟨-, held, hheld, hmaster⟩ := of_links_deleteLink hlink
    exact (h name held hheld hname).imp_right hmaster

/-! ### Whole passes -/

def wired (state : NetworkState) (order : HashOrder) (k : Kernel) : ReconcilePass :=
  state.peerings.foldl (wirePeering .reliable) (beforePeerings state order k)

theorem reconcileNetwork_wired (order : HashOrder) (k : Kernel) : reconcileNetwork .reliable none order state k =
    ((wired state order k).kernel.listInterfaces peerPrefix).foldl
      (removeStalePeering .reliable (expectedPeerA state)) (wired state order k) :=
  rfl

theorem grows_wired (state : NetworkState) (order : HashOrder) (k : Kernel) : ∃ added,
    k.Grows (expectedPeerA state) (passRules state ++ added) (wired state order k).kernel := by
  have hwire : ∃ added, (beforePeerings state order k).kernel.Grows (expectedPeerA state) added
      (wired state order k).kernel := by
    refine Pass.invariant (P := fun p : ReconcilePass => ∃ added, (beforePeerings state order k).kernel.Grows
      (expectedPeerA state) added p.kernel) ?_ ⟨[], .refl _ _⟩
    rintro p peering hpeering ⟨added, hadded⟩
    have hexpected : peerNameA peering.peeringId ∈ expectedPeerA state :=
      List.mem_map.mpr ⟨peering, hpeering, rfl⟩
    obtain ⟨more, hmore⟩ := grows_wirePeering hexpected p
    exact ⟨added ++ more, hadded.trans hmore⟩
  obtain ⟨added, hadded⟩ := hwire
  exact ⟨added, (grows_beforePeerings state _ order k).trans hadded⟩

theorem noStale_reconcileNetwork (state : NetworkState) (order : HashOrder) (k : Kernel) :
    (reconcileNetwork .reliable none order state k).kernel.NoStale state := by
  intro name hmem hstarts
  by_contra hunexpected
  rw [reconcileNetwork_wired] at hmem
  have hbefore : name ∈ (wired state order k).kernel.links := by
    refine Pass.invariant (P := fun p : ReconcilePass => name ∈ p.kernel.links →
      name ∈ (wired state order k).kernel.links) ?_ id hmem
    exact fun p iface _ hp hnow => hp (mem_links_of_removeStalePeering hnow)
  have hpeer : Text.startsWith name peerPrefix = true := by
    rw [Text.startsWith_iff] at hstarts ⊢
    exact List.IsPrefix.trans (List.isPrefixOf_iff_prefix.mp (by decide)) hstarts
  have hlisted : name ∈ (wired state order k).kernel.listInterfaces peerPrefix := by
    rw [Kernel.listInterfaces, List.mem_filter, Std.ExtTreeMap.mem_keys]
    exact ⟨hbefore, hpeer⟩
  refine Pass.reached (P := fun p : ReconcilePass => name ∉ p.kernel.links) hlisted ?_ ?_ hmem
  · intro p hnow
    rw [removeStalePeering_links hstarts hunexpected, Std.ExtTreeMap.mem_iff_isSome_getElem?,
      Option.isSome_iff_exists] at hnow
    obtain ⟨link, hlink⟩ := hnow
    exact (of_links_deleteLink hlink).1 rfl
  · exact fun p iface _ hp hnow => hp (mem_links_of_removeStalePeering hnow)

/-- **A pass without old pairs** adds its rules at the end. -/
theorem forward_reconcileNetwork (order : HashOrder) (h : k.NoStale state) : ∃ added,
    (reconcileNetwork .reliable none order state k).kernel.forward = k.forward ++ passRules state ++ added := by
  obtain ⟨added, hgrows⟩ := grows_wired state order k
  refine ⟨added, ?_⟩
  rw [reconcileNetwork_wired, List.append_assoc, ← hgrows.forward]
  refine (Pass.invariant (P := fun p : ReconcilePass => p.kernel.Detached (expectedPeerA state) ∧
    p.kernel.forward = (wired state order k).kernel.forward) ?_ ⟨hgrows.detached h.detached, rfl⟩).2
  rintro p iface - ⟨hdetached, hforward⟩
  exact ⟨detached_removeStalePeering hdetached, (removeStalePeering_forward hdetached).trans hforward⟩

def passes (orders : ℕ → HashOrder) (state : NetworkState) (k : Kernel) : ℕ → Kernel
  | 0 => k
  | n + 1 => (reconcileNetwork .reliable none (orders n) state (passes orders state k n)).kernel

theorem noStale_passes (orders : ℕ → HashOrder) {n : ℕ} (hn : 0 < n) : (passes orders state k n).NoStale state := by
  obtain ⟨m, rfl⟩ := Nat.exists_eq_add_of_lt hn
  exact noStale_reconcileNetwork state _ _

theorem forward_passes (orders : ℕ → HashOrder) {n : ℕ} (hn : 0 < n) : ∃ added,
    (passes orders state k (n + 1)).forward = (passes orders state k n).forward ++ passRules state ++ added :=
  forward_reconcileNetwork (orders n) (noStale_passes orders hn)

theorem length_passRules (state : NetworkState) : 5 ≤ (passRules state).length := by
  have hinfra : generateInfraProtection.length = 5 := rfl
  rw [passRules, List.length_append, List.length_append]
  omega

/-! ### The ports -/

def ForwardedPacket.ToInfra (p : ForwardedPacket) : Prop :=
  (p.transport = .udp ∧ (p.dport.val = vxlanPort ∨ p.dport.val = wireguardPort)) ∨
    (p.transport = .tcp ∧ p.dport.val = peeringPort)

theorem drops_of_protection {nft : AddressReading} {p : ForwardedPacket} (hp : p.ToInfra)
    (rest : List ForwardRule) : forwardAccepts nft (generateInfraProtection ++ rest) p = false := by
  have hdrop : PacketFilter.evalRules (ForwardMatch.holds nft p) Empty.elim (generateInfraProtection ++ rest) =
      .drop := by
    rcases hp with ⟨htransport, hport | hport⟩ | ⟨htransport, hport⟩ <;>
      simp [generateInfraProtection, PacketFilter.evalRules, PacketFilter.Rule.matches, ForwardMatch.holds,
        htransport, hport, vxlanPort, wireguardPort, peeringPort]
  rw [forwardAccepts, hdrop]
  rfl

/-- A packet from a VM of a bridge to another one, to the port of the tunnels. -/
def withinBridge (bridge : String) : ForwardedPacket where
  iifname := bridge
  oifname := bridge
  etherType := .ipv4
  ctState := .new
  transport := .udp
  dport := ⟨vxlanPort, by decide⟩
  saddr := 0
  daddr := 0
  smac := ""

theorem accepts_withinBridge (nft : AddressReading) (bridge : String) (rest : List ForwardRule) :
    forwardAccepts nft (generateBridgeAcceptRules bridge ++ rest) (withinBridge bridge) = true := by
  simp [forwardAccepts, generateBridgeAcceptRules, PacketFilter.evalRules, PacketFilter.Rule.matches,
    ForwardMatch.holds, withinBridge]

theorem forward_passes_of_noStale (orders : ℕ → HashOrder) (hempty : k.forward = []) (hstale : k.NoStale state)
    (n : ℕ) : ∃ rest, (passes orders state k (n + 1)).forward = passRules state ++ rest := by
  induction n with
  | zero =>
      obtain ⟨added, hforward⟩ := forward_reconcileNetwork (orders 0) hstale
      rw [hempty, List.nil_append] at hforward
      exact ⟨added, hforward⟩
  | succ n ih =>
      obtain ⟨rest, hrest⟩ := ih
      obtain ⟨added, hforward⟩ : ∃ added, (passes orders state k (n + 1 + 1)).forward =
          (passes orders state k (n + 1)).forward ++ passRules state ++ added :=
        forward_passes orders (Nat.succ_pos n)
      refine ⟨rest ++ passRules state ++ added, ?_⟩
      rw [hforward, hrest]
      simp only [List.append_assoc]

/-- **The chain grows in every pass** after the first, by five rules at least. As long as there are no
old pairs, packets to the ports of the infrastructure are always dropped just in case there are no
bridges. -/
theorem passes_forward (nft : AddressReading) (orders : ℕ → HashOrder) (state : NetworkState) (k : Kernel)
    (hempty : k.forward = []) :
    (∀ n, 0 < n → (passes orders state k n).forward.length + 5 ≤ (passes orders state k (n + 1)).forward.length) ∧
    (k.NoStale state → ((∀ n (p : ForwardedPacket), p.ToInfra →
      forwardAccepts nft (passes orders state k n).forward p = false) ↔ state.bridges = [])) := by
  constructor
  · intro n hn
    obtain ⟨added, hforward⟩ := forward_passes orders hn
    have hrules := length_passRules state
    rw [hforward, List.length_append, List.length_append]
    omega
  · intro hstale
    constructor
    · intro hdrops
      by_contra hbridges
      obtain ⟨bridge, bridges, hcons⟩ := List.exists_cons_of_ne_nil hbridges
      obtain ⟨rest, hforward⟩ := forward_passes_of_noStale orders hempty hstale 0
      have hdropped := hdrops 1 (withinBridge bridge.name) (.inl ⟨rfl, .inl rfl⟩)
      rw [hforward, passRules, hcons, List.flatMap_cons, List.append_assoc, List.append_assoc, List.append_assoc,
        accepts_withinBridge] at hdropped
      cases hdropped
    · intro hbridges n p hp
      cases n with
      | zero =>
          change forwardAccepts nft k.forward p = false
          rw [hempty]
          rfl
      | succ n =>
          obtain ⟨rest, hforward⟩ := forward_passes_of_noStale orders hempty hstale n
          rw [hforward, passRules, hbridges, List.flatMap_nil, List.nil_append, List.append_assoc]
          exact drops_of_protection hp _

def oneBridge : NetworkState := ⟨[⟨"syfb-1", "vpc-1"⟩], [], [], [], 0, [], [], []⟩

theorem noStale_empty (state : NetworkState) : Kernel.empty.NoStale state :=
  fun _ hmem => absurd hmem Std.ExtTreeMap.not_mem_empty

theorem passes_forward_of_one_bridge :
    Kernel.empty.forward = [] ∧ (passes (fun _ => .sorted) oneBridge .empty 1).forward.length + 5 ≤
      (passes (fun _ => .sorted) oneBridge .empty 2).forward.length :=
  ⟨rfl, (passes_forward .strict (fun _ => .sorted) oneBridge .empty rfl).1 1 one_pos⟩

/-- With one bridge the port of the tunnels is open after the first pass, and the second pass makes the
chain longer. -/
theorem passes_open_infra_port :
    (withinBridge "syfb-1").ToInfra ∧
    forwardAccepts .strict (passes (fun _ => .sorted) oneBridge .empty 1).forward (withinBridge "syfb-1") = true ∧
    (passes (fun _ => .sorted) oneBridge .empty 1).forward.length <
      (passes (fun _ => .sorted) oneBridge .empty 2).forward.length := by
  refine ⟨.inl ⟨rfl, .inl rfl⟩, ?_, ?_⟩
  · obtain ⟨rest, hforward⟩ : ∃ rest, (passes (fun _ => .sorted) oneBridge .empty 1).forward =
        passRules oneBridge ++ rest := forward_passes_of_noStale _ rfl (noStale_empty oneBridge) 0
    rw [hforward, passRules, oneBridge, List.flatMap_cons, List.append_assoc, List.append_assoc, List.append_assoc]
    exact accepts_withinBridge ..
  · obtain ⟨added, hforward⟩ : ∃ added, (passes (fun _ => .sorted) oneBridge .empty 2).forward =
        (passes (fun _ => .sorted) oneBridge .empty 1).forward ++ passRules oneBridge ++ added :=
      forward_passes _ one_pos
    have hrules := length_passRules oneBridge
    rw [hforward, List.length_append, List.length_append]
    omega

end Overlay

end Syfrah
