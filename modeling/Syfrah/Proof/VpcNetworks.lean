import Syfrah.Fabric.RaftHandler
import Syfrah.Proof.Hosts
import Syfrah.Proof.Tenants

/-!
# The networks of the VPCs of an organisation

A new VPC is compared with the stored VPCs of its org, but the org of a stored VPC and that of the new
one are read from their owners in two different ways. They come out the same for owners that are
identifiers. A stored owner `org/project` is not compared with anything, and the name of an org only
with the same name.
-/

namespace Syfrah

open Replica Tx OrgStore

def Replica.VpcsDisjoint (r : Replica) : Prop :=
  ∀ (k k' : String) vpc vpc' (o : OrgId), k ≠ k' → r.vpcs[k]? = some vpc → r.vpcs[k']? = some vpc' →
    ownerOrg r.sm.orgStore vpc.owner = some o → ownerOrg r.sm.orgStore vpc'.owner = some o →
    ∃ net net', Ipv4Net.parse vpc.cidr = some net ∧ Ipv4Net.parse vpc'.cidr = some net' ∧
      ∀ ip, net.contains ip = true → net'.contains ip = false

namespace OrgCall

/-- Calls that neither delete orgs and projects nor look up environments, which may move projects. -/
def keepsTenants : OrgCall → Bool
  | command (.deleteOrg ..) | command (.deleteProject ..) | command (.createEnv ..)
  | command (.deleteEnv ..) | command (.extendEnv ..) | command (.updateEnv ..) => false
  | _ => true

/-- A new VPC has an owner that is comparable with the owners of the stored VPCs of its org, and is not
the path of a project of an org that is called by its identifier. -/
def comparesOwners (r : Replica) (call : OrgCall) : Bool :=
  let db := r.sm.orgStore
  (call.newVpc db).all fun new => ownerSettled db new.2.2 && r.vpcs.toList.all fun entry =>
    ownerOrg db entry.2.owner != ownerOrg db new.2.2 || comparable db entry.2.owner new.2.2

/-- The identifier drawn for an org is not a name, the identifier drawn for a project is not in use,
and the org of a new project is not called by its identifier. -/
def namesTenants (r : Replica) : OrgCall → Bool
  | command (.createOrg _) =>
      (r.sm.orgStore.get .orgNameIdx (r.ambient.generateId "org").1).isNone
  | command (.createProject _ org) => orgSettled r.sm.orgStore org &&
      (r.sm.orgStore.get .projects (r.ambient.generateId "proj").1).isNone
  | _ => true

end OrgCall

/-! ### Owners after a call -/

structure TenantsGrow (db db' : OrgDb) : Prop where
  orgs : ∀ x, (db.get .orgs x).isSome = true → (db'.get .orgs x).isSome = true
  names : ∀ x o, db.get .orgNameIdx x = some o → db'.get .orgNameIdx x = some o
  unnamed : ∀ x o, db.get .orgNameIdx x = some o → db.get .orgs x = none → db'.get .orgs x = none
  projects : ∀ p project, db.get .projects p = some project → db'.get .projects p = some project
  paths : ∀ p : String, '/' ∈ p.toList → db.get .projects p = none → db'.get .projects p = none

namespace TenantsGrow

variable {db db' : OrgDb}

theorem of_eq (horgs : db'.table .orgs = db.table .orgs)
    (hindex : db'.table .orgNameIdx = db.table .orgNameIdx)
    (hprojects : db'.table .projects = db.table .projects) : TenantsGrow db db' := by
  have hget : ∀ t : OrgTable, db'.table t = db.table t → db'.get t = db.get t := fun t ht => by
    funext key
    rw [LayerDb.get, ht, LayerDb.get]
  constructor <;> simp only [hget _ horgs, hget _ hindex, hget _ hprojects] <;> tauto

theorem ownerOrg_eq (h : TenantsGrow db db') {owner : VpcOwner} {o : OrgId}
    (howner : ownerOrg db owner = some o) : ownerOrg db' owner = some o := by
  cases owner with
  | org x =>
      rw [ownerOrg] at howner ⊢
      split at howner
      · rename_i hstored
        rw [if_pos (h.orgs x hstored), howner]
      · rename_i hstored
        have hnone := h.unnamed x o howner (by simpa using hstored)
        rw [hnone, Option.isSome_none, if_neg (by decide), h.names x o howner]
  | project p =>
      rw [ownerOrg] at howner ⊢
      cases hproject : db.get .projects p with
      | some project =>
          rw [hproject] at howner
          rw [h.projects p project hproject]
          exact howner
      | none =>
          rw [hproject] at howner
          obtain ⟨parts, hsplit, hname⟩ := Option.bind_eq_some_iff.mp howner
          have hslash : '/' ∈ p.toList := by simp [Text.toList_of_splitOnce hsplit]
          rw [h.paths p hslash hproject, hsplit]
          exact h.names parts.1 o hname

theorem orgCreated {name : String} {id : OrgId} {org : Org} (hname : db.get .orgNameIdx name = none)
    (hid : db.get .orgNameIdx id = none) :
    TenantsGrow db ((db.set .orgs id org).set .orgNameIdx name id) := by
  constructor
  · intro x hx
    rw [LayerDb.get_set_of_ne _ (by decide), LayerDb.get_set]
    split
    · rfl
    · exact hx
  · intro x o hx
    have hne : name ≠ x := fun heq => by simp [← heq, hname] at hx
    rw [LayerDb.get_set, if_neg hne, LayerDb.get_set_of_ne _ (by decide), hx]
  · intro x o hx hnone
    have hne : id ≠ x := fun heq => by simp [← heq, hid] at hx
    rw [LayerDb.get_set_of_ne _ (by decide), LayerDb.get_set, if_neg hne, hnone]
  · intro p project hp
    rw [LayerDb.get_set_of_ne _ (by decide), LayerDb.get_set_of_ne _ (by decide), hp]
  · intro p _ hp
    rw [LayerDb.get_set_of_ne _ (by decide), LayerDb.get_set_of_ne _ (by decide), hp]

theorem projectCreated {id key : String} {project : Project} (hid : db.get .projects id = none)
    (hslash : '/' ∉ id.toList) :
    TenantsGrow db ((db.set .projects id project).set .projectNameIdx key id) := by
  have hget : ∀ t : OrgTable, t ≠ .projects → t ≠ .projectNameIdx →
      ∀ x, ((db.set .projects id project).set .projectNameIdx key id).get t x = db.get t x :=
    fun t ht ht' x => by rw [LayerDb.get_set_of_ne _ ht', LayerDb.get_set_of_ne _ ht]
  constructor
  · intro x hx
    rw [hget .orgs (by decide) (by decide), hx]
  · intro x o hx
    rw [hget .orgNameIdx (by decide) (by decide), hx]
  · intro x o _ hnone
    rw [hget .orgs (by decide) (by decide), hnone]
  · intro p stored hp
    have hne : id ≠ p := fun heq => by simp [← heq, hid] at hp
    rw [LayerDb.get_set_of_ne _ (by decide), LayerDb.get_set, if_neg hne, hp]
  · intro p hp hnone
    have hne : id ≠ p := fun heq => hslash (heq ▸ hp)
    rw [LayerDb.get_set_of_ne _ (by decide), LayerDb.get_set, if_neg hne, hnone]

end TenantsGrow

theorem slash_notMem_projectId (a : Ambient) : '/' ∉ (a.generateId "proj").1.toList := by
  have hdigit : ∀ n < 16, Nat.digitChar n ≠ '/' := by decide
  simp only [Ambient.generateId, String.toList_append, String.toList_ofList, List.mem_append,
    List.mem_map, not_or, not_exists, not_and]
  exact ⟨⟨by decide, by decide⟩, fun i _ => hdigit _ (Nat.mod_lt _ (by decide))⟩

section Calls

variable {r : Replica}

def SameTenants (r r' : Replica) : Prop :=
  ∀ t ∈ projectTables, r'.sm.orgStore.table t = r.sm.orgStore.table t

theorem SameTenants.grow {r r' : Replica} (h : SameTenants r r') :
    TenantsGrow r.sm.orgStore r'.sm.orgStore :=
  .of_eq (h .orgs (by decide)) (h .orgNameIdx (by decide)) (h .projects (by decide))

theorem sameTenants_createVpc {owner : VpcOwner} (h : ownerSettled r.sm.orgStore owner = true)
    (name cidr : String) (shared : Bool) :
    Ensures (OrgCall.createVpc name cidr owner shared).handler r fun _ r' => SameTenants r r' := by
  have hframe : Ensures (OrgStore.createVpc name cidr owner shared) (orgLens.get r) fun _ u =>
      ∀ t ∈ projectTables, u.1.table t = r.sm.orgStore.table t :=
    fun t ht => createVpc_of_settled (orgLens.get r) h name cidr shared ht
  exact .org hframe (fun _ _ hu => .pure hu) fun _ _ hu => hu

theorem sameTenants_newSubnet (vpcName : String) (envId : EnvironmentId) (name : String)
    (cidr : Option String) (r : Replica) :
    Ensures (OrgCall.createSubnet vpcName envId name cidr).handler r fun _ r' => SameTenants r r' := by
  have hframe : Ensures (OrgStore.createSubnet vpcName envId name cidr) (orgLens.get r) fun _ u =>
      ∀ t ∈ projectTables, u.1.table t = r.sm.orgStore.table t := fun t ht =>
    writes_createSubnet vpcName envId name cidr _ t (by revert ht; cases t <;> decide)
  exact .org hframe (fun _ _ hu => .pure hu) fun _ _ hu => hu

theorem sameTenants_autoCreateVpc {name vpc envId : String} {cidr : Option String}
    (h : ((OrgCall.command (.createSubnet name vpc envId cidr)).newVpc r.sm.orgStore).all
      (fun new => ownerSettled r.sm.orgStore new.2.2) = true) :
    Ensures (Handle.autoCreateVpc vpc) r fun _ r' => SameTenants r r' := by
  unfold Handle.autoCreateVpc
  refine .bind_ok (org_query _ r) ?_
  split
  · rename_i hdefault
    rw [OrgCall.newVpc, if_pos hdefault] at h
    split
    · exact .pure fun _ _ => rfl
    · rename_i orgName project hparts
      rw [hparts] at h
      have hsettled : ownerSettled r.sm.orgStore (.project s!"{orgName}/{project}") = true := by
        simpa using h
      have hframe : ∀ t ∈ projectTables, _ = _ := fun t ht =>
        createVpc_of_settled (orgLens.get r) hsettled vpc "10.1.0.0/16" false ht
      refine .result ?_
      rw [zoom_apply]
      dsimp only
      split
      · exact .pure hframe
      · exact hframe
  · exact .pure fun _ _ => rfl

theorem sameTenants_createSubnet {name vpc envId : String} {cidr : Option String}
    (h : ((OrgCall.command (.createSubnet name vpc envId cidr)).newVpc r.sm.orgStore).all
      (fun new => ownerSettled r.sm.orgStore new.2.2) = true) :
    Ensures (Handle.createSubnet name vpc envId cidr) r fun _ r' => SameTenants r r' := by
  refine .bind (sameTenants_autoCreateVpc h) ?_ fun _ _ ht => ht
  intro _ t ht
  have hkept := sameTenants_newSubnet vpc envId name cidr t
  exact fun u hu => (hkept u hu).trans (ht u hu)

theorem tenantsGrow_createOrg (name : String)
    (hid : (r.sm.orgStore.get .orgNameIdx (r.ambient.generateId "org").1).isNone = true) :
    Ensures (handle (.createOrg name)) r fun _ r' => TenantsGrow r.sm.orgStore r'.sm.orgStore := by
  refine .org (create_spec (orgLens.get r) name) ?_ fun _ t ht => ?_
  · rintro org t ⟨hname, -, hdb⟩
    refine .pure ?_
    change TenantsGrow r.sm.orgStore t.1
    rw [hdb]
    exact .orgCreated hname (Option.isNone_iff_eq_none.mp hid)
  · rw [ht]
    exact .of_eq rfl rfl rfl

theorem tenantsGrow_createProject {org : String} (name : String)
    (h : orgSettled r.sm.orgStore org = true)
    (hid : (r.sm.orgStore.get .projects (r.ambient.generateId "proj").1).isNone = true) :
    Ensures (handle (.createProject name org)) r fun _ r' =>
      TenantsGrow r.sm.orgStore r'.sm.orgStore := by
  refine .org (createProject_of_settled (orgLens.get r) h name) ?_ fun _ t ht => ?_
  · rintro project t hdb
    refine .pure ?_
    change TenantsGrow r.sm.orgStore t.1
    rw [hdb]
    exact .projectCreated (Option.isNone_iff_eq_none.mp hid) (slash_notMem_projectId _)
  · rw [ht]
    exact .of_eq rfl rfl rfl

theorem sameTenants_of_disjoint {c : Command} (h : ∀ t ∈ projectTables, t ∉ c.orgTables)
    (r : Replica) : SameTenants r ((OrgCall.command c).apply r).2 :=
  fun t ht => orgTable_applySingle c r (h t ht)

/-- **All calls.** -/
theorem tenantsGrow_apply (call : OrgCall) (r : Replica) (hscope : call.keepsTenants = true)
    (howners : call.comparesOwners r = true) (hnames : call.namesTenants r = true) :
    TenantsGrow r.sm.orgStore (call.apply r).2.sm.orgStore := by
  have hsettled : (call.newVpc r.sm.orgStore).all
      (fun new => ownerSettled r.sm.orgStore new.2.2) = true := by
    rw [OrgCall.comparesOwners, Option.all_eq_true] at howners
    rw [Option.all_eq_true]
    exact fun new hnew => ((Bool.and_eq_true _ _).mp (howners new hnew)).1
  cases call with
  | createVpc name cidr owner shared =>
      exact (sameTenants_createVpc (by simpa [OrgCall.newVpc] using hsettled) name cidr shared).grow
  | createSubnet vpcName envId name cidr =>
      exact (sameTenants_newSubnet vpcName envId name cidr r).grow
  | command c =>
      cases c with
      | createOrg name => exact tenantsGrow_createOrg name hnames
      | createProject name org =>
          rw [OrgCall.namesTenants, Bool.and_eq_true] at hnames
          exact tenantsGrow_createProject name hnames.1 hnames.2
      | createVpc name cidr owner shared =>
          exact (sameTenants_createVpc (by simpa [OrgCall.newVpc] using hsettled) name cidr
            shared).grow
      | createSubnet name vpc envId cidr => exact (sameTenants_createSubnet hsettled).grow
      | deleteOrg | deleteProject | createEnv | deleteEnv | extendEnv | updateEnv => cases hscope
      | _ => exact (sameTenants_of_disjoint (by simp [Command.orgTables]) r).grow

end Calls

/-! ### The invariant -/

structure VpcNetworks (r : Replica) : Prop where
  owned : ∀ (k : String) vpc, r.vpcs[k]? = some vpc → ∃ o, ownerOrg r.sm.orgStore vpc.owner = some o
  nets : ∀ (k : String) vpc, r.vpcs[k]? = some vpc → ∃ net, Ipv4Net.parse vpc.cidr = some net
  apart : ∀ (k k' : String) vpc vpc' net net', k ≠ k' → r.vpcs[k]? = some vpc →
    r.vpcs[k']? = some vpc' →
    ownerOrg r.sm.orgStore vpc.owner = ownerOrg r.sm.orgStore vpc'.owner →
    Ipv4Net.parse vpc.cidr = some net → Ipv4Net.parse vpc'.cidr = some net' →
      cidrsOverlap net net' = false

namespace VpcNetworks

variable {r r' : Replica}

theorem vpcsDisjoint (h : VpcNetworks r) : r.VpcsDisjoint := by
  intro k k' vpc vpc' o hne hvpc hvpc' ho ho'
  obtain ⟨net, hnet⟩ := h.nets k vpc hvpc
  obtain ⟨net', hnet'⟩ := h.nets k' vpc' hvpc'
  have hclear := h.apart k k' vpc vpc' net net' hne hvpc hvpc' (ho.trans ho'.symm) hnet hnet'
  exact ⟨net, net', hnet, hnet', fun ip => not_contains_of_not_overlap hclear⟩

theorem ownerOrg_eq (h : VpcNetworks r) (hgrow : TenantsGrow r.sm.orgStore r'.sm.orgStore)
    {k : String} {vpc : Vpc} (hvpc : r.vpcs[k]? = some vpc) :
    ownerOrg r'.sm.orgStore vpc.owner = ownerOrg r.sm.orgStore vpc.owner := by
  obtain ⟨o, ho⟩ := h.owned k vpc hvpc
  rw [ho, hgrow.ownerOrg_eq ho]

theorem of_subset (h : VpcNetworks r) (hgrow : TenantsGrow r.sm.orgStore r'.sm.orgStore)
    (hvpcs : ∀ (k : String) vpc, r'.vpcs[k]? = some vpc → r.vpcs[k]? = some vpc) :
    VpcNetworks r' where
  owned k vpc hvpc := by
    rw [h.ownerOrg_eq hgrow (hvpcs k vpc hvpc)]
    exact h.owned k vpc (hvpcs k vpc hvpc)
  nets k vpc hvpc := h.nets k vpc (hvpcs k vpc hvpc)
  apart k k' vpc vpc' net net' hne hvpc hvpc' hsame := by
    have hold := hvpcs k vpc hvpc
    have hold' := hvpcs k' vpc' hvpc'
    rw [h.ownerOrg_eq hgrow hold, h.ownerOrg_eq hgrow hold'] at hsame
    exact h.apart k k' vpc vpc' net net' hne hold hold' hsame

theorem parse_of_validate {cidr : String} {net : Ipv4Net} (h : parseAndValidateCidr cidr = .ok net) :
    Ipv4Net.parse cidr = some net := by
  unfold parseAndValidateCidr at h
  cases hparse : Ipv4Net.parse cidr with
  | none => simp [hparse] at h
  | some parsed =>
      rw [hparse] at h
      dsimp only at h
      split_ifs at h
      cases h
      rfl

theorem created (h : VpcNetworks r) (hgrow : TenantsGrow r.sm.orgStore r'.sm.orgStore)
    {name cidr : String} {owner : VpcOwner} {vpc : Vpc}
    (hsettled : ownerSettled r.sm.orgStore owner = true)
    (hcomparable : ∀ (k : String) stored, r.vpcs[k]? = some stored →
      ownerOrg r.sm.orgStore stored.owner = ownerOrg r.sm.orgStore owner →
        comparable r.sm.orgStore stored.owner owner = true)
    (haccepted : VpcAccepted name cidr owner (orgLens.get r) vpc)
    (hvpcs : r'.vpcs = r.vpcs.insert vpc.id vpc) : VpcNetworks r' := by
  obtain ⟨net, existing, hnet, hexisting, hclear⟩ := haccepted.clear
  have hparse : Ipv4Net.parse vpc.cidr = some net := by
    rw [haccepted.cidr_eq, parse_of_validate hnet]
  obtain ⟨o, howner⟩ : ∃ o, ownerOrg r.sm.orgStore owner = some o :=
    Option.isSome_iff_exists.mp ((checkOwner_of_settled hsettled).2 haccepted.owner_ok)
  have hnew : ownerOrg r'.sm.orgStore vpc.owner = ownerOrg r.sm.orgStore owner := by
    rw [haccepted.owner_eq, howner, hgrow.ownerOrg_eq howner]
  -- a stored VPC of the same org is among those that were compared
  have hapart : ∀ (k : String) stored storedNet, r.vpcs[k]? = some stored →
      ownerOrg r'.sm.orgStore vpc.owner = ownerOrg r'.sm.orgStore stored.owner →
      Ipv4Net.parse stored.cidr = some storedNet → cidrsOverlap net storedNet = false := by
    intro k stored storedNet hstored hsame hstoredNet
    rw [hnew, h.ownerOrg_eq hgrow hstored] at hsame
    exact hclear storedNet (mem_compared hsettled hexisting hstored hstoredNet hsame.symm
      (hcomparable k stored hstored hsame.symm))
  refine ⟨fun k stored hget => ?_, fun k stored hget => ?_,
    fun k k' stored stored' storedNet storedNet' hne hget hget' hsame hstored hstored' => ?_⟩
  · rcases Std.ExtTreeMap.of_getElem?_insert (hvpcs ▸ hget) with ⟨-, rfl⟩ | ⟨-, hold⟩
    · exact ⟨o, hnew.trans howner⟩
    · rw [h.ownerOrg_eq hgrow hold]
      exact h.owned k stored hold
  · rcases Std.ExtTreeMap.of_getElem?_insert (hvpcs ▸ hget) with ⟨-, rfl⟩ | ⟨-, hold⟩
    · exact ⟨net, hparse⟩
    · exact h.nets k stored hold
  · rcases Std.ExtTreeMap.of_getElem?_insert (hvpcs ▸ hget) with ⟨rfl, rfl⟩ | ⟨-, hold⟩
    · rcases Std.ExtTreeMap.of_getElem?_insert (hvpcs ▸ hget') with ⟨rfl, -⟩ | ⟨-, hold'⟩
      · exact absurd rfl hne
      · obtain rfl : net = storedNet := Option.some.inj (hparse.symm.trans hstored)
        exact hapart k' stored' storedNet' hold' hsame hstored'
    · rcases Std.ExtTreeMap.of_getElem?_insert (hvpcs ▸ hget') with ⟨rfl, rfl⟩ | ⟨-, hold'⟩
      · obtain rfl : net = storedNet' := Option.some.inj (hparse.symm.trans hstored')
        rw [cidrsOverlap_comm]
        exact hapart k stored storedNet hold hsame.symm hstored
      · rw [h.ownerOrg_eq hgrow hold, h.ownerOrg_eq hgrow hold'] at hsame
        exact h.apart k k' stored stored' storedNet storedNet' hne hold hold' hsame hstored hstored'

/-- **One call.** -/
theorem step (h : VpcNetworks r) (call : OrgCall) (hscope : call.keepsTenants = true)
    (howners : call.comparesOwners r = true) (hnames : call.namesTenants r = true) :
    VpcNetworks (call.apply r).2 := by
  have hgrow := tenantsGrow_apply call r hscope howners hnames
  cases vpcStep_apply call r with
  | @created _ name cidr owner vpc _ hcall haccepted hvpcs =>
      rw [OrgCall.comparesOwners, hcall, Option.all_some, Bool.and_eq_true] at howners
      refine h.created hgrow howners.1 (fun k stored hstored hsame => ?_) haccepted hvpcs
      have hentry := List.all_eq_true.mp howners.2 (k, stored)
        (Std.ExtTreeMap.mem_toList_iff_getElem?_eq_some.mpr hstored)
      simpa [hsame] using hentry
  | deleted _ _ hvpcs =>
      refine h.of_subset hgrow fun k vpc hget => ?_
      exact (Std.ExtTreeMap.of_getElem?_erase (hvpcs ▸ hget)).2
  | other hvpcs => exact h.of_subset hgrow fun k vpc hget => hvpcs ▸ hget

end VpcNetworks

/-- **No overlap inside an organisation.** After all calls on a store that starts without VPCs, when
every new VPC had an owner that can be compared with the owners of the VPCs of its org, VPCs of one org
have no address in common. -/
theorem vpcs_disjoint_of_calls (calls : List OrgCall) (r : Replica) (hvpcs : r.vpcs = ∅)
    (hscope : ∀ e ∈ trace OrgCall.apply calls r, e.action.keepsTenants = true)
    (howners : ∀ e ∈ trace OrgCall.apply calls r, e.action.comparesOwners e.before = true)
    (hnames : ∀ e ∈ trace OrgCall.apply calls r, e.action.namesTenants e.before = true) :
    (reached OrgCall.apply calls r).VpcsDisjoint := by
  have hstart : VpcNetworks r := by
    constructor <;> simp [hvpcs]
  refine VpcNetworks.vpcsDisjoint ((run_trace calls r).invariant (I := fun _ => VpcNetworks)
    (C := fun _ e => e.action.keepsTenants = true ∧ e.action.comparesOwners e.before = true ∧
      e.action.namesTenants e.before = true) hstart ?_
    (.of_forall fun e he => ⟨hscope e he, howners e he, hnames e he⟩))
  exact fun _ _ call h hcall => h.step call hcall.1 hcall.2.1 hcall.2.2

def callsOf (requests : List OrgRequest) : List OrgCall :=
  (requests.filterMap toRaftCommand).map .command

/-- A shared VPC and one of a project, with their owners by identifier. -/
def ownedById : List OrgCall :=
  callsOf [.orgCreate "acme", .projectCreate "web" "acme"] ++
    [.createVpc "shared" "10.100.0.0/16" (.org "org-000000000000") true,
      .createVpc "net" "10.1.0.0/16" (.project "proj-111111111111") false]

theorem vpcs_disjoint_of_owned_by_id :
    (reached OrgCall.apply ownedById .counting).VpcsDisjoint ∧
    ((reached OrgCall.apply ownedById .counting).vpcs.toList.map fun entry => entry.2.cidr) =
      ["10.100.0.0/16", "10.1.0.0/16"] := by
  refine ⟨vpcs_disjoint_of_calls ownedById .counting rfl ?_ ?_ ?_, ?_⟩
  · decide +kernel
  · decide +kernel
  · decide +kernel
  · decide +kernel

/-- VPCs of two projects of an org, with the default network. -/
def defaultNetworks : List OrgCall :=
  callsOf [.orgCreate "acme", .projectCreate "web" "acme", .projectCreate "api" "acme",
    .vpcCreate "net" "acme" (some "web") false none, .vpcCreate "lan" "acme" (some "api") false none]

/-- Both VPCs are accepted and have the same network. -/
theorem default_networks_overlap : ¬ (reached OrgCall.apply defaultNetworks .counting).VpcsDisjoint := by
  intro h
  have hpair : ((reached OrgCall.apply defaultNetworks .counting).vpcs.toList.any fun entry =>
      (reached OrgCall.apply defaultNetworks .counting).vpcs.toList.any fun entry' =>
        decide (entry.1 ≠ entry'.1 ∧ Ipv4Net.parse entry.2.cidr = Ipv4Net.parse "10.1.0.0/16" ∧
          Ipv4Net.parse entry'.2.cidr = Ipv4Net.parse "10.1.0.0/16" ∧
          ownerOrg (reached OrgCall.apply defaultNetworks .counting).sm.orgStore entry.2.owner =
            some "org-000000000000" ∧
          ownerOrg (reached OrgCall.apply defaultNetworks .counting).sm.orgStore entry'.2.owner =
            some "org-000000000000")) = true := by decide +kernel
  simp only [List.any_eq_true, decide_eq_true_eq] at hpair
  obtain ⟨⟨k, vpc⟩, hmem, ⟨k', vpc'⟩, hmem', hne, hcidr, hcidr', ho, ho'⟩ := hpair
  obtain ⟨net, net', hnet, hnet', hapart⟩ := h k k' vpc vpc' _ hne
    (Std.ExtTreeMap.mem_toList_iff_getElem?_eq_some.mp hmem)
    (Std.ExtTreeMap.mem_toList_iff_getElem?_eq_some.mp hmem') ho ho'
  obtain rfl : net = net' :=
    Option.some.inj (hnet.symm.trans ((hcidr.trans hcidr'.symm).trans hnet'))
  have hself : net.contains net.network = true := by
    simp [Ipv4Net.contains, Ipv4Net.broadcast, Fin.le_def]
  rw [hapart net.network hself] at hself
  cases hself

end Syfrah
