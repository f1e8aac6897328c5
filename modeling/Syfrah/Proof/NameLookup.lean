import Syfrah.Proof.Tenants

/-!
# Lookups by name

The index of VPC names has keys `scope/name`, with a scope that depends on the owner, but a lookup
takes the first entry that ends with the name, whatever its scope, and a security group is found by its
name alone. So a lookup finds the record of the tenant that asks for it only as long as tenants do not
share names.
-/

namespace Syfrah

open Replica Tx OrgStore

/-- The org that a security group belongs to: that of its VPC. -/
def Replica.groupOrg (r : Replica) (sg : SecurityGroup) : Option OrgId :=
  (r.vpcs[sg.vpcId]?).bind fun vpc => ownerOrg r.sm.orgStore vpc.owner

/-- Every VPC is the one that its name stands for, and the name of a security group does not stand for
a group of another org. -/
structure Replica.LookupsStay (r : Replica) : Prop where
  vpc : ∀ (k : String) vpc, r.vpcs[k]? = some vpc → getVpc r.sm.orgStore vpc.name = some vpc
  group : ∀ (k : String) sg found (o o' : OrgId), r.groups[k]? = some sg →
    findSgByName r.sm.orgStore sg.name = some found → r.groupOrg sg = some o →
    r.groupOrg found = some o' → o' = o

/-! ### The index of names -/

structure NamedVpcs (r : Replica) : Prop where
  keys : ∀ (k : String) vpc, r.vpcs[k]? = some vpc → vpc.id = k
  plain : ∀ (k : String) vpc, r.vpcs[k]? = some vpc →
    '/' ∉ vpc.name.toList ∧ '/' ∉ (vpcOrgScope vpc.owner).toList
  indexed : ∀ (k : String) vpc, r.vpcs[k]? = some vpc →
    r.vpcNames[vpcNameKey vpc.owner vpc.name]? = some k
  entries : ∀ (key : String) id, r.vpcNames[key]? = some id →
    ∃ vpc, r.vpcs[id]? = some vpc ∧ key = vpcNameKey vpc.owner vpc.name
  unique : ∀ (k k' : String) vpc vpc', r.vpcs[k]? = some vpc → r.vpcs[k']? = some vpc' →
    vpc.name = vpc'.name → k = k'

theorem toList_vpcNameKey (owner : VpcOwner) (name : String) :
    (vpcNameKey owner name).toList = (vpcOrgScope owner).toList ++ '/' :: name.toList := by
  change (vpcOrgScope owner ++ "/" ++ name).toList = _
  simp

theorem endsWith_vpcNameKey {owner : VpcOwner} {name : String} (hname : '/' ∉ name.toList)
    (hscope : '/' ∉ (vpcOrgScope owner).toList) {other : String} :
    Text.endsWith (vpcNameKey owner name) s!"/{other}" = true ↔ name = other := by
  have hlast : (s!"/{other}").toList = '/' :: other.toList := by
    change ("/" ++ other).toList = _
    simp
  rw [Text.endsWith, toList_vpcNameKey, hlast, List.isSuffixOf_iff_suffix]
  constructor
  · exact fun h => String.toList_inj.mp (Text.eq_of_suffix_separator hscope hname h)
  · rintro rfl
    exact List.suffix_append _ _

namespace NamedVpcs

variable {r r' : Replica}

theorem name_of_getVpc (h : NamedVpcs r) {name : String} {vpc : Vpc}
    (hvpc : getVpc r.sm.orgStore name = some vpc) : vpc.name = name ∧ r.vpcs[vpc.id]? = some vpc := by
  obtain ⟨key, id, hentry, hends, hstored⟩ := entry_of_getVpc hvpc
  obtain ⟨vpc', hstored', rfl⟩ := h.entries key id hentry
  obtain rfl : vpc' = vpc := Option.some.inj (hstored'.symm.trans hstored)
  obtain ⟨hname, hscope⟩ := h.plain id vpc' hstored
  refine ⟨(endsWith_vpcNameKey hname hscope).mp hends, ?_⟩
  rw [h.keys id vpc' hstored]
  exact hstored

theorem getVpc_name (h : NamedVpcs r) {k : String} {vpc : Vpc} (hvpc : r.vpcs[k]? = some vpc) :
    getVpc r.sm.orgStore vpc.name = some vpc := by
  have hmem : (vpcNameKey vpc.owner vpc.name, k) ∈ r.vpcNames.toList :=
    Std.ExtTreeMap.mem_toList_iff_getElem?_eq_some.mpr (h.indexed k vpc hvpc)
  unfold getVpc
  split
  · rename_i key id hfind
    -- the first entry with the name is the entry of the VPC
    have hentry : r.vpcNames[key]? = some id :=
      Std.ExtTreeMap.mem_toList_iff_getElem?_eq_some.mp (List.mem_of_find?_eq_some hfind)
    obtain ⟨vpc', hstored, rfl⟩ := h.entries key id hentry
    obtain ⟨hname, hscope⟩ := h.plain id vpc' hstored
    have hends := (endsWith_vpcNameKey hname hscope).mp (by simpa using List.find?_some hfind)
    rw [h.unique id k vpc' vpc hstored hvpc hends]
    exact hvpc
  · rename_i hfind
    obtain ⟨hname, hscope⟩ := h.plain k vpc hvpc
    have hnot := List.find?_eq_none.mp hfind _ hmem
    exact absurd ((endsWith_vpcNameKey hname hscope).mpr rfl) hnot

theorem created (h : NamedVpcs r) {vpc : Vpc} (hname : '/' ∉ vpc.name.toList)
    (hscope : '/' ∉ (vpcOrgScope vpc.owner).toList)
    (hunnamed : r.vpcNames[vpcNameKey vpc.owner vpc.name]? = none)
    (hnew : ∀ (k : String) stored, r.vpcs[k]? = some stored → stored.name ≠ vpc.name)
    (hid : r.vpcs[vpc.id]? = none) (hvpcs : r'.vpcs = r.vpcs.insert vpc.id vpc)
    (hnames : r'.vpcNames = r.vpcNames.insert (vpcNameKey vpc.owner vpc.name) vpc.id) :
    NamedVpcs r' := by
  have hcases : ∀ (k : String) stored, r'.vpcs[k]? = some stored →
      k = vpc.id ∧ stored = vpc ∨ k ≠ vpc.id ∧ r.vpcs[k]? = some stored :=
    fun k stored hget => Std.ExtTreeMap.of_getElem?_insert (hvpcs ▸ hget)
  refine ⟨fun k stored hget => ?_, fun k stored hget => ?_, fun k stored hget => ?_,
    fun key id hget => ?_, fun k k' stored stored' hget hget' hsame => ?_⟩
  · obtain ⟨rfl, rfl⟩ | ⟨-, hold⟩ := hcases k stored hget
    · rfl
    · exact h.keys k stored hold
  · obtain ⟨rfl, rfl⟩ | ⟨-, hold⟩ := hcases k stored hget
    · exact ⟨hname, hscope⟩
    · exact h.plain k stored hold
  · rw [hnames]
    obtain ⟨rfl, rfl⟩ | ⟨-, hold⟩ := hcases k stored hget
    · exact Std.ExtTreeMap.getElem?_insert_self
    · have hold' := h.indexed k stored hold
      rw [Std.ExtTreeMap.getElem?_insert, if_neg, hold']
      intro heq
      rw [← Std.LawfulEqCmp.eq_of_compare heq, hunnamed] at hold'
      cases hold'
  · rcases Std.ExtTreeMap.of_getElem?_insert (hnames ▸ hget) with ⟨rfl, rfl⟩ | ⟨-, hold⟩
    · exact ⟨vpc, by rw [hvpcs]; exact Std.ExtTreeMap.getElem?_insert_self, rfl⟩
    · obtain ⟨stored, hstored, hkey⟩ := h.entries key id hold
      refine ⟨stored, ?_, hkey⟩
      rw [hvpcs, Std.ExtTreeMap.getElem?_insert, if_neg, hstored]
      intro heq
      rw [← Std.LawfulEqCmp.eq_of_compare heq, hid] at hstored
      cases hstored
  · obtain ⟨rfl, rfl⟩ | ⟨-, hold⟩ := hcases k stored hget
    · obtain ⟨rfl, -⟩ | ⟨-, hold'⟩ := hcases k' stored' hget'
      · rfl
      · exact absurd hsame.symm (hnew k' stored' hold')
    · obtain ⟨rfl, rfl⟩ | ⟨-, hold'⟩ := hcases k' stored' hget'
      · exact absurd hsame (hnew k stored hold)
      · exact h.unique k k' stored stored' hold hold' hsame

theorem deleted (h : NamedVpcs r) {name : String} {vpc : Vpc}
    (hvpc : getVpc r.sm.orgStore name = some vpc) (hvpcs : r'.vpcs = r.vpcs.erase vpc.id)
    (hnames : r'.vpcNames = r.vpcNames.erase (vpcNameKey vpc.owner name)) : NamedVpcs r' := by
  obtain ⟨rfl, hstored⟩ := h.name_of_getVpc hvpc
  have hold : ∀ (k : String) stored, r'.vpcs[k]? = some stored →
      k ≠ vpc.id ∧ r.vpcs[k]? = some stored :=
    fun k stored hget => Std.ExtTreeMap.of_getElem?_erase (hvpcs ▸ hget)
  refine ⟨fun k stored hget => h.keys k stored (hold k stored hget).2,
    fun k stored hget => h.plain k stored (hold k stored hget).2, fun k stored hget => ?_,
    fun key id hget => ?_, fun k k' stored stored' hget hget' =>
      h.unique k k' stored stored' (hold k stored hget).2 (hold k' stored' hget').2⟩
  · obtain ⟨hne, hget⟩ := hold k stored hget
    rw [hnames, Std.ExtTreeMap.getElem?_erase, if_neg, h.indexed k stored hget]
    intro heq
    have hkey := h.indexed k stored hget
    rw [← Std.LawfulEqCmp.eq_of_compare heq, h.indexed vpc.id vpc hstored] at hkey
    exact hne (Option.some.inj hkey).symm
  · obtain ⟨hne, hget⟩ := Std.ExtTreeMap.of_getElem?_erase (hnames ▸ hget)
    obtain ⟨stored, hget', rfl⟩ := h.entries key id hget
    refine ⟨stored, ?_, rfl⟩
    rw [hvpcs, Std.ExtTreeMap.getElem?_erase, if_neg, hget']
    intro heq
    rw [← Std.LawfulEqCmp.eq_of_compare heq, hstored] at hget'
    exact hne (by rw [Option.some.inj hget'])

theorem congr (h : NamedVpcs r) (hvpcs : r'.vpcs = r.vpcs) (hnames : r'.vpcNames = r.vpcNames) :
    NamedVpcs r' := by
  constructor <;> rw [hvpcs] <;> try rw [hnames]
  · exact h.keys
  · exact h.plain
  · exact h.indexed
  · exact h.entries
  · exact h.unique

end NamedVpcs

/-! ### Names that tenants do not share -/

namespace OrgCall

/-- The VPC that a call asks for: its name and its owner. A subnet asks for the default VPC it is in,
when there is none with that name. -/
def wantsVpc (r : Replica) : OrgCall → Option (String × VpcOwner)
  | command (.createVpc name _ owner _) => some (name, Handle.vpcOwner owner)
  | createVpc name _ owner _ => some (name, owner)
  | command (.createSubnet _ vpc _ _) =>
      if Text.endsWith vpc "-default" && r.vpcs.toList.all fun entry => entry.2.name != vpc then
        (Handle.defaultVpcParts vpc).map fun (orgName, project) =>
          (vpc, .project s!"{orgName}/{project}")
      else none
  | _ => none

/-- The name of a new VPC is not in use, in whatever org, and its scope is a plain text. -/
def namesVpcsApart (r : Replica) (call : OrgCall) : Bool :=
  (call.wantsVpc r).all fun (name, owner) =>
    (r.vpcs.toList.all fun entry => entry.2.name != name) &&
      !(vpcOrgScope owner).toList.contains '/'

/-- The security group that a call asks for: its name and the orgs its VPC may be of. -/
def wantsGroup (r : Replica) : OrgCall → String × List (Option OrgId)
  | command (.createSg name vpcName) =>
      (name, (r.vpcs.toList.filter fun entry => entry.2.name == vpcName).map fun entry =>
        ownerOrg r.sm.orgStore entry.2.owner)
  | call => ("default", (call.wantsVpc r).toList.map fun new => ownerOrg r.sm.orgStore new.2)

/-- The name of a new security group is not in use in another org. -/
def namesGroupsApart (r : Replica) (call : OrgCall) : Bool :=
  (call.wantsGroup r).2.all fun org => r.groups.toList.all fun entry =>
    entry.2.name != (call.wantsGroup r).1 || org.isNone || (r.groupOrg entry.2).isNone ||
      r.groupOrg entry.2 == org

end OrgCall

/-- A VPC that a call stores has an identifier that neither a VPC nor a security group names, or was
there before. -/
def drawsFreshVpcs (e : Exec Replica OrgCall StateMachineResponse) : Bool :=
  e.after.vpcs.toList.all fun entry => e.before.vpcs[entry.1]? == some entry.2 ||
    (e.before.vpcs[entry.1]?).isNone && e.before.groups.toList.all fun sg => sg.2.vpcId != entry.1

/-- The owners of the stored VPCs, and that of a new one, do not come to stand for another org. -/
def keepsOwners (e : Exec Replica OrgCall StateMachineResponse) : Bool :=
  (e.before.vpcs.toList.map (fun entry => entry.2.owner) ++
    ((e.action.wantsVpc e.before).toList.map Prod.snd)).all fun owner =>
      (ownerOrg e.after.sm.orgStore owner).isNone ||
        ownerOrg e.after.sm.orgStore owner == ownerOrg e.before.sm.orgStore owner

theorem NamedVpcs.wantsVpc_of_newVpc {r : Replica} (h : NamedVpcs r) {call : OrgCall}
    {name cidr : String} {owner : VpcOwner}
    (hcall : call.newVpc r.sm.orgStore = some (name, cidr, owner)) :
    call.wantsVpc r = some (name, owner) := by
  unfold OrgCall.newVpc at hcall
  split at hcall
  · cases hcall
    rfl
  · cases hcall
    rfl
  · split at hcall
    · rename_i hdefault
      obtain ⟨parts, hparts, hnew⟩ := Option.map_eq_some_iff.mp hcall
      cases hnew
      rw [Bool.and_eq_true, Option.isNone_iff_eq_none] at hdefault
      have hunused : (r.vpcs.toList.all fun entry => entry.2.name != name) = true := by
        refine List.all_eq_true.mpr fun entry hentry => bne_iff_ne.mpr fun hname => ?_
        have hfound := h.getVpc_name (Std.ExtTreeMap.mem_toList_iff_getElem?_eq_some.mp hentry)
        rw [hname, hdefault.2] at hfound
        cases hfound
      rw [OrgCall.wantsVpc, hdefault.1, hunused, Bool.and_self, if_pos rfl, hparts]
      rfl
    · cases hcall
  · cases hcall

theorem OrgCall.wantsGroup_of_wantsVpc {r : Replica} {call : OrgCall} {name : String}
    {owner : VpcOwner} (h : call.wantsVpc r = some (name, owner)) :
    call.wantsGroup r = ("default", [ownerOrg r.sm.orgStore owner]) := by
  unfold OrgCall.wantsGroup
  split
  · cases h
  · rw [h]
    rfl

section Step

variable {e : Exec Replica OrgCall StateMachineResponse}

theorem ownerOrg_of_kept (hkept : keepsOwners e = true) {owner : VpcOwner} {o : OrgId}
    (howner : (∃ (k : String) (vpc : Vpc), e.before.vpcs[k]? = some vpc ∧ vpc.owner = owner) ∨
      ∃ name, e.action.wantsVpc e.before = some (name, owner))
    (h : ownerOrg e.after.sm.orgStore owner = some o) :
    ownerOrg e.before.sm.orgStore owner = some o := by
  have hmem : owner ∈ e.before.vpcs.toList.map (fun entry => entry.2.owner) ++
      (e.action.wantsVpc e.before).toList.map Prod.snd := by
    rw [List.mem_append]
    rcases howner with ⟨k, vpc, hvpc, rfl⟩ | ⟨name, hname⟩
    · exact .inl (List.mem_map.mpr
        ⟨(k, vpc), Std.ExtTreeMap.mem_toList_iff_getElem?_eq_some.mpr hvpc, rfl⟩)
    · exact .inr (by simp [hname])
  have hsame := List.all_eq_true.mp hkept owner hmem
  rw [h, Option.isNone_some, Bool.false_or, beq_iff_eq] at hsame
  exact hsame.symm

theorem vpc_of_drawsFresh (hfresh : drawsFreshVpcs e = true) {k : String} {sg : SecurityGroup}
    {vpc : Vpc} (hsg : e.before.groups[k]? = some sg) (hvpc : e.after.vpcs[sg.vpcId]? = some vpc) :
    e.before.vpcs[sg.vpcId]? = some vpc := by
  have hentry := List.all_eq_true.mp hfresh (sg.vpcId, vpc)
    (Std.ExtTreeMap.mem_toList_iff_getElem?_eq_some.mpr hvpc)
  rw [Bool.or_eq_true, Bool.and_eq_true] at hentry
  rcases hentry with hold | ⟨-, hunused⟩
  · exact beq_iff_eq.mp hold
  · have hne := List.all_eq_true.mp hunused (k, sg)
      (Std.ExtTreeMap.mem_toList_iff_getElem?_eq_some.mpr hsg)
    simp at hne

theorem groupOrg_of_kept (hkept : keepsOwners e = true) (hfresh : drawsFreshVpcs e = true)
    {k : String} {sg : SecurityGroup} {o : OrgId} (hsg : e.before.groups[k]? = some sg)
    (h : e.after.groupOrg sg = some o) : e.before.groupOrg sg = some o := by
  obtain ⟨vpc, hvpc, howner⟩ := Option.bind_eq_some_iff.mp h
  have hold := vpc_of_drawsFresh hfresh hsg hvpc
  exact Option.bind_eq_some_iff.mpr
    ⟨vpc, hold, ownerOrg_of_kept hkept (.inl ⟨_, vpc, hold, rfl⟩) howner⟩

def GroupsApart (r : Replica) : Prop :=
  ∀ (k k' : String) sg sg' (o o' : OrgId), r.groups[k]? = some sg → r.groups[k']? = some sg' →
    sg.name = sg'.name → r.groupOrg sg = some o → r.groupOrg sg' = some o' → o = o'

theorem GroupsApart.of_subset (h : GroupsApart e.before) (hkept : keepsOwners e = true)
    (hfresh : drawsFreshVpcs e = true)
    (hgroups : ∀ (k : String) sg, e.after.groups[k]? = some sg → e.before.groups[k]? = some sg) :
    GroupsApart e.after := by
  intro k k' sg sg' o o' hsg hsg' hname ho ho'
  have hold := hgroups k sg hsg
  have hold' := hgroups k' sg' hsg'
  exact h k k' sg sg' o o' hold hold' hname (groupOrg_of_kept hkept hfresh hold ho)
    (groupOrg_of_kept hkept hfresh hold' ho')

theorem GroupsApart.created (h : GroupsApart e.before) (hkept : keepsOwners e = true)
    (hfresh : drawsFreshVpcs e = true) {sg : SecurityGroup}
    (hnew : ∀ (k : String) stored (o o' : OrgId), e.before.groups[k]? = some stored →
      stored.name = sg.name → e.before.groupOrg stored = some o → e.after.groupOrg sg = some o' →
        o = o')
    (hgroups : e.after.groups = e.before.groups.insert sg.id sg) : GroupsApart e.after := by
  have hcases : ∀ (k : String) stored, e.after.groups[k]? = some stored →
      k = sg.id ∧ stored = sg ∨ k ≠ sg.id ∧ e.before.groups[k]? = some stored :=
    fun k stored hget => Std.ExtTreeMap.of_getElem?_insert (hgroups ▸ hget)
  intro k k' stored stored' o o' hget hget' hname ho ho'
  obtain ⟨-, rfl⟩ | ⟨-, hold⟩ := hcases k stored hget
  · obtain ⟨-, rfl⟩ | ⟨-, hold'⟩ := hcases k' stored' hget'
    · exact Option.some.inj (ho.symm.trans ho')
    · exact (hnew k' stored' o' o hold' hname.symm (groupOrg_of_kept hkept hfresh hold' ho') ho).symm
  · obtain ⟨-, rfl⟩ | ⟨-, hold'⟩ := hcases k' stored' hget'
    · exact hnew k stored o o' hold hname (groupOrg_of_kept hkept hfresh hold ho) ho'
    · exact h k k' stored stored' o o' hold hold' hname (groupOrg_of_kept hkept hfresh hold ho)
        (groupOrg_of_kept hkept hfresh hold' ho')

/-- **One call**, for the names of VPCs. -/
theorem NamedVpcs.step (h : NamedVpcs e.before) (hstep : VpcStep e.before e.after e.action)
    (hnames : e.action.namesVpcsApart e.before = true) (hfresh : drawsFreshVpcs e = true) :
    NamedVpcs e.after := by
  generalize hcall : e.action = call at hstep hnames
  cases hstep with
  | @created _ name cidr owner vpc sg hnew haccepted hvpcs hnames' =>
      rw [OrgCall.namesVpcsApart, h.wantsVpc_of_newVpc hnew, Option.all_some, Bool.and_eq_true,
        List.all_eq_true] at hnames
      obtain ⟨hunused, hscope⟩ := hnames
      obtain ⟨rfl, -, rfl, hvalid, -, -, -, hunnamed⟩ := haccepted
      have hnames : ∀ (k : String) stored, e.before.vpcs[k]? = some stored → stored.name ≠ vpc.name :=
        fun k stored hget => bne_iff_ne.mp
          (hunused (k, stored) (Std.ExtTreeMap.mem_toList_iff_getElem?_eq_some.mpr hget))
      refine h.created (notMem_of_validateName hvalid (by decide)) (by simpa using hscope) hunnamed hnames
        ?_ hvpcs hnames'
      have hentry := List.all_eq_true.mp hfresh (vpc.id, vpc)
        (Std.ExtTreeMap.mem_toList_iff_getElem?_eq_some.mpr
          (by rw [hvpcs]; exact Std.ExtTreeMap.getElem?_insert_self))
      rw [Bool.or_eq_true, Bool.and_eq_true] at hentry
      rcases hentry with hold | ⟨hnone, -⟩
      · exact absurd rfl (hnames vpc.id vpc (beq_iff_eq.mp hold))
      · exact Option.isNone_iff_eq_none.mp hnone
  | deleted hvpc _ hvpcs hnames' => exact h.deleted hvpc hvpcs hnames'
  | other hvpcs hnames' => exact h.congr hvpcs hnames'

/-- **One call**, for the names of security groups. -/
theorem GroupsApart.step (h : GroupsApart e.before) (hnamed : NamedVpcs e.before)
    (hstep : VpcStep e.before e.after e.action)
    (hnames : e.action.namesGroupsApart e.before = true) (hfresh : drawsFreshVpcs e = true)
    (hkept : keepsOwners e = true) : GroupsApart e.after := by
  have hapart : ∀ org ∈ (e.action.wantsGroup e.before).2, ∀ (k : String) stored (o o' : OrgId),
      e.before.groups[k]? = some stored → stored.name = (e.action.wantsGroup e.before).1 →
      e.before.groupOrg stored = some o → org = some o' → o = o' := by
    intro org horg k stored o o' hstored hname ho ho'
    have hentry := List.all_eq_true.mp (List.all_eq_true.mp hnames org horg) (k, stored)
      (Std.ExtTreeMap.mem_toList_iff_getElem?_eq_some.mpr hstored)
    rw [ho, ho', hname] at hentry
    simpa using hentry
  generalize hcall : e.action = call at hstep
  cases hstep with
  | @created _ name cidr owner vpc sg hnew haccepted hvpcs _ hname hsgvpc hgroups =>
      have hwants := hnamed.wantsVpc_of_newVpc hnew
      rw [hcall, OrgCall.wantsGroup_of_wantsVpc hwants] at hapart
      refine h.created hkept hfresh (fun k stored o o' hstored hsame ho ho' => ?_) hgroups
      obtain ⟨vpc', hvpc', howner⟩ := Option.bind_eq_some_iff.mp ho'
      rw [hvpcs, hsgvpc, Std.ExtTreeMap.getElem?_insert_self] at hvpc'
      cases hvpc'
      rw [haccepted.owner_eq] at howner
      exact hapart _ List.mem_cons_self k stored o o' hstored (hsame.trans hname) ho
        (ownerOrg_of_kept hkept (.inr ⟨name, hcall ▸ hwants⟩) howner)
  | deleted _ _ _ _ hgroups =>
      exact h.of_subset hkept hfresh fun k sg hget => hgroups ▸ hget
  | other hvpcs _ hgroups =>
      cases hgroups with
      | @created name vpcName vpc sg hvpc hname hsgvpc hgroups =>
          obtain ⟨hvpcName, hstoredVpc⟩ := hnamed.name_of_getVpc hvpc
          rw [hcall] at hapart
          refine h.created hkept hfresh (fun k stored o o' hstored hsame ho ho' => ?_) hgroups
          obtain ⟨vpc', hvpc', howner⟩ := Option.bind_eq_some_iff.mp ho'
          rw [hvpcs, hsgvpc, hstoredVpc] at hvpc'
          cases hvpc'
          refine hapart (ownerOrg e.before.sm.orgStore vpc.owner) ?_ k stored o o' hstored
            (hsame.trans hname) ho (ownerOrg_of_kept hkept (.inl ⟨_, vpc, hstoredVpc, rfl⟩) howner)
          refine List.mem_map.mpr ⟨(vpc.id, vpc), List.mem_filter.mpr ⟨?_, ?_⟩, rfl⟩
          · exact Std.ExtTreeMap.mem_toList_iff_getElem?_eq_some.mpr hstoredVpc
          · exact beq_iff_eq.mpr hvpcName
      | deleted hgroups =>
          exact h.of_subset hkept hfresh fun k sg hget =>
            (Std.ExtTreeMap.of_getElem?_erase (hgroups ▸ hget)).2
      | other hgroups => exact h.of_subset hkept hfresh fun k sg hget => hgroups ▸ hget

end Step

structure Lookups (r : Replica) : Prop where
  named : NamedVpcs r
  groups : GroupsApart r

theorem Lookups.lookupsStay {r : Replica} (h : Lookups r) : r.LookupsStay where
  vpc _ _ hvpc := h.named.getVpc_name hvpc
  group k sg found o o' hsg hfound ho ho' := by
    obtain ⟨hlisted, hname⟩ := List.mem_filter.mp (List.mem_of_mem_head? hfound)
    obtain ⟨⟨k', _⟩, hmem, rfl⟩ := List.mem_map.mp hlisted
    exact h.groups k' k _ sg o' o (Std.ExtTreeMap.mem_toList_iff_getElem?_eq_some.mp hmem) hsg
      (beq_iff_eq.mp hname) ho' ho

/-- **Lookups stay with the tenant.** After all calls on a store that starts without VPCs and security
groups, when tenants shared no names, every VPC is the one its name stands for and the name of a
security group does not stand for a group of another org. -/
theorem lookups_stay_of_calls (calls : List OrgCall) (r : Replica) (hvpcs : r.vpcs = ∅)
    (hindex : r.vpcNames = ∅) (hgroups : r.groups = ∅)
    (hvpcNames : ∀ e ∈ trace OrgCall.apply calls r, e.action.namesVpcsApart e.before = true)
    (hgroupNames : ∀ e ∈ trace OrgCall.apply calls r, e.action.namesGroupsApart e.before = true)
    (hfresh : ∀ e ∈ trace OrgCall.apply calls r, drawsFreshVpcs e = true)
    (hkept : ∀ e ∈ trace OrgCall.apply calls r, keepsOwners e = true) :
    (reached OrgCall.apply calls r).LookupsStay := by
  have hstart : Lookups r := by
    refine ⟨?_, ?_⟩
    · constructor <;> simp [hvpcs, hindex]
    · simp [GroupsApart, hgroups]
  refine Lookups.lookupsStay ((run_trace calls r).invariant (I := fun _ => Lookups)
    (C := fun _ e => e.action.namesVpcsApart e.before = true ∧
      e.action.namesGroupsApart e.before = true ∧ drawsFreshVpcs e = true ∧ keepsOwners e = true)
    hstart ?_ (.of_forall fun e he => ⟨hvpcNames e he, hgroupNames e he, hfresh e he, hkept e he⟩))
  rintro _ t call h ⟨hvpcName, hgroupName, hdraws, howners⟩
  have hstep := vpcStep_apply call t
  exact ⟨NamedVpcs.step (e := Exec.of OrgCall.apply call t) h.named hstep hvpcName hdraws,
    GroupsApart.step (e := Exec.of OrgCall.apply call t) h.groups h.named hstep hgroupName hdraws
      howners⟩

/-- Two VPCs of one org, one of which has a security group of its own, beside another org. -/
def apartNames : List OrgCall :=
  [.command (.createOrg "acme"), .command (.createOrg "beta"), .command (.createProject "web" "acme"),
    .command (.createVpc "net" "10.0.0.0/16" "acme" true),
    .command (.createVpc "lan" "10.1.0.0/16" "acme/web" false), .command (.createSg "front" "lan")]

theorem lookups_stay_of_apart_names :
    (reached OrgCall.apply apartNames .counting).LookupsStay ∧
    ((reached OrgCall.apply apartNames .counting).groups.toList.map fun entry => entry.2.name) =
      ["default", "default", "front"] := by
  refine ⟨lookups_stay_of_calls apartNames .counting rfl rfl rfl ?_ ?_ ?_ ?_, ?_⟩
  · decide +kernel
  · decide +kernel
  · decide +kernel
  · decide +kernel
  · decide +kernel

def sharedName : List OrgCall :=
  [.command (.createOrg "acme"), .command (.createOrg "beta"),
    .command (.createVpc "net" "10.0.0.0/16" "acme" false),
    .command (.createVpc "net" "10.0.0.0/16" "beta" false)]

/-- The name stands for the VPC of the first org, also for the second: its deletion of `net` removes
the VPC of the first. -/
theorem shared_name_crosses :
    ¬ (reached OrgCall.apply sharedName .counting).LookupsStay ∧
    ((reached OrgCall.apply (sharedName ++ [.command (.deleteVpc "net")]) .counting).vpcs.toList.map
      fun entry => entry.2.owner) = [.org "beta"] := by
  refine ⟨fun h => ?_, by decide +kernel⟩
  have hbeta : ((reached OrgCall.apply sharedName .counting).vpcs.toList.any fun entry =>
      decide (entry.2.owner = .org "beta" ∧ entry.2.name = "net")) = true := by decide +kernel
  have hfirst : (getVpc (reached OrgCall.apply sharedName .counting).sm.orgStore "net").map
      (fun vpc => vpc.owner) = some (.org "acme") := by decide +kernel
  simp only [List.any_eq_true, decide_eq_true_eq] at hbeta
  obtain ⟨⟨k, vpc⟩, hmem, howner, hname⟩ := hbeta
  have hfound := h.vpc k vpc (Std.ExtTreeMap.mem_toList_iff_getElem?_eq_some.mp hmem)
  rw [hname] at hfound
  rw [hfound, Option.map_some, howner] at hfirst
  exact absurd hfirst (by decide)

end Syfrah
