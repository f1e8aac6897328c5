import Syfrah.Proof.AddressStep

/-!
# What calls do to VPCs and subnets

The organisation store is called by commands and, for new VPCs, also directly with an owner in any of
its forms. `VpcStep` lists all that such a call can do to the VPCs and to the index of their names, and
`SubnetStep` what it can do to the subnets.
-/

namespace Syfrah

open Replica Tx

def Replica.vpcs (r : Replica) : Table Vpc := r.sm.orgStore.table .vpcs

def Replica.groups (r : Replica) : Table SecurityGroup := r.sm.orgStore.table .securityGroups

def Replica.vpcNames (r : Replica) : Table String := r.sm.orgStore.table .vpcNameIndex

/-- A node whose identifiers repeat only after sixteen of them. -/
def Replica.counting : Replica :=
  ⟨.new .empty, { Ambient.steady 0 with rng := fun n => UInt8.ofNat (n / 12) }⟩

/-- A call that reaches the organisation store: a command, or a new VPC with an owner in any form, or a
new subnet in a VPC that is not created on the way. -/
inductive OrgCall
  | command (c : Command)
  | createVpc (name cidr : String) (owner : VpcOwner) (shared : Bool)
  | createSubnet (vpcName : String) (envId : EnvironmentId) (name : String) (cidr : Option String)

namespace OrgCall

def handler : OrgCall → Handler StateMachineResponse
  | command c => handle c
  | createVpc name cidr owner shared => do
      return .created (← org (OrgStore.createVpc name cidr owner shared)).id
  | createSubnet vpcName envId name cidr => do
      return .created (← org (OrgStore.createSubnet vpcName envId name cidr)).id

def apply (call : OrgCall) (r : Replica) : StateMachineResponse × Replica :=
  (respond (call.handler r).1, (call.handler r).2)

/-- The VPC that a call is to create: its name, its network and its owner. -/
def newVpc (db : OrgDb) : OrgCall → Option (String × String × VpcOwner)
  | command (.createVpc name cidr owner _) => some (name, cidr, Handle.vpcOwner owner)
  | createVpc name cidr owner _ => some (name, cidr, owner)
  | command (.createSubnet _ vpc _ _) =>
      if Text.endsWith vpc "-default" && (OrgStore.getVpc db vpc).isNone then
        (Handle.defaultVpcParts vpc).map fun (orgName, project) =>
          (vpc, "10.1.0.0/16", .project s!"{orgName}/{project}")
      else none
  | _ => none

end OrgCall

namespace OrgStore

/-- The networks that a new VPC of the owner is compared with, and the state after they are read. -/
def compared (owner : VpcOwner) (s : OrgDb × Ambient) :
    Except OrgError (List Ipv4Net) × OrgDb × Ambient :=
  existingCidrsForOrg owner (checkOwner owner s).2

structure VpcAccepted (name cidr : String) (owner : VpcOwner) (s : OrgDb × Ambient) (vpc : Vpc) :
    Prop where
  name_eq : vpc.name = name
  cidr_eq : vpc.cidr = cidr
  owner_eq : vpc.owner = owner
  valid_name : validateName name "vpc" = .ok ()
  owner_ok : (checkOwner owner s).1 = .ok ()
  clear : ∃ net existing, parseAndValidateCidr cidr = .ok net ∧
    (compared owner s).1 = .ok existing ∧ ∀ other ∈ existing, cidrsOverlap net other = false
  drawn : vpc.id = ((compared owner s).2.2.generateId "vpc").1
  unnamed : (s.1.table .vpcNameIndex)[vpcNameKey owner name]? = none

def StoresVpc (name cidr : String) (owner : VpcOwner) (s : OrgDb × Ambient) :
    Except OrgError Vpc → OrgDb × Ambient → Prop
  | .error _, t => ∀ tb : OrgTable, tb ∉ projectTables → t.1.table tb = s.1.table tb
  | .ok vpc, t => VpcAccepted name cidr owner s vpc ∧ ∃ u : OrgDb × Ambient,
      u.1.table .vpcs = (s.1.table .vpcs).insert vpc.id vpc ∧
      u.1.table .vpcNameIndex = (s.1.table .vpcNameIndex).insert (vpcNameKey owner name) vpc.id ∧
      (∀ tb : OrgTable, tb ∉ .vpcs :: .vpcNameIndex :: .vniCounter :: projectTables →
        u.1.table tb = s.1.table tb) ∧
      u.2.rng = ((compared owner s).2.2.generateId "vpc").2.rng ∧
      t = (createDefaultRouteTable vpc (createDefaultSg vpc u).2).2

def CreatesVpc (name cidr : String) (owner : VpcOwner) (s : OrgDb × Ambient) :
    Except OrgError Vpc → OrgDb × Ambient → Prop
  | .error _, t => t.1.table .vpcs = s.1.table .vpcs ∧
      t.1.table .vpcNameIndex = s.1.table .vpcNameIndex ∧
      t.1.table .securityGroups = s.1.table .securityGroups
  | .ok vpc, t => VpcAccepted name cidr owner s vpc ∧
      t.1.table .vpcs = (s.1.table .vpcs).insert vpc.id vpc ∧
      t.1.table .vpcNameIndex = (s.1.table .vpcNameIndex).insert (vpcNameKey owner name) vpc.id ∧
      ∃ sg : SecurityGroup, sg.name = "default" ∧ sg.vpcId = vpc.id ∧
        t.1.table .securityGroups = (s.1.table .securityGroups).insert sg.id sg

variable (s : OrgDb × Ambient)

theorem table_nextVni {t : OrgTable} (ht : t ≠ .vniCounter) :
    (nextVni s).2.1.table t = s.1.table t :=
  LayerDb.table_set_of_ne _ ht _ _

theorem createDefaultSg_spec (vpc : Vpc) :
    Ensures (createDefaultSg vpc) s fun result t => ∃ sg : SecurityGroup, result = .ok sg ∧
      sg.name = "default" ∧ sg.vpcId = vpc.id ∧
      t.1.table .securityGroups = (s.1.table .securityGroups).insert sg.id sg := by
  refine .take (.take (.write (.write (.pure ⟨_, rfl, rfl, rfl, ?_⟩))))
  dsimp only
  rw [LayerDb.table_set_of_ne _ (by decide), LayerDb.table_set_self]

theorem createVpc_stores (name cidr : String) (owner : VpcOwner) (shared : Bool) :
    Ensures (createVpc name cidr owner shared) s (StoresVpc name cidr owner s) := by
  refine .check (fun _ _ _ _ => rfl) fun _ hname => .check (fun _ _ _ _ => rfl) fun net hnet => ?_
  -- the lookup of the owner may move records of orgs and projects, but no others
  have howner : ∀ t : OrgTable, t ∉ projectTables → (checkOwner owner s).2.1.table t = s.1.table t :=
    writes_checkOwner owner s
  have hcompared : ∀ t : OrgTable, t ∉ projectTables →
      (compared owner s).2.1.table t = s.1.table t := fun t ht =>
    (writes_existingCidrsForOrg owner _ t (by revert ht; cases t <;> decide)).trans (howner t ht)
  refine .bind_run (fun _ u hu => ?_) fun e u hu => ?_
  swap
  · rw [hu] at howner
    exact howner
  have hu' : (checkOwner owner s).1 = .ok () := congrArg Prod.fst hu
  rw [compared] at hcompared
  rw [hu] at howner hcompared
  refine .read (.rejectIf (fun _ => howner) fun hunnamed => ?_)
  refine .bind_run (fun existing v hv => ?_) fun e v hv => ?_
  swap
  · rw [hv] at hcompared
    exact hcompared
  have hv' : compared owner s = (.ok existing, v) := by rw [compared, hu]; exact hv
  rw [hv] at hcompared
  refine .rejectSome (fun _ _ => hcompared) fun hclear => ?_
  refine .bind_total rfl (.take (.take (.write (.write (.bind_total rfl (.bind_total rfl
    (.pure ?_)))))))
  have hkey : (u.1.table .vpcNameIndex)[vpcNameKey owner name]? = none :=
    Option.isNone_iff_eq_none.mp (Option.isSome_eq_false_iff.mp hunnamed)
  rw [howner .vpcNameIndex (by decide)] at hkey
  refine ⟨⟨rfl, rfl, rfl, hname, hu', ⟨net, existing, hnet, by rw [hv'], by simpa using hclear⟩,
    by rw [hv']; rfl, hkey⟩, _, ?_, ?_, fun tb htb => ?_, by rw [hv']; rfl, rfl⟩
  · dsimp only
    rw [LayerDb.table_set_of_ne _ (by decide), LayerDb.table_set_self,
      table_nextVni v (by decide), hcompared .vpcs (by decide)]
  · dsimp only
    rw [LayerDb.table_set_self, LayerDb.table_set_of_ne _ (by decide), table_nextVni v (by decide),
      hcompared .vpcNameIndex (by decide)]
  · rw [List.mem_cons, not_or, List.mem_cons, not_or, List.mem_cons, not_or] at htb
    dsimp only
    rw [LayerDb.table_set_of_ne _ htb.2.1, LayerDb.table_set_of_ne _ htb.1,
      table_nextVni v htb.2.2.1, hcompared tb htb.2.2.2]

theorem createVpc_spec (name cidr : String) (owner : VpcOwner) (shared : Bool) :
    Ensures (createVpc name cidr owner shared) s (CreatesVpc name cidr owner s) := by
  refine (createVpc_stores s name cidr owner shared).mono ?_
  rintro (e | vpc) t hstores
  · exact ⟨hstores .vpcs (by decide), hstores .vpcNameIndex (by decide),
      hstores .securityGroups (by decide)⟩
  · obtain ⟨haccepted, u, hvpcs, hnames, hother, -, rfl⟩ := hstores
    refine ⟨haccepted, ?_, ?_, ?_⟩
    · rw [writes_createDefaultRouteTable _ _ _ (by decide), writes_createDefaultSg _ _ _ (by decide), hvpcs]
    · rw [writes_createDefaultRouteTable _ _ _ (by decide), writes_createDefaultSg _ _ _ (by decide),
        hnames]
    · obtain ⟨sg, -, hsgname, hsgvpc, hsg⟩ := createDefaultSg_spec u vpc
      refine ⟨sg, hsgname, hsgvpc, ?_⟩
      rw [writes_createDefaultRouteTable _ _ _ (by decide), hsg, hother .securityGroups (by decide)]

theorem entry_of_getVpc {db : OrgDb} {name : String} {vpc : Vpc} (h : getVpc db name = some vpc) :
    ∃ key id, (db.table .vpcNameIndex)[key]? = some id ∧ Text.endsWith key s!"/{name}" = true ∧
      (db.table .vpcs)[id]? = some vpc := by
  unfold getVpc at h
  split at h
  · rename_i key id hfind
    have hmem : (key, id) ∈ (db.table .vpcNameIndex).toList := List.mem_of_find?_eq_some hfind
    exact ⟨key, id, Std.ExtTreeMap.mem_toList_iff_getElem?_eq_some.mp hmem,
      by simpa using List.find?_some hfind, h⟩
  · cases h

def DeletesVpc (name : String) (s : OrgDb × Ambient) :
    Except OrgError Unit → OrgDb × Ambient → Prop
  | .error _, t => t = s
  | .ok _, t => ∃ vpc, getVpc s.1 name = some vpc ∧ listPeeringsByVpcId s.1 vpc.id = [] ∧
      t.1.table .vpcs = (s.1.table .vpcs).erase vpc.id ∧
      t.1.table .vpcNameIndex = (s.1.table .vpcNameIndex).erase (vpcNameKey vpc.owner name) ∧
      t.1.table .securityGroups = s.1.table .securityGroups

theorem createSecurityGroup_spec (name vpcName description : String) :
    Ensures (createSecurityGroup name vpcName description) s fun result t =>
      match result with
      | .error _ => t.1.table .securityGroups = s.1.table .securityGroups
      | .ok sg => ∃ vpc, getVpc s.1 vpcName = some vpc ∧ sg.name = name ∧ sg.vpcId = vpc.id ∧
          t.1.table .securityGroups = (s.1.table .securityGroups).insert sg.id sg := by
  refine .read (.orThrow (fun _ => rfl) fun vpc hvpc => .check (fun _ _ => rfl) fun _ _ =>
    .read (.rejectIf (fun _ => rfl) fun _ => .take (.take (.write (.write
      (.pure ⟨vpc, hvpc, rfl, rfl, ?_⟩))))))
  dsimp only
  rw [LayerDb.table_set_of_ne _ (by decide), LayerDb.table_set_self]

theorem deleteSg_spec (vpcId : VpcId) (name : String) :
    Ensures (deleteSg vpcId name) s fun _ t =>
      t.1.table .securityGroups = s.1.table .securityGroups ∨
        ∃ id, t.1.table .securityGroups = (s.1.table .securityGroups).erase id := by
  refine .read (.orThrow (fun _ => .inl rfl) fun id _ => .read (.orThrow (fun _ => .inl rfl)
    fun sg _ => .rejectIf (fun _ => .inl rfl) fun _ => .take (.take (.pure (.inr ⟨id, ?_⟩)))))
  dsimp only
  rw [LayerDb.table_delete_self, LayerDb.table_delete_of_ne _ (by decide)]

theorem getSecurityGroup_spec (name : String) (vpcName : Option String) :
    Ensures (getSecurityGroup name vpcName) s fun _ t => t = s := by
  cases vpcName with
  | some vname => exact .read (.orThrow (fun _ => rfl) fun _ _ => rfl)
  | none =>
      refine .read ?_
      split <;> rfl

theorem deleteSecurityGroup_spec (name : String) (vpcName : Option String) :
    Ensures (deleteSecurityGroup name vpcName) s fun _ t =>
      t.1.table .securityGroups = s.1.table .securityGroups ∨
        ∃ id, t.1.table .securityGroups = (s.1.table .securityGroups).erase id := by
  refine .bind (getSecurityGroup_spec s name vpcName) ?_ fun _ t ht => .inl (by rw [ht])
  rintro found t rfl
  exact .orThrow (fun _ => .inl rfl) fun sg _ => .rejectIf (fun _ => .inl rfl) fun _ =>
    deleteSg_spec t sg.vpcId name

theorem deleteVpc_spec (name : String) : Ensures (deleteVpc name) s (DeletesVpc name s) := by
  refine .read (.orThrow (fun _ => rfl) fun vpc hvpc => .read (.rejectIf (fun _ => rfl) fun hpeer =>
    .take (.take (.pure ⟨vpc, hvpc, by simpa using hpeer, ?_, ?_, ?_⟩))))
  · dsimp only
    rw [LayerDb.table_delete_self, LayerDb.table_delete_of_ne _ (by decide)]
  · dsimp only
    rw [LayerDb.table_delete_of_ne _ (by decide), LayerDb.table_delete_self]
  · dsimp only
    rw [LayerDb.table_delete_of_ne _ (by decide), LayerDb.table_delete_of_ne _ (by decide)]

end OrgStore

/-! ### The transitions -/

open OrgStore in
inductive GroupStep (r r' : Replica) : OrgCall → Prop
  | created {name vpcName : String} {vpc : Vpc} {sg : SecurityGroup}
      (hvpc : getVpc r.sm.orgStore vpcName = some vpc) (hname : sg.name = name)
      (hsgvpc : sg.vpcId = vpc.id) (hgroups : r'.groups = r.groups.insert sg.id sg) :
      GroupStep r r' (.command (.createSg name vpcName))
  | deleted {call : OrgCall} {id : SecurityGroupId} (hgroups : r'.groups = r.groups.erase id) :
      GroupStep r r' call
  | other {call : OrgCall} (hgroups : r'.groups = r.groups) : GroupStep r r' call

open OrgStore in
inductive VpcStep (r r' : Replica) : OrgCall → Prop
  | created {call : OrgCall} {name cidr : String} {owner : VpcOwner} {vpc : Vpc} {sg : SecurityGroup}
      (hcall : call.newVpc r.sm.orgStore = some (name, cidr, owner))
      (hvpc : VpcAccepted name cidr owner (orgLens.get r) vpc)
      (hvpcs : r'.vpcs = r.vpcs.insert vpc.id vpc)
      (hnames : r'.vpcNames = r.vpcNames.insert (vpcNameKey owner name) vpc.id)
      (hname : sg.name = "default") (hsgvpc : sg.vpcId = vpc.id)
      (hgroups : r'.groups = r.groups.insert sg.id sg) : VpcStep r r' call
  | deleted {name : String} {vpc : Vpc} (hvpc : getVpc r.sm.orgStore name = some vpc)
      (hpeerings : listPeeringsByVpcId r.sm.orgStore vpc.id = [])
      (hvpcs : r'.vpcs = r.vpcs.erase vpc.id)
      (hnames : r'.vpcNames = r.vpcNames.erase (vpcNameKey vpc.owner name))
      (hgroups : r'.groups = r.groups) : VpcStep r r' (.command (.deleteVpc name))
  | other {call : OrgCall} (hvpcs : r'.vpcs = r.vpcs) (hnames : r'.vpcNames = r.vpcNames)
      (hgroups : GroupStep r r' call) : VpcStep r r' call

theorem vpcStep_createVpc {call : OrgCall} {name cidr : String} {owner : VpcOwner}
    {r : Replica} (hcall : call.newVpc r.sm.orgStore = some (name, cidr, owner)) (shared : Bool)
    {k : Vpc → Handler StateMachineResponse} (hk : ∀ vpc t, (k vpc t).2 = t) :
    Ensures (org (OrgStore.createVpc name cidr owner shared) >>= k) r
      fun _ r' => VpcStep r r' call := by
  refine .org (OrgStore.createVpc_spec _ name cidr owner shared) ?_
    fun _ _ h => .other h.1 h.2.1 (.other h.2.2)
  rintro vpc t ⟨hvpc, hvpcs, hnames, sg, hname, hsgvpc, hgroups⟩
  unfold Ensures
  rw [hk]
  exact .created hcall hvpc hvpcs hnames hname hsgvpc hgroups

theorem vpcStep_autoCreateVpc (name vpc envId : String) (cidr : Option String) (r : Replica) :
    Ensures (Handle.autoCreateVpc vpc) r fun _ r' =>
      VpcStep r r' (.command (.createSubnet name vpc envId cidr)) := by
  unfold Handle.autoCreateVpc
  refine .bind_ok (org_query _ r) ?_
  split
  · rename_i hdefault
    split
    · exact .pure (.other rfl rfl (.other rfl))
    · rename_i orgName project hparts
      have hcall : (OrgCall.command (.createSubnet name vpc envId cidr)).newVpc r.sm.orgStore =
          some (vpc, "10.1.0.0/16", .project s!"{orgName}/{project}") := by
        rw [OrgCall.newVpc, if_pos hdefault, hparts]
        rfl
      refine .result ?_
      have hspec := OrgStore.createVpc_spec (orgLens.get r) vpc "10.1.0.0/16"
        (.project s!"{orgName}/{project}") false
      rw [zoom_apply]
      unfold Ensures at hspec
      rcases hrun : OrgStore.createVpc vpc "10.1.0.0/16" (.project s!"{orgName}/{project}") false
        (orgLens.get r) with ⟨result, t⟩
      rw [hrun] at hspec
      cases result with
      | error e => exact .other hspec.1 hspec.2.1 (.other hspec.2.2)
      | ok new =>
          obtain ⟨hvpc, hvpcs, hnames, sg, hname, hsgvpc, hgroups⟩ := hspec
          exact .pure (.created hcall hvpc hvpcs hnames hname hsgvpc hgroups)
  · exact .pure (.other rfl rfl (.other rfl))

theorem VpcStep.congr {r t r' : Replica} {call : OrgCall} (h : VpcStep r t call)
    (hvpcs : r'.vpcs = t.vpcs) (hnames : r'.vpcNames = t.vpcNames) (hgroups : r'.groups = t.groups) :
    VpcStep r r' call := by
  cases h with
  | created hcall hvpc hvpcs' hnames' hname hsgvpc hgroups' =>
      exact .created hcall hvpc (hvpcs.trans hvpcs') (hnames.trans hnames') hname hsgvpc
        (hgroups.trans hgroups')
  | deleted hvpc hpeerings hvpcs' hnames' hgroups' =>
      exact .deleted hvpc hpeerings (hvpcs.trans hvpcs') (hnames.trans hnames')
        (hgroups.trans hgroups')
  | other hvpcs' hnames' hgroups' =>
      refine .other (hvpcs.trans hvpcs') (hnames.trans hnames') ?_
      cases hgroups' with
      | created hvpc hname hsgvpc hgroups' =>
          exact .created hvpc hname hsgvpc (hgroups.trans hgroups')
      | deleted hgroups' => exact .deleted (hgroups.trans hgroups')
      | other hgroups' => exact .other (hgroups.trans hgroups')

theorem vpcs_newSubnet (vpcName : String) (envId : EnvironmentId) (name : String)
    (cidr : Option String) (r : Replica) :
    Ensures ((OrgCall.createSubnet vpcName envId name cidr).handler) r fun _ r' =>
      r'.vpcs = r.vpcs ∧ r'.vpcNames = r.vpcNames ∧ r'.groups = r.groups := by
  have hframe : Ensures (OrgStore.createSubnet vpcName envId name cidr) (orgLens.get r) fun _ u =>
      u.1.table .vpcs = r.vpcs ∧ u.1.table .vpcNameIndex = r.vpcNames ∧
        u.1.table .securityGroups = r.groups :=
    ⟨OrgStore.writes_createSubnet vpcName envId name cidr _ _ (by decide),
      OrgStore.writes_createSubnet vpcName envId name cidr _ _ (by decide),
      OrgStore.writes_createSubnet vpcName envId name cidr _ _ (by decide)⟩
  exact .org hframe (fun _ _ hu => .pure hu) fun _ _ hu => hu

theorem vpcStep_createSubnet (name vpc envId : String) (cidr : Option String) (r : Replica) :
    Ensures (Handle.createSubnet name vpc envId cidr) r fun _ r' =>
      VpcStep r r' (.command (.createSubnet name vpc envId cidr)) := by
  refine .bind (vpcStep_autoCreateVpc name vpc envId cidr r) ?_ fun _ _ h => h
  intro _ t ht
  obtain ⟨hvpcs, hnames, hgroups⟩ := vpcs_newSubnet vpc envId name cidr t
  exact ht.congr hvpcs hnames hgroups

theorem vpcStep_deleteVpc (name : String) (r : Replica) :
    Ensures (handle (.deleteVpc name)) r fun _ r' => VpcStep r r' (.command (.deleteVpc name)) := by
  refine .org (OrgStore.deleteVpc_spec _ name) ?_ fun _ _ h => ?_
  · rintro _ t ⟨vpc, hvpc, hpeerings, hvpcs, hnames, hgroups⟩
    exact .pure (.deleted hvpc hpeerings hvpcs hnames hgroups)
  · rw [h]
    exact .other rfl rfl (.other rfl)

theorem vpcStep_of_notMem {c : Command} (hvpcs : .vpcs ∉ c.orgTables)
    (hnames : .vpcNameIndex ∉ c.orgTables) {r : Replica}
    (hgroups : GroupStep r ((OrgCall.command c).apply r).2 (.command c)) :
    VpcStep r ((OrgCall.command c).apply r).2 (.command c) :=
  .other (orgTable_applySingle c r hvpcs) (orgTable_applySingle c r hnames) hgroups

theorem groupStep_of_notMem {c : Command} (h : .securityGroups ∉ c.orgTables) (r : Replica) :
    GroupStep r ((OrgCall.command c).apply r).2 (.command c) :=
  .other (orgTable_applySingle c r h)

theorem groupStep_createSg (name vpc : String) (r : Replica) :
    Ensures (handle (.createSg name vpc)) r fun _ r' =>
      GroupStep r r' (.command (.createSg name vpc)) := by
  refine .org (OrgStore.createSecurityGroup_spec _ name vpc "") ?_ fun _ _ h => .other h
  rintro sg t ⟨found, hvpc, hname, hsgvpc, hgroups⟩
  exact .pure (.created hvpc hname hsgvpc hgroups)

theorem groupStep_deleteSg (name : String) (r : Replica) :
    Ensures (handle (.deleteSg name)) r fun _ r' =>
      GroupStep r r' (.command (.deleteSg name)) := by
  have hstep : ∀ t : OrgDb × Ambient, (t.1.table .securityGroups = r.groups ∨
      ∃ id, t.1.table .securityGroups = r.groups.erase id) →
      GroupStep r (orgLens.set t r) (.command (.deleteSg name)) := by
    rintro t (h | ⟨id, h⟩)
    · exact .other h
    · exact .deleted h
  exact .org (OrgStore.deleteSecurityGroup_spec _ name none) (fun _ t h => .pure (hstep t h))
    fun _ t h => hstep t h

/-- **All calls.** -/
theorem vpcStep_apply (call : OrgCall) (r : Replica) : VpcStep r (call.apply r).2 call := by
  cases call with
  | createVpc name cidr owner shared =>
      exact vpcStep_createVpc rfl shared fun _ _ => rfl
  | createSubnet vpcName envId name cidr =>
      obtain ⟨hvpcs, hnames, hgroups⟩ := vpcs_newSubnet vpcName envId name cidr r
      exact .other hvpcs hnames (.other hgroups)
  | command c =>
      cases c with
      | createVpc name cidr owner shared => exact vpcStep_createVpc rfl shared fun _ _ => rfl
      | deleteVpc name => exact vpcStep_deleteVpc name r
      | createSubnet name vpc envId cidr => exact vpcStep_createSubnet name vpc envId cidr r
      | createSg name vpc =>
          exact vpcStep_of_notMem (by simp [Command.orgTables]) (by simp [Command.orgTables])
            (groupStep_createSg name vpc r)
      | deleteSg name =>
          exact vpcStep_of_notMem (by simp [Command.orgTables]) (by simp [Command.orgTables])
            (groupStep_deleteSg name r)
      | _ =>
          exact vpcStep_of_notMem (by simp [Command.orgTables]) (by simp [Command.orgTables])
            (groupStep_of_notMem (by simp [Command.orgTables]) r)

end Syfrah
