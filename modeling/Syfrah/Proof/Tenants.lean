import Syfrah.Proof.VpcStep

/-!
# Owners of VPCs and the organisations they stand for

The owner of a VPC is written as the identifier or the name of an org, the identifier of a project, or
as `org/project`. `ownerOrg` is the org that it stands for. The store itself reads owners in two ways,
one for the owner of a new VPC and one for the owners of stored ones; the lemmas here say when each of
them is that org. They are about lookups that do not move a record: a lookup by name does so when it
finds a record stored under the name and no entry of the index.
-/

namespace Syfrah

open Replica Tx

namespace OrgStore

variable {s : OrgDb × Ambient}

/-! ### Lookups that move nothing -/

def namedOrg (db : OrgDb) (name : String) : Option Org :=
  (db.get .orgNameIdx name).bind fun id => db.get .orgs id

/-- No record is stored under the name itself, unless the index knows the name. -/
def orgSettled (db : OrgDb) (name : String) : Bool :=
  (db.get .orgNameIdx name).isSome || (db.get .orgs name).isNone

theorem get_of_settled {name : String} (h : orgSettled s.1 name = true) :
    get name s = (.ok (namedOrg s.1 name), s) := by
  unfold get
  rw [dbGet_bind_apply]
  cases hidx : s.1.get .orgNameIdx name with
  | some id => simp [namedOrg, hidx, dbGet]
  | none =>
      rw [orgSettled, hidx, Option.isSome_none, Bool.false_or, Option.isNone_iff_eq_none] at h
      dsimp only
      rw [dbGet_bind_apply, h, namedOrg, hidx]
      rfl

theorem resolveOrgId_of_settled {name : String} (h : orgSettled s.1 name = true) :
    resolveOrgId name s =
      (match s.1.get .orgNameIdx name with
        | some id => .ok id
        | none => .error (.notFound name), s) := by
  unfold resolveOrgId
  rw [dbGet_bind_apply]
  cases hidx : s.1.get .orgNameIdx name with
  | some id => rfl
  | none =>
      dsimp only
      rw [bind_apply_ok (get_of_settled h), namedOrg, hidx]
      rfl

def namedProject (db : OrgDb) (org name : String) : Option Project :=
  (db.get .projectNameIdx (projectNameKey org name)).bind fun id => db.get .projects id

def projectSettled (db : OrgDb) (org name : String) : Bool :=
  (db.get .projectNameIdx (projectNameKey org name)).isSome ||
    (db.get .projects (projectNameKey org name)).isNone

theorem getProject_of_settled {org name : String} (h : projectSettled s.1 org name = true) :
    getProject org name s = (.ok (namedProject s.1 org name), s) := by
  unfold getProject
  rw [dbGet_bind_apply]
  cases hidx : s.1.get .projectNameIdx (projectNameKey org name) with
  | some id => simp [namedProject, hidx, dbGet]
  | none =>
      rw [projectSettled, hidx, Option.isSome_none, Bool.false_or, Option.isNone_iff_eq_none] at h
      dsimp only
      rw [dbGet_bind_apply, h, namedProject, hidx]
      rfl

/-! ### The org of an owner -/

def ownerOrg (db : OrgDb) : VpcOwner → Option OrgId
  | .org x => if (db.get .orgs x).isSome then some x else db.get .orgNameIdx x
  | .project p =>
    match db.get .projects p with
    | some project => some project.orgId
    | none => (Text.splitOnce '/' p).bind fun parts => db.get .orgNameIdx parts.1

def ownerById (db : OrgDb) : VpcOwner → Bool
  | .org x => (db.get .orgs x).isSome
  | .project p => (db.get .projects p).isSome

def ownerSettled (db : OrgDb) : VpcOwner → Bool
  | .org _ => true
  | .project p => (db.get .projects p).isSome ||
      (Text.splitOnce '/' p).all fun parts => orgSettled db parts.1

theorem vpcOrg_of_byId {db : OrgDb} {vpc : Vpc} (h : ownerById db vpc.owner = true) :
    vpcOrg db vpc = ownerOrg db vpc.owner := by
  unfold vpcOrg ownerOrg
  unfold ownerById at h
  cases howner : vpc.owner with
  | org x =>
      rw [howner] at h
      simp only at h
      simp [h]
  | project p =>
      rw [howner] at h
      obtain ⟨project, hproject⟩ := Option.isSome_iff_exists.mp h
      simp [getProjectById, hproject]

def resolvedAs (db : OrgDb) : VpcOwner → Option OrgId
  | .org x => some x
  | .project p => ownerOrg db (.project p)

theorem resolveOwnerOrgId_of_settled {owner : VpcOwner} (h : ownerSettled s.1 owner = true) :
    Ensures (resolveOwnerOrgId owner) s fun result t =>
      t = s ∧ ∀ o, result = .ok o → resolvedAs s.1 owner = some o := by
  cases owner with
  | org x => exact ⟨rfl, fun o ho => congrArg some (Except.ok.inj ho)⟩
  | project p =>
      refine .read ?_
      simp only [resolvedAs, ownerOrg, getProjectById]
      simp only [ownerSettled] at h
      cases hproject : s.1.get .projects p with
      | some project => exact ⟨rfl, fun o ho => congrArg some (Except.ok.inj ho)⟩
      | none =>
          cases hsplit : Text.splitOnce '/' p with
          | none => exact ⟨rfl, fun _ ho => by cases ho⟩
          | some parts =>
              rw [hproject, hsplit] at h
              unfold Ensures
              dsimp only
              rw [resolveOrgId_of_settled (by simpa using h)]
              refine ⟨rfl, fun o ho => ?_⟩
              cases hidx : s.1.get .orgNameIdx parts.1 with
              | some id => simpa [hidx] using ho
              | none => simp [hidx] at ho

theorem isSome_index_of_namedOrg {db : OrgDb} {name : String} (h : (namedOrg db name).isNone = false) :
    (db.get .orgNameIdx name).isSome = true := by
  unfold namedOrg at h
  cases hidx : db.get .orgNameIdx name with
  | some id => rfl
  | none => simp [hidx] at h

theorem checkOwner_of_settled {owner : VpcOwner} (h : ownerSettled s.1 owner = true) :
    Ensures (checkOwner owner) s fun result t =>
      t = s ∧ (result = .ok () → (ownerOrg s.1 owner).isSome = true) := by
  cases owner with
  | org x =>
      refine .read ?_
      cases horg : s.1.get .orgs x with
      | some org => exact ⟨rfl, fun _ => by simp [ownerOrg, horg]⟩
      | none =>
          dsimp only
          refine .bind_ok (get_of_settled (by simp [orgSettled, horg])) ?_
          cases hnamed : (namedOrg s.1 x).isNone with
          | true => exact ⟨rfl, nofun⟩
          | false =>
              refine ⟨rfl, fun _ => ?_⟩
              simpa [ownerOrg, horg] using isSome_index_of_namedOrg hnamed
  | project p =>
      refine .read ?_
      simp only [getProjectById]
      simp only [ownerSettled] at h
      cases hproject : s.1.get .projects p with
      | some project => exact ⟨rfl, fun _ => by simp [ownerOrg, hproject]⟩
      | none =>
          cases hsplit : Text.splitOnce '/' p with
          | none => exact ⟨rfl, fun ho => by cases ho⟩
          | some parts =>
              rw [hproject, hsplit] at h
              -- the parts are put together again to the key of the project
              have hkey : projectNameKey parts.1 parts.2 = p := by
                rw [← String.toList_inj, Text.toList_of_splitOnce hsplit]
                change (parts.1 ++ "/" ++ parts.2).toList = _
                simp
              refine .bind_ok (get_of_settled (by simpa using h)) (.rejectIf
                (fun _ => ⟨rfl, fun ho => by cases ho⟩) fun hnamed => ?_)
              have hsettled : projectSettled s.1 parts.1 parts.2 = true := by
                simp [projectSettled, hkey, hproject]
              refine .bind_ok (getProject_of_settled hsettled) ?_
              cases hnone : (namedProject s.1 parts.1 parts.2).isNone with
              | true => exact ⟨rfl, fun ho => by cases ho⟩
              | false =>
                  refine ⟨rfl, fun _ => ?_⟩
                  simpa [ownerOrg, hproject, hsplit] using isSome_index_of_namedOrg hnamed

/-! ### Which VPCs a new one is compared with -/

/-- Two owners of one org that the check for overlaps brings together: identifiers, or one and the
same text. -/
def comparable (db : OrgDb) (stored new : VpcOwner) : Bool :=
  match new with
  | .org x => stored == .org x || ownerById db stored && (db.get .orgs x).isSome
  | .project _ => ownerById db stored

theorem vpcOrg_eq_resolvedAs {db : OrgDb} {vpc : Vpc} {owner : VpcOwner}
    (hsame : ownerOrg db vpc.owner = ownerOrg db owner)
    (h : comparable db vpc.owner owner = true) : vpcOrg db vpc = resolvedAs db owner := by
  cases owner with
  | org x =>
      rw [comparable, Bool.or_eq_true, beq_iff_eq, Bool.and_eq_true] at h
      rcases h with heq | ⟨hid, hx⟩
      · simp [vpcOrg, heq, resolvedAs]
      · rw [vpcOrg_of_byId hid, hsame]
        simp [ownerOrg, hx, resolvedAs]
  | project p => rw [vpcOrg_of_byId h, hsame, resolvedAs]

theorem existingCidrsForOrg_of_settled {owner : VpcOwner} (h : ownerSettled s.1 owner = true) :
    Ensures (existingCidrsForOrg owner) s fun result t => t = s ∧ ∀ existing, result = .ok existing →
      ∃ o, resolvedAs s.1 owner = some o ∧ existing =
        ((listVpcs s.1).filter fun v => vpcOrg s.1 v == some o).filterMap fun v =>
          Ipv4Net.parse v.cidr := by
  refine .bind (resolveOwnerOrgId_of_settled h) ?_ ?_
  · rintro o t ⟨rfl, ho⟩
    exact ⟨rfl, fun existing he => ⟨o, ho o rfl, (Except.ok.inj he).symm⟩⟩
  · rintro e t ⟨rfl, -⟩
    exact ⟨rfl, fun _ he => by cases he⟩

theorem compared_of_settled {owner : VpcOwner} (h : ownerSettled s.1 owner = true) :
    compared owner s = existingCidrsForOrg owner s := by
  have hstate : (checkOwner owner s).2 = s := (checkOwner_of_settled h).1
  rw [compared, hstate]

theorem mem_compared {owner : VpcOwner} {vpc : Vpc} {k : String} {net : Ipv4Net}
    {existing : List Ipv4Net} (hsettled : ownerSettled s.1 owner = true)
    (hexisting : (compared owner s).1 = .ok existing) (hvpc : (s.1.table .vpcs)[k]? = some vpc)
    (hnet : Ipv4Net.parse vpc.cidr = some net) (hsame : ownerOrg s.1 vpc.owner = ownerOrg s.1 owner)
    (hcomparable : comparable s.1 vpc.owner owner = true) : net ∈ existing := by
  rw [compared_of_settled hsettled] at hexisting
  obtain ⟨o, ho, rfl⟩ := (existingCidrsForOrg_of_settled hsettled).2 existing hexisting
  have hmem : vpc ∈ listVpcs s.1 := List.mem_map.mpr
    ⟨(k, vpc), Std.ExtTreeMap.mem_toList_iff_getElem?_eq_some.mpr hvpc, rfl⟩
  refine List.mem_filterMap.mpr ⟨vpc, List.mem_filter.mpr ⟨hmem, ?_⟩, hnet⟩
  rw [vpcOrg_eq_resolvedAs hsame hcomparable, ho, beq_self_eq_true]

/-! ### What calls do to orgs and projects -/

variable (s)

theorem create_spec (name : String) :
    Ensures (create name) s fun result t =>
      match result with
      | .error _ => t = s
      | .ok org => s.1.get .orgNameIdx name = none ∧ s.1.get .orgs name = none ∧
          t.1 = (s.1.set .orgs (s.2.generateId "org").1 org).set .orgNameIdx name
            (s.2.generateId "org").1 := by
  refine .check (fun _ _ => rfl) fun _ _ => .read (.rejectIf (fun _ => rfl) fun hindex =>
    .read (.rejectIf (fun _ => rfl) fun horgs => ?_))
  exact .take (.take (.write (.write (.pure ⟨by simpa using hindex, by simpa using horgs, rfl⟩))))

theorem createProject_of_settled {org : String} (h : orgSettled s.1 org = true) (name : String) :
    Ensures (createProject org name) s fun result t =>
      match result with
      | .error _ => t = s
      | .ok project => t.1 = (s.1.set .projects (s.2.generateId "proj").1 project).set
          .projectNameIdx (projectNameKey org name) (s.2.generateId "proj").1 := by
  refine .check (fun _ _ => rfl) fun _ _ => .bind_ok (get_of_settled h) (.orThrow (fun _ => rfl)
    fun orgObj _ => .read (.rejectIf (fun _ => rfl) fun _ => .read (.rejectIf (fun _ => rfl)
      fun _ => ?_)))
  exact .take (.take (.write (.write (.pure rfl))))

theorem createVpc_of_settled {owner : VpcOwner} (h : ownerSettled s.1 owner = true)
    (name cidr : String) (shared : Bool) {t : OrgTable} (ht : t ∈ projectTables) :
    Ensures (createVpc name cidr owner shared) s fun _ u => u.1.table t = s.1.table t := by
  refine .check (fun _ _ => rfl) fun _ _ => .check (fun _ _ => rfl) fun net _ =>
    .bind (checkOwner_of_settled h) ?_ fun _ u hu => by rw [hu.1]
  rintro _ u ⟨rfl, -⟩
  refine .read (.rejectIf (fun _ => rfl) fun _ => .bind (existingCidrsForOrg_of_settled h) ?_
    fun _ v hv => by rw [hv.1])
  rintro existing v ⟨rfl, -⟩
  refine .rejectSome (fun _ _ => rfl) fun _ => .bind_total rfl (.take (.take (.write (.write
    (.bind_total rfl (.bind_total rfl (.pure ?_)))))))
  have hne : t ∉ routeTableTables ∧ t ∉ [OrgTable.securityGroups, .sgNameIndex] ∧ t ≠ .vpcs ∧
      t ≠ .vpcNameIndex ∧ t ≠ .vniCounter := by
    revert ht
    cases t <;> decide
  rw [writes_createDefaultRouteTable _ _ _ hne.1, writes_createDefaultSg _ _ _ hne.2.1]
  dsimp only
  rw [LayerDb.table_set_of_ne _ hne.2.2.2.1, LayerDb.table_set_of_ne _ hne.2.2.1,
    table_nextVni _ hne.2.2.2.2]

end OrgStore

end Syfrah
