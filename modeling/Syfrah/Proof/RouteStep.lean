import Syfrah.Proof.VpcStep
import Syfrah.Proof.AddressStep

/-!
# What calls do to routes

The default route table of a VPC gets a local route for the VPC and one for each of its subnets. All
routes of a table are kept under the text of their destination, so that the store of a route replaces
whatever is there and its removal takes it away, whoever added it.
-/

namespace Syfrah

open Tx

/-- A route that the store adds by itself: to the network the table belongs to. -/
def Route.IsLocal (route : Route) : Prop := route.target = .localNet ∧ route.origin = .system

theorem Ambient.generateId_congr {a b : Ambient} (h : a.rng = b.rng) (word : String) :
    (a.generateId word).1 = (b.generateId word).1 ∧
      (a.generateId word).2.rng = (b.generateId word).2.rng := by
  simp only [Ambient.generateId, h, and_self]

namespace OrgStore

variable (s : OrgDb × Ambient)

/-- The key of the local route to a network in the default route table of a VPC. -/
def localKey (db : OrgDb) (vpcId : VpcId) (cidr : String) : Option String :=
  (getDefaultRouteTable db vpcId).map fun rt => routeKey rt.id cidr

def newVpcId (owner : VpcOwner) : VpcId := ((compared owner s).2.2.generateId "vpc").1

/-- The identifier that its default route table draws, after that of the default security group. -/
def newTableId (owner : VpcOwner) : RouteTableId :=
  ((((compared owner s).2.2.generateId "vpc").2.generateId "sg").2.generateId "rtb").1

structure OpensRoutes (owner : VpcOwner) (cidr : String) (vpc : Vpc) (t : OrgDb) : Prop where
  vpc_id : vpc.id = newVpcId s owner
  vpc_cidr : vpc.cidr = cidr
  vpcs : t.table .vpcs = (s.1.table .vpcs).insert vpc.id vpc
  subnets : t.table .subnets = s.1.table .subnets
  opened : ∃ rt route, rt.id = newTableId s owner ∧ route.IsLocal ∧
    t.table .routeTables = (s.1.table .routeTables).insert rt.id rt ∧
    t.table .routeTableNameIndex =
      (s.1.table .routeTableNameIndex).insert (routeTableNameKey vpc.id "default") rt.id ∧
    t.table .routes = (s.1.table .routes).insert (routeKey rt.id cidr) route

theorem insertRoute_spec (tableId : RouteTableId) (destination : String) (target : RouteTarget)
    (origin : RouteOrigin) (priority : ℕ) :
    Ensures (insertRoute tableId destination target origin priority) s fun result t =>
      ∃ route, result = .ok route ∧ route.target = target ∧ route.origin = origin ∧
        t.1 = s.1.set .routes (routeKey tableId destination) route :=
  .take (.take (.write (.pure ⟨_, rfl, rfl, rfl, rfl⟩)))

theorem insertRouteTable_spec (name : String) (vpcId : VpcId) (isDefault : Bool) :
    Ensures (insertRouteTable name vpcId isDefault) s fun result t =>
      ∃ rt, result = .ok rt ∧ rt.id = (s.2.generateId "rtb").1 ∧
        t.1 = (s.1.set .routeTables rt.id rt).set .routeTableNameIndex (routeTableNameKey vpcId name)
          rt.id :=
  .take (.take (.write (.write (.pure ⟨_, rfl, rfl, rfl⟩))))

theorem createDefaultRouteTable_spec (vpc : Vpc) :
    Ensures (createDefaultRouteTable vpc) s fun _ t => ∃ rt route,
      rt.id = (s.2.generateId "rtb").1 ∧ route.IsLocal ∧
      t.1.table .routeTables = (s.1.table .routeTables).insert rt.id rt ∧
      t.1.table .routeTableNameIndex =
        (s.1.table .routeTableNameIndex).insert (routeTableNameKey vpc.id "default") rt.id ∧
      t.1.table .routes = (s.1.table .routes).insert (routeKey rt.id vpc.cidr) route := by
  refine .bind (insertRouteTable_spec s "default" vpc.id true) ?_ (by rintro e t ⟨_, he, -⟩; cases he)
  rintro rt u ⟨_, hrt, hid, hu⟩
  obtain rfl := Except.ok.inj hrt
  refine .bind (insertRoute_spec u rt.id vpc.cidr .localNet .system 0) ?_
    (by rintro e t ⟨_, he, -⟩; cases he)
  rintro route t ⟨_, hroute, htarget, horigin, ht⟩
  obtain rfl := Except.ok.inj hroute
  refine .pure ⟨rt, route, hid, ⟨htarget, horigin⟩, ?_, ?_, ?_⟩
  · rw [ht, hu, LayerDb.table_set_of_ne _ (by decide), LayerDb.table_set_of_ne _ (by decide),
      LayerDb.table_set_self]
  · rw [ht, hu, LayerDb.table_set_of_ne _ (by decide), LayerDb.table_set_self,
      LayerDb.table_set_of_ne _ (by decide)]
  · rw [ht, hu, LayerDb.table_set_self, LayerDb.table_set_of_ne _ (by decide),
      LayerDb.table_set_of_ne _ (by decide)]

theorem createVpc_opens (name cidr : String) (owner : VpcOwner) (shared : Bool) :
    Ensures (createVpc name cidr owner shared) s fun result t =>
      match result with
      | .error _ => ∀ tb : OrgTable, tb ∉ projectTables → t.1.table tb = s.1.table tb
      | .ok vpc => OpensRoutes s owner cidr vpc t.1 := by
  refine (createVpc_stores s name cidr owner shared).mono ?_
  rintro (e | vpc) t hstores
  · exact hstores
  obtain ⟨haccepted, u, hvpcs, -, hother, hrng, rfl⟩ := hstores
  obtain ⟨rt, route, hid, hlocal, htables, hnames, hroutes⟩ :=
    createDefaultRouteTable_spec (createDefaultSg vpc u).2 vpc
  have hsg : ∀ {tb : OrgTable}, tb ∉ [OrgTable.securityGroups, .sgNameIndex] →
      tb ∉ .vpcs :: .vpcNameIndex :: .vniCounter :: projectTables →
      (createDefaultSg vpc u).2.1.table tb = s.1.table tb := fun hsg hvpc =>
    (writes_createDefaultSg vpc u _ hsg).trans (hother _ hvpc)
  refine ⟨haccepted.drawn, haccepted.cidr_eq, ?_, ?_, rt, route, ?_, hlocal, ?_, ?_, ?_⟩
  · rw [writes_createDefaultRouteTable _ _ _ (by decide), writes_createDefaultSg _ _ _ (by decide), hvpcs]
  · rw [writes_createDefaultRouteTable _ _ _ (by decide), hsg (by decide) (by decide)]
  · exact hid.trans (Ambient.generateId_congr (Ambient.generateId_congr hrng "sg").2 "rtb").1
  · rw [htables, hsg (by decide) (by decide)]
  · rw [hnames, hsg (by decide) (by decide)]
  · rw [hroutes, hsg (by decide) (by decide), haccepted.cidr_eq]

/-! ### Subnets -/

theorem localKey_congr {db db' : OrgDb} (htables : db'.table .routeTables = db.table .routeTables)
    (hnames : db'.table .routeTableNameIndex = db.table .routeTableNameIndex) (vpcId : VpcId)
    (cidr : String) : localKey db' vpcId cidr = localKey db vpcId cidr := by
  simp only [localKey, getDefaultRouteTable, getRouteTable, LayerDb.get, htables, hnames]

/-- The VPC and the network of a new subnet, when all that is checked for it holds. -/
def newSubnet (db : OrgDb) (vpcName : String) (envId : EnvironmentId) (name : String)
    (cidrOpt : Option String) : Option (Vpc × Ipv4Net) :=
  match validateName name "subnet", getVpc db vpcName with
  | .ok (), some vpc =>
    if (db.get .environments envId).isSome &&
        !(db.get .subnetNameIndex (subnetNameKey vpc.id name)).isSome then
      (Ipv4Net.parse vpc.cidr).bind fun vpcCidr =>
        let existing := (listSubnets db vpcName).filterMap fun s => Ipv4Net.parse s.cidr
        (chooseSubnetCidr vpcCidr existing cidrOpt).toOption.map fun net => (vpc, net)
    else none
  | _, _ => none

structure OpensSubnet (vpc : Vpc) (net : Ipv4Net) (name : String) (subnet : Subnet) (t : OrgDb) :
    Prop where
  vpc_id : subnet.vpcId = vpc.id
  cidr : subnet.cidr = net.display
  other : ∀ tb : OrgTable, tb ∉ [OrgTable.subnets, .subnetNameIndex, .routes] →
    t.table tb = s.1.table tb
  subnets : t.table .subnets = (s.1.table .subnets).insert (s.2.generateId "sub").1 subnet
  names : t.table .subnetNameIndex =
    (s.1.table .subnetNameIndex).insert (subnetNameKey vpc.id name) (s.2.generateId "sub").1
  routes : ∃ route : Route, route.IsLocal ∧ t.table .routes =
    (localKey s.1 vpc.id net.display).elim (s.1.table .routes) fun key =>
      (s.1.table .routes).insert key route

theorem addSubnetRoute_routes (vpcId : VpcId) (cidr : String) :
    Ensures (addSubnetRoute (getDefaultRouteTable s.1 vpcId) cidr) s fun result t =>
      result = .ok () ∧ (∀ tb : OrgTable, tb ≠ .routes → t.1.table tb = s.1.table tb) ∧
      ∃ route : Route, route.IsLocal ∧ t.1.table .routes =
        (localKey s.1 vpcId cidr).elim (s.1.table .routes) fun key =>
          (s.1.table .routes).insert key route := by
  unfold localKey addSubnetRoute
  cases getDefaultRouteTable s.1 vpcId with
  | none => exact ⟨rfl, fun _ _ => rfl, ⟨"", "", "", .localNet, .system, .active, 0, 0⟩, ⟨rfl, rfl⟩, rfl⟩
  | some rt =>
      refine .bind (insertRoute_spec s rt.id cidr .localNet .system 0) ?_
        (by rintro e t ⟨_, he, -⟩; cases he)
      rintro route t ⟨_, hroute, htarget, horigin, ht⟩
      obtain rfl := Except.ok.inj hroute
      refine .pure ⟨rfl, fun tb htb => ?_, route, ⟨htarget, horigin⟩, ?_⟩
      · rw [ht, LayerDb.table_set_of_ne _ htb]
      · rw [ht, LayerDb.table_set_self]
        rfl

theorem createSubnet_opens (vpcName : String) (envId : EnvironmentId) (name : String)
    (cidrOpt : Option String) :
    Ensures (createSubnet vpcName envId name cidrOpt) s fun result t =>
      match result with
      | .error _ => newSubnet s.1 vpcName envId name cidrOpt = none ∧ t = s
      | .ok subnet => ∃ vpc net, newSubnet s.1 vpcName envId name cidrOpt = some (vpc, net) ∧
          getVpc s.1 vpcName = some vpc ∧ OpensSubnet s vpc net name subnet t.1 := by
  refine .check (fun e he => ⟨by simp [newSubnet, he], rfl⟩) fun _ hname => ?_
  refine .read (.orThrow (fun hvpc => ⟨by simp_all [newSubnet], rfl⟩) fun vpc hvpc => ?_)
  refine .read (.rejectIf (fun henv => ⟨by simp_all [newSubnet], rfl⟩) fun henv => ?_)
  refine .read (.rejectIf (fun hfresh => ⟨by simp_all [newSubnet], rfl⟩) fun hfresh => ?_)
  refine .orThrow (fun hcidr => ⟨by simp_all [newSubnet], rfl⟩) fun vpcCidr hcidr => ?_
  refine .read (.check (fun e he => ⟨by simp_all [newSubnet, Except.toOption], rfl⟩) fun net hnet => ?_)
  have hplan : newSubnet s.1 vpcName envId name cidrOpt = some (vpc, net) := by
    simp_all [newSubnet, Except.toOption]
  refine .take (.take (.write (.write (.read (.bind (addSubnetRoute_routes _ _ _) ?_
    (by rintro e t ⟨he, -⟩; cases he))))))
  rintro _ t ⟨-, hother, route, hlocal, hroutes⟩
  have hsame : ∀ {tb : OrgTable}, tb ≠ .subnets → tb ≠ .subnetNameIndex → ∀ a b c d,
      ((s.1.set .subnets a b).set .subnetNameIndex c d).table tb = s.1.table tb :=
    fun hsubnets hnames a b c d => by
      rw [LayerDb.table_set_of_ne _ hnames, LayerDb.table_set_of_ne _ hsubnets]
  refine .pure ⟨vpc, net, hplan, hvpc, rfl, rfl, fun tb htb => ?_, ?_, ?_, route, hlocal, ?_⟩
  · simp only [List.mem_cons, List.not_mem_nil, or_false, not_or] at htb
    exact (hother tb htb.2.2).trans (hsame htb.1 htb.2.1 ..)
  · rw [hother _ (by decide)]
    dsimp only
    rw [LayerDb.table_set_of_ne _ (by decide), LayerDb.table_set_self]
    rfl
  · rw [hother _ (by decide)]
    dsimp only
    rw [LayerDb.table_set_self, LayerDb.table_set_of_ne _ (by decide)]
    rfl
  · rw [hroutes]
    dsimp only
    rw [localKey_congr (hsame (by decide) (by decide) ..) (hsame (by decide) (by decide) ..),
      hsame (by decide) (by decide)]

/-- The subnet with a name in a VPC, and the identifier it is stored under. -/
def namedSubnet (db : OrgDb) (vpcName subnetName : String) : Option (SubnetId × Subnet) :=
  (subnetIdNamed db vpcName subnetName).bind fun id => (db.get .subnets id).map fun subnet =>
    (id, subnet)

structure ClosesSubnet (id : SubnetId) (subnet : Subnet) (t : OrgDb) : Prop where
  other : ∀ tb : OrgTable, tb ∉ [OrgTable.subnets, .subnetNameIndex, .subnetRouteAssoc, .routes] →
    t.table tb = s.1.table tb
  subnets : t.table .subnets = (s.1.table .subnets).erase id
  routes : t.table .routes =
    (localKey s.1 subnet.vpcId subnet.cidr).elim (s.1.table .routes) (s.1.table .routes).erase

theorem removeSubnetRoute_routes (vpcId : VpcId) (cidr : String) :
    Ensures (removeSubnetRoute (getDefaultRouteTable s.1 vpcId) cidr) s fun result t =>
      result = .ok () ∧ (∀ tb : OrgTable, tb ≠ .routes → t.1.table tb = s.1.table tb) ∧
      t.1.table .routes =
        (localKey s.1 vpcId cidr).elim (s.1.table .routes) (s.1.table .routes).erase := by
  unfold localKey removeSubnetRoute
  cases getDefaultRouteTable s.1 vpcId with
  | none => exact ⟨rfl, fun _ _ => rfl, rfl⟩
  | some rt => exact ⟨rfl, fun tb htb => LayerDb.table_delete_of_ne _ htb _, LayerDb.table_delete_self ..⟩

theorem deleteSubnet_closes (vpcName subnetName : String) :
    Ensures (deleteSubnet vpcName subnetName) s fun result t =>
      match result with
      | .error _ => namedSubnet s.1 vpcName subnetName = none ∧ t = s
      | .ok _ => ∃ id subnet, namedSubnet s.1 vpcName subnetName = some (id, subnet) ∧
          ClosesSubnet s id subnet t.1 := by
  refine .read (.orThrow (fun hvpc => ⟨by simp_all [namedSubnet, subnetIdNamed], rfl⟩) fun vpc hvpc => ?_)
  refine .read (.orThrow (fun hid => ⟨by simp_all [namedSubnet, subnetIdNamed], rfl⟩) fun id hid => ?_)
  refine .read (.orThrow (fun hget => ⟨by simp_all [namedSubnet, subnetIdNamed], rfl⟩)
    fun subnet hget => ?_)
  have hnamed : namedSubnet s.1 vpcName subnetName = some (id, subnet) := by
    simp_all [namedSubnet, subnetIdNamed]
  refine .read (.bind (removeSubnetRoute_routes _ _ _) ?_ (by rintro e t ⟨he, -⟩; cases he))
  rintro _ t ⟨-, hother, hroutes⟩
  have hsame : ∀ {tb : OrgTable}, tb ≠ .subnets → tb ≠ .subnetNameIndex → tb ≠ .subnetRouteAssoc →
      ∀ a b c, (((t.1.delete .subnetRouteAssoc a).delete .subnetNameIndex b).delete .subnets c).table tb
        = t.1.table tb := fun hsubnets hnames hassoc a b c => by
    rw [LayerDb.table_delete_of_ne _ hsubnets, LayerDb.table_delete_of_ne _ hnames,
      LayerDb.table_delete_of_ne _ hassoc]
  refine .bind_total rfl (.take (.take (.pure ⟨id, subnet, hnamed, fun tb htb => ?_, ?_, ?_⟩)))
  · simp only [List.mem_cons, List.not_mem_nil, or_false, not_or] at htb
    exact (hsame htb.1 htb.2.1 htb.2.2.1 ..).trans (hother tb htb.2.2.2)
  · change (((t.1.delete .subnetRouteAssoc _).delete .subnetNameIndex _).delete .subnets id).table
      .subnets = _
    rw [LayerDb.table_delete_self, LayerDb.table_delete_of_ne _ (by decide),
      LayerDb.table_delete_of_ne _ (by decide), hother .subnets (by decide)]
  · exact (hsame (by decide) (by decide) (by decide) ..).trans hroutes

/-! ### Routes of users -/

theorem addRoute_spec (tableId : RouteTableId) (destination : String) (target : RouteTarget)
    (priority : Option ℕ) :
    Ensures (addRoute tableId destination target priority) s fun result t =>
      match result with
      | .error _ => t = s
      | .ok route => s.1.get .routes (routeKey tableId destination) = none ∧
          route.target = target ∧ route.origin = .user ∧
          t.1 = s.1.set .routes (routeKey tableId destination) route := by
  refine .read (.rejectIf (fun _ => rfl) fun hfree => ?_)
  refine (insertRoute_spec s tableId destination target .user (priority.getD 100)).mono ?_
  rintro _ t ⟨route, rfl, htarget, horigin, ht⟩
  exact ⟨by simpa using hfree, htarget, horigin, ht⟩

theorem removeRoute_spec (tableId : RouteTableId) (destination : String) :
    Ensures (removeRoute tableId destination) s fun result t =>
      match result with
      | .error _ => t = s ∧ ∀ route, s.1.get .routes (routeKey tableId destination) = some route →
          route.origin ≠ .user
      | .ok _ => t.1 = s.1.delete .routes (routeKey tableId destination) ∧
          ∃ route, s.1.get .routes (routeKey tableId destination) = some route ∧
            route.origin = .user := by
  refine .read (.orThrow (fun hnone => ⟨rfl, ?_⟩) fun route hroute => ?_)
  · intro route hroute
    rw [hnone] at hroute
    cases hroute
  · cases horigin : route.origin with
    | user => exact .take (.pure ⟨rfl, route, hroute, horigin⟩)
    | system | propagated =>
        refine ⟨rfl, fun found hfound => ?_⟩
        obtain rfl := Option.some.inj (hroute.symm.trans hfound)
        rw [horigin]
        nofun

end OrgStore

end Syfrah
