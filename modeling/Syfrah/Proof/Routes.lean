import Syfrah.Proof.RouteStep
import Syfrah.Lib.Holders

/-!
# The bookkeeping of routes

A VPC and each of its subnets need a local route in the default route table of the VPC, and a user
needs the routes that were added and not removed. They all share the keys of one table. A call keeps
the books unless it writes or removes under a key that somebody else needs.
-/

namespace Syfrah

open Tx OrgStore

/-- A call of the organisation store that can touch the routes of a default route table. -/
inductive RouteCall
  | createVpc (name cidr : String) (owner : VpcOwner) (shared : Bool)
  | createSubnet (vpcName : String) (envId : EnvironmentId) (name : String) (cidr : Option String)
  | deleteSubnet (vpcName subnetName : String)
  | addRoute (tableId : RouteTableId) (destination : String) (target : RouteTarget)
      (priority : Option ℕ)
  | removeRoute (tableId : RouteTableId) (destination : String)

/-- The store, and the routes that users added to it and did not remove. -/
structure Routing where
  store : OrgDb × Ambient
  added : List (RouteTableId × String × RouteTarget)

namespace RouteCall

def perform : RouteCall → OrgM Unit
  | createVpc name cidr owner shared => do
      let _ ← OrgStore.createVpc name cidr owner shared
  | createSubnet vpcName envId name cidr => do
      let _ ← OrgStore.createSubnet vpcName envId name cidr
  | deleteSubnet vpcName subnetName => OrgStore.deleteSubnet vpcName subnetName
  | addRoute tableId destination target priority => do
      let _ ← OrgStore.addRoute tableId destination target priority
  | removeRoute tableId destination => OrgStore.removeRoute tableId destination

/-- The routes of users after a call that succeeded. -/
def record (added : List (RouteTableId × String × RouteTarget)) :
    RouteCall → List (RouteTableId × String × RouteTarget)
  | addRoute tableId destination target _ => (tableId, destination, target) :: added
  | removeRoute tableId destination => added.filter fun e => (e.1, e.2.1) != (tableId, destination)
  | _ => added

def outcome (call : RouteCall) (added : List (RouteTableId × String × RouteTarget)) :
    Except OrgError Unit → List (RouteTableId × String × RouteTarget)
  | .ok () => call.record added
  | .error _ => added

def apply (call : RouteCall) (n : Routing) : Except OrgError Unit × Routing :=
  let (result, store) := call.perform n.store
  (result, ⟨store, call.outcome n.added result⟩)

end RouteCall

inductive RouteHolder
  | vpc (id : VpcId)
  | subnet (id : SubnetId)
  | user (tableId : RouteTableId) (destination : String) (target : RouteTarget)
deriving DecidableEq

def RouteHolder.Suits : RouteHolder → Route → Prop
  | vpc _, route => route.IsLocal
  | subnet _, route => route.IsLocal
  | user _ _ target, route => route.target = target ∧ route.origin = .user

namespace Routing

variable (n : Routing)

/-- The key under which somebody needs a route: a stored VPC for its network, a subnet of a stored VPC
for its own, a user for a route that was added and not removed. -/
def needs : RouteHolder → Option String
  | .vpc id => (n.store.1.get .vpcs id).bind fun vpc => localKey n.store.1 vpc.id vpc.cidr
  | .subnet id => (n.store.1.get .subnets id).bind fun subnet =>
      (n.store.1.get .vpcs subnet.vpcId).bind fun _ => localKey n.store.1 subnet.vpcId subnet.cidr
  | .user tableId destination target =>
      if (tableId, destination, target) ∈ n.added then some (routeKey tableId destination) else none

/-- The routes are in order: every VPC has a default route table, and everybody finds their route. -/
structure Routed : Prop where
  tables : ∀ id vpc, n.store.1.get .vpcs id = some vpc →
    (getDefaultRouteTable n.store.1 vpc.id).isSome
  serves : Serves n.needs RouteHolder.Suits (n.store.1.table .routes)

def KeyedVpcs : Prop := ∀ id vpc, n.store.1.get .vpcs id = some vpc → vpc.id = id

/-- A new VPC draws identifiers that are not in use: no subnet names the VPC, and neither the route
table nor a route to the network in it is there. -/
def DrawsFresh : RouteCall → Prop
  | .createVpc _ cidr owner _ =>
      n.store.1.get .routeTables (newTableId n.store owner) = none ∧
      n.store.1.get .routes (routeKey (newTableId n.store owner) cidr) = none ∧
      ∀ id subnet, n.store.1.get .subnets id = some subnet → subnet.vpcId ≠ newVpcId n.store owner
  | _ => True

/-- A call leaves the routes of others alone. A new subnet must not be given a network that a user has
a route to in the same table, and the route that goes with a subnet, or that a user removes, must not
be that of somebody else. -/
def Spares : RouteCall → Prop
  | .createSubnet vpcName envId name cidr => ∀ vpc net key,
      newSubnet n.store.1 vpcName envId name cidr = some (vpc, net) →
      localKey n.store.1 vpc.id net.display = some key →
      ∀ tableId destination target, n.needs (.user tableId destination target) ≠ some key
  | .deleteSubnet vpcName subnetName => ∀ id subnet key,
      namedSubnet n.store.1 vpcName subnetName = some (id, subnet) →
      localKey n.store.1 subnet.vpcId subnet.cidr = some key →
      ∀ holder, holder ≠ .subnet id → n.needs holder ≠ some key
  | .removeRoute tableId destination => ∀ e ∈ n.added,
      routeKey e.1 e.2.1 = routeKey tableId destination → (e.1, e.2.1) = (tableId, destination)
  | _ => True

variable {n}

theorem needs_congr {n' : Routing} (hvpcs : n'.store.1.table .vpcs = n.store.1.table .vpcs)
    (hsubnets : n'.store.1.table .subnets = n.store.1.table .subnets)
    (htables : n'.store.1.table .routeTables = n.store.1.table .routeTables)
    (hnames : n'.store.1.table .routeTableNameIndex = n.store.1.table .routeTableNameIndex)
    (hadded : n'.added = n.added) : n'.needs = n.needs := by
  funext holder
  cases holder <;>
    simp only [needs, LayerDb.get, hvpcs, hsubnets, hadded, localKey_congr htables hnames]

theorem needs_user_iff {tableId destination key : String} {target : RouteTarget} :
    n.needs (.user tableId destination target) = some key ↔
      (tableId, destination, target) ∈ n.added ∧ routeKey tableId destination = key := by
  simp [needs, Option.ite_none_right_eq_some]

theorem tables_of_same {t : OrgDb × Ambient} (h : n.Routed)
    (hvpcs : t.1.table .vpcs = n.store.1.table .vpcs)
    (htables : t.1.table .routeTables = n.store.1.table .routeTables)
    (hnames : t.1.table .routeTableNameIndex = n.store.1.table .routeTableNameIndex) :
    ∀ id vpc, t.1.get .vpcs id = some vpc → (getDefaultRouteTable t.1 vpc.id).isSome := by
  intro id vpc hget
  have hold := h.tables id vpc (by rwa [LayerDb.get, hvpcs] at hget)
  simpa only [getDefaultRouteTable, getRouteTable, LayerDb.get, htables, hnames] using hold

theorem Routed.of_tables {n' : Routing} (h : n.Routed)
    (hsame : ∀ tb ∈ [OrgTable.vpcs, .subnets, .routeTables, .routeTableNameIndex, .routes],
      n'.store.1.table tb = n.store.1.table tb) (hadded : n'.added = n.added) : n'.Routed := by
  have hvpcs := hsame .vpcs (by decide)
  have htables := hsame .routeTables (by decide)
  have hnames := hsame .routeTableNameIndex (by decide)
  refine ⟨tables_of_same h hvpcs htables hnames, ?_⟩
  rw [needs_congr hvpcs (hsame .subnets (by decide)) htables hnames hadded, hsame .routes (by decide)]
  exact h.serves

/-! ### New VPCs -/

section OpensRoutes

variable {owner : VpcOwner} {cidr : String} {vpc : Vpc} {t : OrgDb × Ambient}

theorem getDefaultRouteTable_opens (hopens : OpensRoutes n.store owner cidr vpc t.1)
    (hfresh : n.store.1.get .routeTables (newTableId n.store owner) = none) {vpcId : VpcId}
    {rt : RouteTable} (hne : vpcId ≠ vpc.id)
    (hrt : getDefaultRouteTable n.store.1 vpcId = some rt) :
    getDefaultRouteTable t.1 vpcId = some rt := by
  obtain ⟨new, route, hid, -, htables, hnames, -⟩ := hopens.opened
  have hkey : routeTableNameKey vpc.id "default" ≠ routeTableNameKey vpcId "default" := by
    intro hkey
    have hlists := congrArg String.toList hkey
    simp only [routeTableNameKey, String.toList_append] at hlists
    exact hne (String.toList_inj.mp (List.append_cancel_right (List.append_cancel_right hlists))).symm
  unfold getDefaultRouteTable getRouteTable at hrt ⊢
  rw [LayerDb.get, hnames, Std.ExtTreeMap.getElem?_insert, if_neg (by simpa using hkey)]
  split at hrt
  · rename_i id hindex
    change (n.store.1.table .routeTableNameIndex)[_]? = some id at hindex
    rw [hindex]
    have hold : new.id ≠ id := by
      rintro rfl
      rw [hid, hfresh] at hrt
      cases hrt
    change (t.1.table .routeTables)[id]? = some rt
    rw [htables, Std.ExtTreeMap.getElem?_insert, if_neg (by simpa using hold)]
    exact hrt
  · cases hrt

theorem getDefaultRouteTable_new (hopens : OpensRoutes n.store owner cidr vpc t.1) :
    ∃ rt route, rt.id = newTableId n.store owner ∧ getDefaultRouteTable t.1 vpc.id = some rt ∧
      route.IsLocal ∧
      t.1.table .routes = (n.store.1.table .routes).insert (routeKey rt.id cidr) route := by
  obtain ⟨rt, route, hid, hlocal, htables, hnames, hroutes⟩ := hopens.opened
  refine ⟨rt, route, hid, ?_, hlocal, hroutes⟩
  simp [getDefaultRouteTable, getRouteTable, LayerDb.get, htables, hnames]

theorem localKey_opens (hopens : OpensRoutes n.store owner cidr vpc t.1)
    (hfresh : n.store.1.get .routeTables (newTableId n.store owner) = none) {vpcId : VpcId}
    (hne : vpcId ≠ vpc.id) (hrt : (getDefaultRouteTable n.store.1 vpcId).isSome) (net : String) :
    localKey t.1 vpcId net = localKey n.store.1 vpcId net := by
  obtain ⟨rt, hrt⟩ := Option.isSome_iff_exists.mp hrt
  rw [localKey, localKey, hrt, getDefaultRouteTable_opens hopens hfresh hne hrt]

theorem vpc_of_opens (hopens : OpensRoutes n.store owner cidr vpc t.1) {id : String} {other : Vpc}
    (hget : t.1.get .vpcs id = some other) :
    (id = vpc.id ∧ other = vpc) ∨ (id ≠ vpc.id ∧ n.store.1.get .vpcs id = some other) := by
  rw [LayerDb.get, hopens.vpcs] at hget
  rcases Std.ExtTreeMap.of_getElem?_insert hget with ⟨rfl, rfl⟩ | ⟨hne, hold⟩
  · exact .inl ⟨rfl, rfl⟩
  · exact .inr ⟨hne, hold⟩

theorem needs_of_opens (h : n.Routed) (hkeyed : n.KeyedVpcs)
    (hopens : OpensRoutes n.store owner cidr vpc t.1)
    (hfresh : n.store.1.get .routeTables (newTableId n.store owner) = none)
    (hunnamed : ∀ id subnet, n.store.1.get .subnets id = some subnet → subnet.vpcId ≠ vpc.id)
    {holder : RouteHolder} {key : String}
    (hholder : (⟨t, n.added⟩ : Routing).needs holder = some key) :
    key = routeKey (newTableId n.store owner) cidr ∨ n.needs holder = some key := by
  have hkey : ∀ id other net, n.store.1.get .vpcs id = some other → id ≠ vpc.id →
      localKey t.1 id net = localKey n.store.1 id net := by
    intro id other net hget hne
    exact localKey_opens hopens hfresh hne (hkeyed id other hget ▸ h.tables id other hget) net
  cases holder with
  | vpc id =>
      obtain ⟨other, hget, hlocal⟩ := Option.bind_eq_some_iff.mp hholder
      rcases vpc_of_opens hopens hget with ⟨-, rfl⟩ | ⟨hne, hold⟩
      · obtain ⟨rt, -, hid, hrt, -⟩ := getDefaultRouteTable_new hopens
        have hnew : localKey t.1 other.id other.cidr = some (routeKey rt.id cidr) := by
          rw [localKey, hrt, hopens.vpc_cidr]
          rfl
        rw [← hid]
        exact .inl (Option.some.inj (hlocal.symm.trans hnew))
      · obtain rfl := hkeyed id other hold
        rw [hkey other.id other _ hold hne] at hlocal
        exact .inr (Option.bind_eq_some_iff.mpr ⟨other, hold, hlocal⟩)
  | subnet id =>
      obtain ⟨subnet, hget, hbind⟩ := Option.bind_eq_some_iff.mp hholder
      obtain ⟨other, hgetVpc, hlocal⟩ := Option.bind_eq_some_iff.mp hbind
      rw [LayerDb.get, hopens.subnets] at hget
      have hne := hunnamed id subnet hget
      rcases vpc_of_opens hopens hgetVpc with ⟨hsame, -⟩ | ⟨-, hold⟩
      · exact absurd hsame hne
      · rw [hkey subnet.vpcId other _ hold hne] at hlocal
        exact .inr (Option.bind_eq_some_iff.mpr
          ⟨subnet, hget, Option.bind_eq_some_iff.mpr ⟨other, hold, hlocal⟩⟩)
  | user tableId destination target => exact .inr hholder

theorem routed_of_opens (h : n.Routed) (hkeyed : n.KeyedVpcs) {name : String} {shared : Bool}
    (hdraws : n.DrawsFresh (.createVpc name cidr owner shared))
    (hopens : OpensRoutes n.store owner cidr vpc t.1) :
    Routed ⟨t, n.added⟩ ∧ KeyedVpcs ⟨t, n.added⟩ := by
  obtain ⟨hfresh, hfree, hunnamed⟩ := hdraws
  obtain ⟨rt, route, hid, hrt, hlocal, hroutes⟩ := getDefaultRouteTable_new hopens
  refine ⟨⟨fun id other hget => ?_, ?_⟩, fun id other hget => ?_⟩
  · rcases vpc_of_opens hopens hget with ⟨-, rfl⟩ | ⟨hne, hold⟩
    · exact Option.isSome_iff_exists.mpr ⟨rt, hrt⟩
    · obtain ⟨found, hfound⟩ := Option.isSome_iff_exists.mp (h.tables id other hold)
      have hother : other.id ≠ vpc.id := hkeyed id other hold ▸ hne
      exact Option.isSome_iff_exists.mpr
        ⟨found, getDefaultRouteTable_opens hopens hfresh hother hfound⟩
  · change Serves _ _ (t.1.table .routes)
    rw [hroutes, hid, h.serves.insert_iff fun _ _ =>
      needs_of_opens h hkeyed hopens hfresh (hopens.vpc_id ▸ hunnamed)]
    intro holder hholder
    cases holder with
    | vpc id => exact hlocal
    | subnet id => exact hlocal
    | user tableId destination target =>
        -- nobody had a route under the key
        obtain ⟨stored, hstored, -⟩ :=
          h.serves (.user tableId destination target) _ (by exact hholder)
        exact absurd (hstored.symm.trans hfree) nofun
  · rcases vpc_of_opens hopens hget with ⟨rfl, rfl⟩ | ⟨-, hold⟩
    · rfl
    · exact hkeyed id other hold

end OpensRoutes

/-! ### Subnets -/

section Subnets

variable {t : OrgDb × Ambient} {id : SubnetId} {subnet : Subnet}

theorem keyed_of_vpcs (hkeyed : n.KeyedVpcs) {added : List (RouteTableId × String × RouteTarget)}
    (hvpcs : t.1.table .vpcs = n.store.1.table .vpcs) : KeyedVpcs ⟨t, added⟩ := by
  intro id vpc hget
  exact hkeyed id vpc (by rwa [LayerDb.get, hvpcs] at hget)

theorem needs_of_opensSubnet {vpc : Vpc} {net : Ipv4Net} {name key : String}
    (hopens : OpensSubnet n.store vpc net name subnet t.1)
    (hkey : localKey n.store.1 vpc.id net.display = some key) {holder : RouteHolder} {j : String}
    (hholder : (⟨t, n.added⟩ : Routing).needs holder = some j) : j = key ∨ n.needs holder = some j := by
  have hvpcs := hopens.other .vpcs (by decide)
  have hlocal := localKey_congr (hopens.other .routeTables (by decide))
    (hopens.other .routeTableNameIndex (by decide))
  cases holder with
  | vpc id =>
      refine .inr ?_
      simpa only [needs, LayerDb.get, hvpcs, hlocal] using hholder
  | subnet id =>
      obtain ⟨other, hget, hbind⟩ := Option.bind_eq_some_iff.mp hholder
      obtain ⟨found, hfound, hother⟩ := Option.bind_eq_some_iff.mp hbind
      rw [hlocal] at hother
      rw [LayerDb.get, hopens.subnets] at hget
      rcases Std.ExtTreeMap.of_getElem?_insert hget with ⟨-, rfl⟩ | ⟨-, hold⟩
      · rw [hopens.vpc_id, hopens.cidr, hkey] at hother
        exact .inl (Option.some.inj hother).symm
      · rw [LayerDb.get, hvpcs] at hfound
        exact .inr (Option.bind_eq_some_iff.mpr
          ⟨other, hold, Option.bind_eq_some_iff.mpr ⟨found, hfound, hother⟩⟩)
  | user tableId destination target => exact .inr hholder

theorem routed_of_opensSubnet (h : n.Routed) {vpc : Vpc} {net : Ipv4Net} {name key : String}
    (hopens : OpensSubnet n.store vpc net name subnet t.1)
    (hkey : localKey n.store.1 vpc.id net.display = some key) :
    Routed ⟨t, n.added⟩ ↔
      ∀ tableId destination target, n.needs (.user tableId destination target) ≠ some key := by
  obtain ⟨route, hlocal, hroutes⟩ := hopens.routes
  rw [hkey] at hroutes
  have hserves := h.serves.insert_iff (a := route) fun _ _ => needs_of_opensSubnet hopens hkey
  constructor
  · intro hafter tableId destination target huser
    have hserved := hafter.serves
    change Serves _ _ (t.1.table .routes) at hserved
    rw [hroutes] at hserved
    have hsuits := hserves.mp hserved (.user tableId destination target) huser
    exact absurd (hlocal.2.symm.trans hsuits.2) nofun
  · intro hfree
    refine ⟨tables_of_same h (hopens.other .vpcs (by decide)) (hopens.other .routeTables (by decide))
      (hopens.other .routeTableNameIndex (by decide)), ?_⟩
    change Serves _ _ (t.1.table .routes)
    rw [hroutes]
    refine hserves.mpr fun holder hholder => ?_
    cases holder with
    | vpc id => exact hlocal
    | subnet id => exact hlocal
    | user tableId destination target => exact absurd hholder (hfree tableId destination target)

theorem needs_of_closesSubnet (hcloses : ClosesSubnet n.store id subnet t.1) (holder : RouteHolder) :
    (⟨t, n.added⟩ : Routing).needs holder = if holder = .subnet id then none else n.needs holder := by
  have hvpcs := hcloses.other .vpcs (by decide)
  have hlocal := localKey_congr (hcloses.other .routeTables (by decide))
    (hcloses.other .routeTableNameIndex (by decide))
  cases holder with
  | vpc other => simp [needs, LayerDb.get, hvpcs, hlocal]
  | subnet other =>
      by_cases hother : other = id
      · subst hother
        simp [needs, LayerDb.get, hcloses.subnets]
      · have hne : id ≠ other := Ne.symm hother
        simp [needs, LayerDb.get, hcloses.subnets, hvpcs, hlocal, Std.ExtTreeMap.getElem?_erase, hne,
          hother]
  | user tableId destination target => simp [needs]

theorem routed_of_closesSubnet (h : n.Routed) (hcloses : ClosesSubnet n.store id subnet t.1) :
    Routed ⟨t, n.added⟩ ↔ ∀ key, localKey n.store.1 subnet.vpcId subnet.cidr = some key →
      ∀ holder, holder ≠ .subnet id → n.needs holder ≠ some key := by
  have hneeds := needs_of_closesSubnet hcloses
  have hfewer : ∀ holder j, (⟨t, n.added⟩ : Routing).needs holder = some j →
      n.needs holder = some j := by
    intro holder j hholder
    rw [hneeds] at hholder
    exact (Option.ite_none_left_eq_some.mp hholder).2
  have htables := tables_of_same h (hcloses.other .vpcs (by decide))
    (hcloses.other .routeTables (by decide)) (hcloses.other .routeTableNameIndex (by decide))
  have hroutes := hcloses.routes
  cases hkey : localKey n.store.1 subnet.vpcId subnet.cidr with
  | none =>
      rw [hkey] at hroutes
      refine iff_of_true ⟨htables, ?_⟩ fun _ hnone => by cases hnone
      change Serves _ _ (t.1.table .routes)
      rw [hroutes]
      exact h.serves.mono hfewer
  | some key =>
      rw [hkey] at hroutes
      have hserves : Serves (⟨t, n.added⟩ : Routing).needs RouteHolder.Suits (t.1.table .routes) ↔
          ∀ holder, (⟨t, n.added⟩ : Routing).needs holder ≠ some key := by
        rw [hroutes]
        exact h.serves.erase_iff hfewer
      constructor
      · rintro hafter _ ⟨⟩ holder hother
        have hfree := hserves.mp hafter.serves holder
        rwa [hneeds, if_neg hother] at hfree
      · intro hspares
        refine ⟨htables, hserves.mpr fun holder hholder => ?_⟩
        rw [hneeds] at hholder
        obtain ⟨hother, hholder⟩ := Option.ite_none_left_eq_some.mp hholder
        exact hspares key rfl holder hother hholder

end Subnets

/-! ### Routes of users -/

section Users

variable {t : OrgDb × Ambient} {tableId : RouteTableId} {destination : String} {target : RouteTarget}

theorem routed_of_addRoute (h : n.Routed) {route : Route} (hsuits : route.target = target)
    (horigin : route.origin = .user)
    (hfree : n.store.1.get .routes (routeKey tableId destination) = none)
    (ht : t.1 = n.store.1.set .routes (routeKey tableId destination) route) :
    Routed ⟨t, (tableId, destination, target) :: n.added⟩ := by
  have hother : ∀ tb : OrgTable, tb ≠ .routes → t.1.table tb = n.store.1.table tb :=
    fun tb htb => by rw [ht, LayerDb.table_set_of_ne _ htb]
  have hneeds : ∀ holder key, (⟨t, (tableId, destination, target) :: n.added⟩ : Routing).needs holder
      = some key → (holder = .user tableId destination target ∧ key = routeKey tableId destination) ∨
        n.needs holder = some key := by
    intro holder key hholder
    have hsame : (⟨t, n.added⟩ : Routing).needs = n.needs := needs_congr (hother .vpcs (by decide))
      (hother .subnets (by decide)) (hother .routeTables (by decide))
      (hother .routeTableNameIndex (by decide)) rfl
    cases holder with
    | vpc id => exact .inr (hsame ▸ hholder)
    | subnet id => exact .inr (hsame ▸ hholder)
    | user tableId' destination' target' =>
        obtain ⟨hmem, rfl⟩ := needs_user_iff.mp hholder
        rcases List.mem_cons.mp hmem with hnew | hold
        · obtain ⟨rfl, rfl, rfl⟩ := by simpa using hnew
          exact .inl ⟨rfl, rfl⟩
        · exact .inr (needs_user_iff.mpr ⟨hold, rfl⟩)
  refine ⟨tables_of_same h (hother .vpcs (by decide)) (hother .routeTables (by decide))
    (hother .routeTableNameIndex (by decide)), ?_⟩
  change Serves _ _ (t.1.table .routes)
  rw [ht, LayerDb.table_set_self, h.serves.insert_iff fun holder key hholder =>
    (hneeds holder key hholder).imp And.right id]
  intro holder hholder
  rcases hneeds holder _ hholder with ⟨rfl, -⟩ | hold
  · exact ⟨hsuits, horigin⟩
  · obtain ⟨stored, hstored, -⟩ := h.serves holder _ hold
    exact absurd (hstored.symm.trans hfree) nofun

theorem spares_removeRoute_of_refused (h : n.Routed)
    (hrefused : ∀ route, n.store.1.get .routes (routeKey tableId destination) = some route →
      route.origin ≠ .user) : n.Spares (.removeRoute tableId destination) := by
  intro e he hkey
  obtain ⟨route, hroute, -, horigin⟩ := h.serves (.user e.1 e.2.1 e.2.2) _
    (needs_user_iff.mpr ⟨he, hkey⟩)
  exact absurd horigin (hrefused route hroute)

theorem routed_of_removeRoute (h : n.Routed) {route : Route}
    (hroute : n.store.1.get .routes (routeKey tableId destination) = some route)
    (horigin : route.origin = .user)
    (ht : t.1 = n.store.1.delete .routes (routeKey tableId destination)) :
    Routed ⟨t, (RouteCall.removeRoute tableId destination).record n.added⟩ ↔
      n.Spares (.removeRoute tableId destination) := by
  have hother : ∀ tb : OrgTable, tb ≠ .routes → t.1.table tb = n.store.1.table tb :=
    fun tb htb => by rw [ht, LayerDb.table_delete_of_ne _ htb]
  have hsame : (⟨t, n.added⟩ : Routing).needs = n.needs := needs_congr (hother .vpcs (by decide))
    (hother .subnets (by decide)) (hother .routeTables (by decide))
    (hother .routeTableNameIndex (by decide)) rfl
  set n' : Routing := ⟨t, (RouteCall.removeRoute tableId destination).record n.added⟩
  have huser : ∀ {tableId' destination' target' key},
      n'.needs (.user tableId' destination' target') = some key →
        (tableId', destination', target') ∈ n.added ∧ (tableId', destination') ≠ (tableId, destination) ∧
          routeKey tableId' destination' = key := by
    intro tableId' destination' target' key hholder
    obtain ⟨hmem, hkey⟩ := needs_user_iff.mp hholder
    obtain ⟨hold, hne⟩ := List.mem_filter.mp hmem
    exact ⟨hold, by simpa using hne, hkey⟩
  have hfewer : ∀ holder key, n'.needs holder = some key → n.needs holder = some key := by
    intro holder key hholder
    cases holder with
    | vpc id => exact hsame ▸ hholder
    | subnet id => exact hsame ▸ hholder
    | user tableId' destination' target' =>
        obtain ⟨hold, -, hkey⟩ := huser hholder
        exact needs_user_iff.mpr ⟨hold, hkey⟩
  have hserves : Serves n'.needs RouteHolder.Suits (t.1.table .routes) ↔
      ∀ holder, n'.needs holder ≠ some (routeKey tableId destination) := by
    rw [ht, LayerDb.table_delete_self]
    exact h.serves.erase_iff hfewer
  constructor
  · intro hafter e he hkey
    by_contra hne
    have hkept : e ∈ n'.added := List.mem_filter.mpr ⟨he, by simpa using hne⟩
    exact hserves.mp hafter.serves (.user e.1 e.2.1 e.2.2) (needs_user_iff.mpr ⟨hkept, hkey⟩)
  · intro hspares
    refine ⟨tables_of_same h (hother .vpcs (by decide)) (hother .routeTables (by decide))
      (hother .routeTableNameIndex (by decide)), hserves.mpr fun holder hholder => ?_⟩
    -- the route that is removed is a user's, so that no VPC and no subnet needs it
    have hsuits := h.serves.suits_of_getElem? (hfewer holder _ hholder) hroute
    cases holder with
    | vpc id => exact absurd (hsuits.2.symm.trans horigin) nofun
    | subnet id => exact absurd (hsuits.2.symm.trans horigin) nofun
    | user tableId' destination' target' =>
        obtain ⟨hold, hne, hkey⟩ := huser hholder
        exact hne (hspares _ hold hkey)

end Users

/-! ### Runs of calls -/

/-- **One call.** When the books are in order and a new VPC draws fresh identifiers, they stay in order
just in case the call spares the routes of others. -/
theorem routed_apply_iff (h : n.Routed) (hkeyed : n.KeyedVpcs) {call : RouteCall}
    (hdraws : n.DrawsFresh call) :
    ((call.apply n).2.Routed ↔ n.Spares call) ∧ (call.apply n).2.KeyedVpcs := by
  change Ensures call.perform n.store fun result t =>
    (Routed ⟨t, call.outcome n.added result⟩ ↔ n.Spares call) ∧
      KeyedVpcs ⟨t, call.outcome n.added result⟩
  cases call with
  | createVpc name cidr owner shared =>
      refine .bind (createVpc_opens n.store name cidr owner shared) ?_ ?_
      · intro vpc t hopens
        obtain ⟨hrouted, hkeyed'⟩ := routed_of_opens h hkeyed hdraws hopens
        exact .pure ⟨iff_of_true hrouted trivial, hkeyed'⟩
      · intro e t hsame
        refine ⟨iff_of_true (h.of_tables (fun tb htb => hsame tb ?_) rfl) trivial,
          keyed_of_vpcs hkeyed (hsame .vpcs (by decide))⟩
        revert tb
        decide
  | createSubnet vpcName envId name cidr =>
      refine .bind (createSubnet_opens n.store vpcName envId name cidr) ?_ ?_
      · rintro subnet t ⟨vpc, net, hplan, hvpc, hopens⟩
        obtain ⟨-, id, -, -, hstored⟩ := entry_of_getVpc hvpc
        obtain ⟨rt, hrt⟩ := Option.isSome_iff_exists.mp (h.tables id vpc hstored)
        have hkey : localKey n.store.1 vpc.id net.display = some (routeKey rt.id net.display) := by
          rw [localKey, hrt]
          rfl
        refine .pure ⟨(routed_of_opensSubnet h hopens hkey).trans ?_,
          keyed_of_vpcs hkeyed (hopens.other .vpcs (by decide))⟩
        constructor
        · rintro hspares vpc' net' key hplan' hkey'
          obtain ⟨rfl, rfl⟩ := Prod.mk.inj (Option.some.inj (hplan.symm.trans hplan'))
          exact Option.some.inj (hkey.symm.trans hkey') ▸ hspares
        · exact fun hspares => hspares vpc net _ hplan hkey
      · rintro e t ⟨hnone, rfl⟩
        refine ⟨iff_of_true h fun vpc net key hplan => ?_, hkeyed⟩
        cases hplan.symm.trans hnone
  | deleteSubnet vpcName subnetName =>
      refine (deleteSubnet_closes n.store vpcName subnetName).mono ?_
      rintro (e | _) t
      · rintro ⟨hnone, rfl⟩
        refine ⟨iff_of_true h fun id subnet key hnamed => ?_, hkeyed⟩
        cases hnamed.symm.trans hnone
      · rintro ⟨id, subnet, hnamed, hcloses⟩
        refine ⟨(routed_of_closesSubnet h hcloses).trans ?_,
          keyed_of_vpcs hkeyed (hcloses.other .vpcs (by decide))⟩
        constructor
        · rintro hspares id' subnet' key hnamed' hkey
          obtain ⟨rfl, rfl⟩ := Prod.mk.inj (Option.some.inj (hnamed.symm.trans hnamed'))
          exact hspares key hkey
        · exact fun hspares key hkey => hspares id subnet key hnamed hkey
  | addRoute tableId destination target priority =>
      refine .bind (addRoute_spec n.store tableId destination target priority) ?_ ?_
      · rintro route t ⟨hfree, htarget, horigin, ht⟩
        refine .pure ⟨iff_of_true (routed_of_addRoute h htarget horigin hfree ht) trivial,
          keyed_of_vpcs hkeyed ?_⟩
        rw [ht, LayerDb.table_set_of_ne _ (by decide)]
      · rintro e t rfl
        exact ⟨iff_of_true h trivial, hkeyed⟩
  | removeRoute tableId destination =>
      refine (removeRoute_spec n.store tableId destination).mono ?_
      rintro (e | _) t
      · rintro ⟨rfl, hrefused⟩
        exact ⟨iff_of_true h (spares_removeRoute_of_refused h hrefused), hkeyed⟩
      · rintro ⟨ht, route, hroute, horigin⟩
        refine ⟨routed_of_removeRoute h hroute horigin ht, keyed_of_vpcs hkeyed ?_⟩
        rw [ht, LayerDb.table_delete_of_ne _ (by decide)]

end Routing

theorem OrgStore.deleteSubnet_of_created {s t : OrgDb × Ambient} {vpcName name : String}
    {envId : EnvironmentId} {cidr : Option String} {subnet : Subnet}
    (hcreated : createSubnet vpcName envId name cidr s = (.ok subnet, t)) :
    Ensures (deleteSubnet vpcName name) t fun result u => result = .ok () ∧
      (u.1.table .routes = s.1.table .routes ↔
        ∀ vpc net key, newSubnet s.1 vpcName envId name cidr = some (vpc, net) →
          localKey s.1 vpc.id net.display = some key → s.1.get .routes key = none) := by
  have hopens := createSubnet_opens s vpcName envId name cidr
  unfold Ensures at hopens
  rw [hcreated] at hopens
  obtain ⟨vpc, net, hplan, hvpc, hopens⟩ := hopens
  change OpensSubnet s vpc net name subnet t.1 at hopens
  have hplanned : (∀ vpc net key, newSubnet s.1 vpcName envId name cidr = some (vpc, net) →
      localKey s.1 vpc.id net.display = some key → s.1.get .routes key = none) ↔
      ∀ key, localKey s.1 vpc.id net.display = some key → s.1.get .routes key = none := by
    constructor
    · exact fun h key => h vpc net key hplan
    · intro h vpc' net' key hplan'
      obtain ⟨rfl, rfl⟩ := Prod.mk.inj (Option.some.inj (hplan.symm.trans hplan'))
      exact h key
  have hnamed : namedSubnet t.1 vpcName name = some ((s.2.generateId "sub").1, subnet) := by
    have hvpc' : getVpc t.1 vpcName = some vpc := (getVpc_congr (hopens.other .vpcs (by decide))
      (hopens.other .vpcNameIndex (by decide)) vpcName).trans hvpc
    simp [namedSubnet, subnetIdNamed, hvpc', LayerDb.get, hopens.names, hopens.subnets]
  have hlocal := localKey_congr (hopens.other .routeTables (by decide))
    (hopens.other .routeTableNameIndex (by decide))
  obtain ⟨route, -, hroutes⟩ := hopens.routes
  refine (deleteSubnet_closes t vpcName name).mono ?_
  rintro (e | _) u
  · rintro ⟨hnone, -⟩
    cases hnamed.symm.trans hnone
  · rintro ⟨id, found, hfound, hcloses⟩
    obtain ⟨rfl, rfl⟩ := Prod.mk.inj (Option.some.inj (hnamed.symm.trans hfound))
    refine ⟨rfl, ?_⟩
    have hclosed := hcloses.routes
    rw [hlocal, hopens.vpc_id, hopens.cidr] at hclosed
    rw [hplanned, hclosed, hroutes]
    cases localKey s.1 vpc.id net.display with
    | none => exact iff_of_true rfl fun _ hnone => by cases hnone
    | some key =>
        refine Std.ExtTreeMap.erase_insert_eq_iff.trans ⟨?_, fun h => h key rfl⟩
        rintro hnone _ ⟨⟩
        exact hnone

/-- **The books are kept unless a call touches a route of somebody else.** Whatever calls are made on
books that are in order, with fresh identifiers for new VPCs, they stay in order all along just in case
every call spares the routes of others. A subnet that is created and deleted again leaves the routes as
they were just in case there was no route to its network in the table before. -/
theorem routed_along_iff {n : Routing} {calls : List RouteCall} (h : n.Routed) (hkeyed : n.KeyedVpcs)
    (hdraws : ∀ e ∈ trace RouteCall.apply calls n, e.before.DrawsFresh e.action) :
    ((∀ e ∈ trace RouteCall.apply calls n, e.after.Routed) ↔
      ∀ e ∈ trace RouteCall.apply calls n, e.before.Spares e.action) ∧
    ∀ (s t : OrgDb × Ambient) vpcName envId name cidr subnet,
      createSubnet vpcName envId name cidr s = (.ok subnet, t) →
      (deleteSubnet vpcName name t).1 = .ok () ∧
        ((deleteSubnet vpcName name t).2.1.table .routes = s.1.table .routes ↔
          ∀ vpc net key, newSubnet s.1 vpcName envId name cidr = some (vpc, net) →
            localKey s.1 vpc.id net.display = some key → s.1.get .routes key = none) := by
  constructor
  · refine (run_trace calls n).forall_after_iff_within (I := fun n => n.Routed ∧ n.KeyedVpcs)
      (P := Routing.Routed) (C := Routing.Spares) (D := Routing.DrawsFresh) ⟨h, hkeyed⟩ hdraws ?_ ?_
    · exact fun n call hI hD => (Routing.routed_apply_iff hI.1 hI.2 hD).1
    · intro n call hI hD hspares
      obtain ⟨hiff, hkeyed'⟩ := Routing.routed_apply_iff hI.1 hI.2 hD
      exact ⟨hiff.mpr hspares, hkeyed'⟩
  · exact fun s t vpcName envId name cidr subnet hcreated => deleteSubnet_of_created hcreated

/-- A store with an org and an environment, before any VPC. -/
def newOrgBooks : Routing where
  store := ((LayerDb.empty.set .orgs "acme" ⟨"acme", "acme", 0⟩).set .environments "env-prod"
    ⟨"env-prod", "prod", "web", none, false, ∅, 0, none⟩, .steady 0)
  added := []

theorem newOrgBooks_get {tb : OrgTable} (ht : tb ≠ .orgs) (ht' : tb ≠ .environments) (key : String) :
    newOrgBooks.store.1.get tb key = none := by
  change (LayerDb.set (LayerDb.set _ _ _ _) _ _ _).get tb key = none
  rw [LayerDb.get_set_of_ne _ ht', LayerDb.get_set_of_ne _ ht]
  exact Std.ExtTreeMap.getElem?_empty

theorem newOrgBooks_routed : newOrgBooks.Routed ∧ newOrgBooks.KeyedVpcs := by
  have hvpc : ∀ id, newOrgBooks.store.1.get .vpcs id = none := newOrgBooks_get (by decide) (by decide)
  have hsubnet : ∀ id, newOrgBooks.store.1.get .subnets id = none :=
    newOrgBooks_get (by decide) (by decide)
  refine ⟨⟨fun id vpc hget => absurd (hget.symm.trans (hvpc id)) nofun, fun holder key hholder => ?_⟩,
    fun id vpc hget => absurd (hget.symm.trans (hvpc id)) nofun⟩
  cases holder with
  | vpc id => simp [Routing.needs, hvpc] at hholder
  | subnet id => simp [Routing.needs, hsubnet] at hholder
  | user tableId destination target => exact absurd (Routing.needs_user_iff.mp hholder).1 List.not_mem_nil

/-- A VPC, a route of a user in its default table, and a subnet. -/
def subnetAfterRoute (destination : String) : List RouteCall :=
  [.createVpc "net" "10.1.0.0/16" (.org "acme") false,
    .addRoute "rtb-000000000000" destination .blackhole none,
    .createSubnet "net" "env-prod" "app" (some "10.1.5.0/24")]

theorem drawsFresh_subnetAfterRoute (destination : String) :
    ∀ e ∈ trace RouteCall.apply (subnetAfterRoute destination) newOrgBooks,
      e.before.DrawsFresh e.action := by
  simp only [subnetAfterRoute, trace, List.forall_mem_cons]
  refine ⟨⟨newOrgBooks_get (by decide) (by decide) _, newOrgBooks_get (by decide) (by decide) _, ?_⟩,
    trivial, trivial, fun e he => absurd he List.not_mem_nil⟩
  intro id subnet hget
  exact absurd (hget.symm.trans (newOrgBooks_get (by decide) (by decide) id)) nofun

/-- The default route of a user stays when a subnet gets a route of its own. -/
theorem routed_along_of_default_route :
    (∀ e ∈ trace RouteCall.apply (subnetAfterRoute "0.0.0.0/0") newOrgBooks,
      e.before.Spares e.action) ∧
    ∀ e ∈ trace RouteCall.apply (subnetAfterRoute "0.0.0.0/0") newOrgBooks, e.after.Routed := by
  have hspares : ∀ e ∈ trace RouteCall.apply (subnetAfterRoute "0.0.0.0/0") newOrgBooks,
      e.before.Spares e.action := by
    simp only [subnetAfterRoute, trace, List.forall_mem_cons]
    refine ⟨trivial, trivial, ?_, fun e he => absurd he List.not_mem_nil⟩
    intro vpc net key hplan hkey tableId destination target huser
    obtain ⟨hmem, hroute⟩ := Routing.needs_user_iff.mp huser
    obtain ⟨rfl, rfl, rfl⟩ := by simpa using List.mem_singleton.mp hmem
    have hnew : ((newSubnet (reached RouteCall.apply ((subnetAfterRoute "0.0.0.0/0").take 2)
        newOrgBooks).store.1 "net" "env-prod" "app" (some "10.1.5.0/24")).bind fun plan =>
        localKey (reached RouteCall.apply ((subnetAfterRoute "0.0.0.0/0").take 2)
          newOrgBooks).store.1 plan.1.id plan.2.display) =
        some "rtb-000000000000/10.1.5.0/24" := by decide
    obtain ⟨plan, hplan', hkey'⟩ := Option.bind_eq_some_iff.mp hnew
    obtain rfl := Option.some.inj (hplan'.symm.trans hplan)
    obtain rfl := Option.some.inj (hkey'.symm.trans hkey)
    exact absurd hroute (by decide)
  exact ⟨hspares, (routed_along_iff newOrgBooks_routed.1 newOrgBooks_routed.2
    (drawsFresh_subnetAfterRoute _)).1.mpr hspares⟩

/-- The route that a user added is replaced by the local route of a new subnet with its destination. -/
theorem not_routed_of_subnet_with_destination :
    newOrgBooks.Routed ∧
    ¬ (reached RouteCall.apply (subnetAfterRoute "10.1.5.0/24") newOrgBooks).Routed := by
  refine ⟨newOrgBooks_routed.1, fun h => ?_⟩
  have huser : (reached RouteCall.apply (subnetAfterRoute "10.1.5.0/24") newOrgBooks).needs
      (.user "rtb-000000000000" "10.1.5.0/24" .blackhole) = some "rtb-000000000000/10.1.5.0/24" := by
    decide
  have hsystem : ((reached RouteCall.apply (subnetAfterRoute "10.1.5.0/24") newOrgBooks).store.1.get
      .routes "rtb-000000000000/10.1.5.0/24").map (·.origin) = some .system := by decide
  obtain ⟨route, hroute, -, horigin⟩ := h.serves _ _ huser
  rw [LayerDb.get, hroute, Option.map_some, horigin] at hsystem
  cases hsystem

end Syfrah
