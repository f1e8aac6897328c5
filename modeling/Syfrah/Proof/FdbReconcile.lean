import Syfrah.Overlay.Fdb

/-!
# Convergence of the forwarding tables

A pass visits the interfaces that have expected entries and brings their tables in line with the
expectation, except for one kind of entry: a stale forwarding entry is recognised by its MAC alone, so
the old destination of a VM that has moved stays. Interfaces without expected entries are not visited.
-/

namespace Syfrah

namespace Overlay

/-! ### Names -/

theorem letter_notMem_shortHash (input : String) : 's' ∉ (shortHash input).toList :=
  Text.notMem_hexPad (by decide) 8 _

theorem bridge_of_vxlanName (vpcId : String) :
    Text.replace vxlanPrefix bridgePrefix (vxlanName vpcId) = bridgeName vpcId := by
  rw [Text.replace, vxlanName, String.toList_append]
  refine (congrArg String.ofList (Text.replaceFrom_append (letter_notMem_shortHash vpcId))).trans ?_
  rw [String.ofList_append, String.ofList_toList, String.ofList_toList]
  rfl

theorem vxlan_of_bridgeName (vpcId : String) :
    Text.replace bridgePrefix vxlanPrefix (bridgeName vpcId) = vxlanName vpcId := by
  rw [Text.replace, bridgeName, String.toList_append]
  refine (congrArg String.ofList (Text.replaceFrom_append (letter_notMem_shortHash vpcId))).trans ?_
  rw [String.ofList_append, String.ofList_toList, String.ofList_toList]
  rfl

theorem iface_of_mem_fdbPlan {vpcId : String} {expected : List ExpectedFdbEntry} {actual : Neighbours}
    {op : FdbOp} (hmem : op ∈ fdbPlan (vxlanName vpcId) expected actual) : op.iface = vxlanName vpcId := by
  rw [fdbPlan, bridge_of_vxlanName] at hmem
  simp only [List.mem_append, List.mem_flatMap, List.mem_filterMap] at hmem
  rcases hmem with (⟨entry, -, hop | hop⟩ | ⟨entry, -, hop⟩) | ⟨entry, -, hop⟩ <;> split at hop
  all_goals try simp at hop
  all_goals subst hop
  · exact vxlan_of_bridgeName vpcId
  · rfl
  · exact vxlan_of_bridgeName vpcId
  · rfl

/-! ### Several operations on one interface -/

def effects (ops : List FdbOp) (n : Neighbours) : Neighbours := ops.foldl (fun n op => op.effect n) n

theorem effects_append (ops more : List FdbOp) (n : Neighbours) :
    effects (ops ++ more) n = effects more (effects ops n) :=
  List.foldl_append

def FdbOp.Adds : FdbOp → Prop
  | .addFdbEntry .. | .addArpProxy .. => True
  | _ => False

def FdbOp.Removes (op : FdbOp) : Prop := ¬ op.Adds

variable {ops : List FdbOp} {n : Neighbours}

theorem mem_fdb_effects_of_adds (h : ∀ op ∈ ops, op.Adds) {mac dst : String} :
    (mac, dst) ∈ (effects ops n).fdb ↔ (mac, dst) ∈ n.fdb ∨ ∃ b, .addFdbEntry b mac dst ∈ ops := by
  induction ops generalizing n with
  | nil => simp [effects]
  | cons op ops ih =>
      obtain ⟨hop, hrest⟩ := List.forall_mem_cons.mp h
      rw [effects, List.foldl_cons]
      refine (ih hrest).trans ?_
      cases op with
      | addFdbEntry b m d =>
          have hadd : (mac, dst) ∈ (FdbOp.effect (.addFdbEntry b m d) n).fdb ↔
              (mac, dst) ∈ n.fdb ∨ (mac, dst) = (m, d) := by
            simp only [FdbOp.effect]
            split
            · constructor
              · exact Or.inl
              · rintro (hold | heq)
                · exact hold
                · rw [heq]
                  assumption
            · simp
          simp only [hadd, List.mem_cons, FdbOp.addFdbEntry.injEq, Prod.mk.injEq]
          aesop
      | addArpProxy v i m => simp [FdbOp.effect]
      | removeFdbEntry | removeArpProxy => exact hop.elim

theorem mem_fdb_effects_of_removes (h : ∀ op ∈ ops, op.Removes) {mac dst : String} :
    (mac, dst) ∈ (effects ops n).fdb ↔ (mac, dst) ∈ n.fdb ∧ ∀ b, .removeFdbEntry b mac ∉ ops := by
  induction ops generalizing n with
  | nil => simp [effects]
  | cons op ops ih =>
      obtain ⟨hop, hrest⟩ := List.forall_mem_cons.mp h
      rw [effects, List.foldl_cons]
      refine (ih hrest).trans ?_
      cases op with
      | removeFdbEntry b m =>
          simp only [FdbOp.effect, List.mem_filter, bne_iff_ne, List.mem_cons, FdbOp.removeFdbEntry.injEq]
          aesop
      | removeArpProxy v i => simp [FdbOp.effect]
      | addFdbEntry | addArpProxy => exact absurd trivial hop

theorem arp_effects_of_adds (h : ∀ op ∈ ops, op.Adds) {ip mac : String}
    (hsame : ∀ v m, .addArpProxy v ip m ∈ ops → m = mac) :
    (effects ops n).arp[ip]? = some mac ↔ n.arp[ip]? = some mac ∨ ∃ v, .addArpProxy v ip mac ∈ ops := by
  induction ops generalizing n with
  | nil => simp [effects]
  | cons op ops ih =>
      obtain ⟨hop, hrest⟩ := List.forall_mem_cons.mp h
      rw [effects, List.foldl_cons]
      refine (ih hrest fun v m hmem => hsame v m (List.mem_cons_of_mem _ hmem)).trans ?_
      cases op with
      | addArpProxy v i m =>
          by_cases hip : i = ip
          · subst hip
            obtain rfl := hsame v m List.mem_cons_self
            simp [FdbOp.effect]
          · simp [FdbOp.effect, Std.ExtTreeMap.getElem?_insert, hip, Ne.symm hip]
      | addFdbEntry b m d => simp [FdbOp.effect]
      | removeFdbEntry | removeArpProxy => exact hop.elim

theorem arp_effects_of_removes (h : ∀ op ∈ ops, op.Removes) {ip mac : String} :
    (effects ops n).arp[ip]? = some mac ↔ n.arp[ip]? = some mac ∧ ∀ v, .removeArpProxy v ip ∉ ops := by
  induction ops generalizing n with
  | nil => simp [effects]
  | cons op ops ih =>
      obtain ⟨hop, hrest⟩ := List.forall_mem_cons.mp h
      rw [effects, List.foldl_cons]
      refine (ih hrest).trans ?_
      cases op with
      | removeArpProxy v i =>
          by_cases hip : i = ip
          · subst hip
            have hgone : (FdbOp.effect (.removeArpProxy v i) n).arp[i]? = none :=
              Std.ExtTreeMap.getElem?_erase_self
            constructor
            · rintro ⟨hkept, -⟩
              simp [hgone] at hkept
            · rintro ⟨-, hnone⟩
              exact absurd List.mem_cons_self (hnone v)
          · simp [FdbOp.effect, Std.ExtTreeMap.getElem?_erase, hip, Ne.symm hip]
      | removeFdbEntry b m => simp [FdbOp.effect]
      | addFdbEntry | addArpProxy => exact absurd trivial hop

/-! ### The plan of one interface -/

def missingOps (vxlan : String) (expected : List ExpectedFdbEntry) (actual : Neighbours) : List FdbOp :=
  expected.flatMap fun entry =>
    (if (entry.mac, entry.dst) ∈ actual.fdb then []
      else [.addFdbEntry (Text.replace vxlanPrefix bridgePrefix vxlan) entry.mac entry.dst]) ++
      (if (entry.ip, entry.mac) ∈ actual.arp.toList then [] else [.addArpProxy vxlan entry.ip entry.mac])

def staleOps (vxlan : String) (expected : List ExpectedFdbEntry) (actual : Neighbours) : List FdbOp :=
  (actual.fdb.filterMap fun (mac, _) =>
    if managedMac mac && !expected.any (fun entry => entry.mac == mac) then
      some (.removeFdbEntry (Text.replace vxlanPrefix bridgePrefix vxlan) mac) else none) ++
  actual.arp.toList.filterMap fun (ip, mac) =>
    if managedMac mac && !expected.any (fun entry => entry.ip == ip) then
      some (.removeArpProxy vxlan ip) else none

variable {vxlan : String} {expected : List ExpectedFdbEntry} {actual : Neighbours} {mac dst ip : String}

theorem fdbPlan_eq : fdbPlan vxlan expected actual =
    missingOps vxlan expected actual ++ staleOps vxlan expected actual :=
  List.append_assoc ..

theorem adds_of_mem_missingOps : ∀ op ∈ missingOps vxlan expected actual, op.Adds := by
  intro op hmem
  simp only [missingOps, List.mem_flatMap, List.mem_append] at hmem
  obtain ⟨entry, -, hop | hop⟩ := hmem <;> split at hop <;> simp at hop <;> subst hop <;> trivial

theorem removes_of_mem_staleOps : ∀ op ∈ staleOps vxlan expected actual, op.Removes := by
  intro op hmem
  simp only [staleOps, List.mem_append, List.mem_filterMap] at hmem
  obtain ⟨entry, -, hop⟩ | ⟨entry, -, hop⟩ := hmem <;> split at hop <;> simp at hop <;> subst hop <;>
    exact not_false

theorem addFdbEntry_mem_missingOps :
    (∃ b, .addFdbEntry b mac dst ∈ missingOps vxlan expected actual) ↔
      (mac, dst) ∉ actual.fdb ∧ ∃ entry ∈ expected, entry.mac = mac ∧ entry.dst = dst := by
  simp only [missingOps, List.mem_flatMap, List.mem_append]
  constructor
  · rintro ⟨b, entry, hentry, hop | hop⟩ <;> split at hop <;> simp at hop
    obtain ⟨-, rfl, rfl⟩ := hop
    exact ⟨by assumption, entry, hentry, rfl, rfl⟩
  · rintro ⟨hnew, entry, hentry, rfl, rfl⟩
    exact ⟨_, entry, hentry, .inl (by rw [if_neg hnew]; exact List.mem_singleton_self _)⟩

theorem addArpProxy_mem_missingOps :
    (∃ v, .addArpProxy v ip mac ∈ missingOps vxlan expected actual) ↔
      actual.arp[ip]? ≠ some mac ∧ ∃ entry ∈ expected, entry.ip = ip ∧ entry.mac = mac := by
  simp only [missingOps, List.mem_flatMap, List.mem_append, Std.ExtTreeMap.mem_toList_iff_getElem?_eq_some]
  constructor
  · rintro ⟨v, entry, hentry, hop | hop⟩ <;> split at hop <;> simp at hop
    obtain ⟨-, rfl, rfl⟩ := hop
    exact ⟨by assumption, entry, hentry, rfl, rfl⟩
  · rintro ⟨hnew, entry, hentry, rfl, rfl⟩
    exact ⟨_, entry, hentry, .inr (by rw [if_neg hnew]; exact List.mem_singleton_self _)⟩

theorem removeFdbEntry_mem_staleOps (vxlan : String) :
    (∃ b, .removeFdbEntry b mac ∈ staleOps vxlan expected actual) ↔
      (∃ dst, (mac, dst) ∈ actual.fdb) ∧ managedMac mac ∧ ∀ entry ∈ expected, entry.mac ≠ mac := by
  simp [staleOps]

theorem removeArpProxy_mem_staleOps (vxlan : String) :
    (∃ v, .removeArpProxy v ip ∈ staleOps vxlan expected actual) ↔
      (∃ mac, actual.arp[ip]? = some mac ∧ managedMac mac) ∧ ∀ entry ∈ expected, entry.ip ≠ ip := by
  simp only [staleOps, List.mem_append, List.mem_filterMap, Prod.exists,
    Std.ExtTreeMap.mem_toList_iff_getElem?_eq_some]
  constructor
  · rintro ⟨v, ⟨m, d, -, hop⟩ | ⟨i, m, harp, hop⟩⟩ <;> split at hop <;> simp at hop
    obtain ⟨-, rfl⟩ := hop
    rename_i hstale
    simp only [Bool.and_eq_true, Bool.not_eq_true', List.any_eq_false, beq_iff_eq] at hstale
    exact ⟨⟨m, harp, hstale.1⟩, hstale.2⟩
  · rintro ⟨⟨m, harp, hmanaged⟩, hunexpected⟩
    refine ⟨vxlan, .inr ⟨ip, m, harp, ?_⟩⟩
    rw [if_pos]
    simpa [hmanaged] using hunexpected

/-! ### One interface after a pass -/

def settle (vxlan : String) (expected : List ExpectedFdbEntry) (actual : Neighbours) : Neighbours :=
  effects (fdbPlan vxlan expected actual) actual

def OneMac (expected : List ExpectedFdbEntry) : Prop :=
  ∀ e ∈ expected, ∀ e' ∈ expected, e.ip = e'.ip → e.mac = e'.mac

theorem mem_fdb_settle_iff : (mac, dst) ∈ (settle vxlan expected actual).fdb ↔
    ((mac, dst) ∈ actual.fdb ∨ ∃ entry ∈ expected, entry.mac = mac ∧ entry.dst = dst) ∧
      ¬ ((∃ dst, (mac, dst) ∈ actual.fdb) ∧ managedMac mac ∧ ∀ entry ∈ expected, entry.mac ≠ mac) := by
  rw [settle, fdbPlan_eq, effects_append, mem_fdb_effects_of_removes removes_of_mem_staleOps,
    mem_fdb_effects_of_adds adds_of_mem_missingOps, addFdbEntry_mem_missingOps,
    ← removeFdbEntry_mem_staleOps vxlan, not_exists]
  refine and_congr_left fun _ => ?_
  by_cases hheld : (mac, dst) ∈ actual.fdb <;> simp [hheld]

theorem arp_settle_iff : (settle vxlan expected actual).arp[ip]? = some mac ↔
    (effects (missingOps vxlan expected actual) actual).arp[ip]? = some mac ∧
      ¬ ((∃ mac, actual.arp[ip]? = some mac ∧ managedMac mac) ∧ ∀ entry ∈ expected, entry.ip ≠ ip) := by
  rw [settle, fdbPlan_eq, effects_append, arp_effects_of_removes removes_of_mem_staleOps,
    ← removeArpProxy_mem_staleOps vxlan, not_exists]

section Expected

variable {entry : ExpectedFdbEntry} (hentry : entry ∈ expected)

include hentry

theorem mem_fdb_settle_of_expected : (entry.mac, entry.dst) ∈ (settle vxlan expected actual).fdb :=
  mem_fdb_settle_iff.mpr
    ⟨.inr ⟨entry, hentry, rfl, rfl⟩, fun hstale => hstale.2.2 entry hentry rfl⟩

theorem arp_settle_of_expected (hunique : OneMac expected) :
    (settle vxlan expected actual).arp[entry.ip]? = some entry.mac := by
  have hsame : ∀ v m, .addArpProxy v entry.ip m ∈ missingOps vxlan expected actual → m = entry.mac := by
    intro v m hmem
    obtain ⟨-, other, hother, hip, rfl⟩ := addArpProxy_mem_missingOps.mp ⟨v, hmem⟩
    exact hunique other hother entry hentry hip
  refine arp_settle_iff.mpr ⟨?_, fun hstale => hstale.2 entry hentry rfl⟩
  rw [arp_effects_of_adds adds_of_mem_missingOps hsame, addArpProxy_mem_missingOps]
  by_cases hheld : actual.arp[entry.ip]? = some entry.mac
  · exact .inl hheld
  · exact .inr ⟨hheld, entry, hentry, rfl, rfl⟩

end Expected

theorem mem_fdb_settle (hmanaged : managedMac mac) :
    (mac, dst) ∈ (settle vxlan expected actual).fdb ↔
      ∃ entry ∈ expected, entry.mac = mac ∧ (entry.dst = dst ∨ (mac, dst) ∈ actual.fdb) := by
  rw [mem_fdb_settle_iff]
  constructor
  · rintro ⟨hheld | ⟨entry, hentry, hmac, hdst⟩, hkept⟩
    · by_contra hnone
      refine hkept ⟨⟨dst, hheld⟩, hmanaged, fun entry hentry hmac => hnone ?_⟩
      exact ⟨entry, hentry, hmac, .inr hheld⟩
    · exact ⟨entry, hentry, hmac, .inl hdst⟩
  · rintro ⟨entry, hentry, hmac, hdst | hheld⟩
    · exact ⟨.inr ⟨entry, hentry, hmac, hdst⟩, fun hstale => hstale.2.2 entry hentry hmac⟩
    · exact ⟨.inl hheld, fun hstale => hstale.2.2 entry hentry hmac⟩

theorem arp_settle (hunique : OneMac expected) (hmanaged : managedMac mac) :
    (settle vxlan expected actual).arp[ip]? = some mac ↔
      ∃ entry ∈ expected, entry.ip = ip ∧ entry.mac = mac := by
  constructor
  · intro hset
    by_contra hnone
    -- an address without an expected entry keeps its MAC through the additions and is then stale
    have hunexpected : ∀ entry ∈ expected, entry.ip ≠ ip := by
      rintro entry hentry rfl
      have hexpected : (settle vxlan expected actual).arp[entry.ip]? = some entry.mac :=
        arp_settle_of_expected hentry hunique
      exact hnone ⟨entry, hentry, rfl, Option.some_inj.mp (hexpected.symm.trans hset)⟩
    have hnew : ∀ v m, .addArpProxy v ip m ∉ missingOps vxlan expected actual := by
      intro v m hmem
      obtain ⟨-, entry, hentry, hip, -⟩ := addArpProxy_mem_missingOps.mp ⟨v, hmem⟩
      exact hunexpected entry hentry hip
    obtain ⟨hheld, hkept⟩ := arp_settle_iff.mp hset
    rw [arp_effects_of_adds adds_of_mem_missingOps fun v m hmem => absurd hmem (hnew v m)] at hheld
    rcases hheld with hheld | ⟨v, hmem⟩
    · exact hkept ⟨⟨mac, hheld, hmanaged⟩, hunexpected⟩
    · exact hnew v mac hmem
  · rintro ⟨entry, hentry, rfl, rfl⟩
    exact arp_settle_of_expected hentry hunique

/-- **A second look finds nothing to do.** -/
theorem fdbPlan_settle (hunique : OneMac expected) :
    fdbPlan vxlan expected (settle vxlan expected actual) = [] := by
  rw [fdbPlan_eq, List.append_eq_nil_iff]
  constructor
  · rw [missingOps, List.flatMap_eq_nil_iff]
    intro entry hentry
    rw [if_pos (mem_fdb_settle_of_expected hentry), List.nil_append, if_pos]
    exact Std.ExtTreeMap.mem_toList_iff_getElem?_eq_some.mpr (arp_settle_of_expected hentry hunique)
  · rw [List.eq_nil_iff_forall_not_mem]
    intro op hmem
    cases op with
    | addFdbEntry | addArpProxy => exact removes_of_mem_staleOps _ hmem trivial
    | removeFdbEntry b mac =>
        obtain ⟨⟨dst, hheld⟩, hmanaged, hunexpected⟩ := (removeFdbEntry_mem_staleOps vxlan).mp ⟨b, hmem⟩
        obtain ⟨entry, hentry, hmac, -⟩ := (mem_fdb_settle hmanaged).mp hheld
        exact hunexpected entry hentry hmac
    | removeArpProxy v ip =>
        obtain ⟨⟨mac, hheld, hmanaged⟩, hunexpected⟩ := (removeArpProxy_mem_staleOps vxlan).mp ⟨v, hmem⟩
        obtain ⟨entry, hentry, hip, -⟩ := (arp_settle hunique hmanaged).mp hheld
        exact hunexpected entry hentry hip

/-! ### A whole pass -/

theorem foldl_attempt_reliable (ops : List FdbOp) (p : FdbPass) :
    (ops.foldl (FdbPass.attempt .reliable) p).kernel = ops.foldl (fun kernel op => op.run kernel) p.kernel ∧
      (ops.foldl (FdbPass.attempt .reliable) p).performed = p.performed ++ ops := by
  induction ops generalizing p with
  | nil => simp
  | cons op ops ih =>
      obtain ⟨hkernel, hperformed⟩ := ih (FdbPass.attempt .reliable p op)
      refine ⟨hkernel, hperformed.trans ?_⟩
      exact List.append_assoc ..

theorem foldl_run_of_iface {ops : List FdbOp} (h : ∀ op ∈ ops, op.iface = vxlan)
    (kernel : String → Neighbours) : ops.foldl (fun kernel op => op.run kernel) kernel =
      Function.update kernel vxlan (effects ops (kernel vxlan)) := by
  induction ops generalizing kernel with
  | nil => exact (Function.update_eq_self vxlan kernel).symm
  | cons op ops ih =>
      obtain ⟨hop, hrest⟩ := List.forall_mem_cons.mp h
      rw [List.foldl_cons, ih hrest, FdbOp.run, hop, Function.update_self, Function.update_idem]
      rfl

def expectedOn (fdbEntries : List ExpectedFdbEntry) (vxlan : String) : List ExpectedFdbEntry :=
  fdbEntries.filter fun entry => entry.vxlan == vxlan

variable (fdbEntries : List ExpectedFdbEntry)

variable {fdbEntries} in
theorem mem_expectedOn {entry : ExpectedFdbEntry} :
    entry ∈ expectedOn fdbEntries vxlan ↔ entry ∈ fdbEntries ∧ entry.vxlan = vxlan := by
  simp [expectedOn]

theorem reconcileVxlan_spec (vpcId : String) (p : FdbPass) :
    (reconcileVxlan .reliable fdbEntries p (vxlanName vpcId)).kernel =
        Function.update p.kernel (vxlanName vpcId)
          (settle (vxlanName vpcId) (expectedOn fdbEntries (vxlanName vpcId)) (p.kernel (vxlanName vpcId))) ∧
      (reconcileVxlan .reliable fdbEntries p (vxlanName vpcId)).performed = p.performed ++
        fdbPlan (vxlanName vpcId) (expectedOn fdbEntries (vxlanName vpcId))
          (p.kernel (vxlanName vpcId)) := by
  obtain ⟨hkernel, hperformed⟩ := foldl_attempt_reliable (fdbPlan (vxlanName vpcId)
    (expectedOn fdbEntries (vxlanName vpcId)) (p.kernel (vxlanName vpcId))) p
  refine ⟨hkernel.trans ?_, hperformed⟩
  exact foldl_run_of_iface (fun op => iface_of_mem_fdbPlan) p.kernel

theorem foldl_reconcileVxlan {names : List String} (hnodup : names.Nodup)
    (hnames : ∀ i ∈ names, ∃ vpcId, i = vxlanName vpcId) (p : FdbPass) :
    (∀ i, (names.foldl (reconcileVxlan .reliable fdbEntries) p).kernel i =
        if i ∈ names then settle i (expectedOn fdbEntries i) (p.kernel i) else p.kernel i) ∧
      (names.foldl (reconcileVxlan .reliable fdbEntries) p).performed =
        p.performed ++ names.flatMap fun i => fdbPlan i (expectedOn fdbEntries i) (p.kernel i) := by
  induction names generalizing p with
  | nil => simp
  | cons name names ih =>
      obtain ⟨hnew, hrestNodup⟩ := List.nodup_cons.mp hnodup
      obtain ⟨⟨vpcId, rfl⟩, hrestNames⟩ := List.forall_mem_cons.mp hnames
      obtain ⟨hkernel, hperformed⟩ := reconcileVxlan_spec fdbEntries vpcId p
      obtain ⟨hrest, hlog⟩ := ih hrestNodup hrestNames (reconcileVxlan .reliable fdbEntries p (vxlanName vpcId))
      -- the interfaces visited later are as they were at the start
      have hother : ∀ i ∈ names,
          (reconcileVxlan .reliable fdbEntries p (vxlanName vpcId)).kernel i = p.kernel i := by
        intro i hi
        rw [hkernel, Function.update_of_ne]
        rintro rfl
        exact hnew hi
      constructor
      · intro i
        rw [List.foldl_cons, hrest i]
        by_cases hi : i ∈ names
        · rw [if_pos hi, if_pos (List.mem_cons_of_mem _ hi), hother i hi]
        · rw [if_neg hi, hkernel]
          by_cases heq : i = vxlanName vpcId
          · subst heq
            rw [Function.update_self, if_pos List.mem_cons_self]
          · rw [Function.update_of_ne heq, if_neg (by simp [heq, hi])]
      · rw [List.foldl_cons, hlog, hperformed, List.append_assoc, List.flatMap_cons]
        refine congrArg (fun rest => p.performed ++ (_ ++ rest)) (List.flatMap_congr fun i hi => ?_)
        rw [hother i hi]

/-- What the placements ask for: entries on VXLAN interfaces, at most one for each MAC and for each
address of an interface. -/
structure Expectation : Prop where
  named : ∀ e ∈ fdbEntries, ∃ vpcId, e.vxlan = vxlanName vpcId
  mac : ∀ e ∈ fdbEntries, ∀ e' ∈ fdbEntries, e.vxlan = e'.vxlan → e.mac = e'.mac → e = e'
  ip : ∀ e ∈ fdbEntries, ∀ e' ∈ fdbEntries, e.vxlan = e'.vxlan → e.ip = e'.ip → e = e'

variable {fdbEntries}

theorem Expectation.oneMac (h : Expectation fdbEntries) (vxlan : String) :
    OneMac (expectedOn fdbEntries vxlan) := by
  intro e he e' he' hip
  obtain ⟨hmem, hvxlan⟩ := mem_expectedOn.mp he
  obtain ⟨hmem', hvxlan'⟩ := mem_expectedOn.mp he'
  rw [h.ip e hmem e' hmem' (hvxlan.trans hvxlan'.symm) hip]

/-- **A pass** settles the interfaces that have expected entries and leaves the others alone. -/
theorem reconcileFdbEntries_spec (h : Expectation fdbEntries) (order : HashOrder) (p : FdbPass) :
    (∀ i, (reconcileFdbEntries .reliable order fdbEntries p).kernel i =
        if expectedOn fdbEntries i = [] then p.kernel i
        else settle i (expectedOn fdbEntries i) (p.kernel i)) ∧
      ∀ op ∈ (reconcileFdbEntries .reliable order fdbEntries p).performed,
        op ∈ p.performed ∨ ∃ i, expectedOn fdbEntries i ≠ [] ∧
          op ∈ fdbPlan i (expectedOn fdbEntries i) (p.kernel i) := by
  have hvisited : ∀ i, i ∈ order.arrange (fdbEntries.map ExpectedFdbEntry.vxlan).dedup ↔
      expectedOn fdbEntries i ≠ [] := by
    intro i
    rw [order.mem_arrange, List.mem_dedup, List.mem_map, ne_eq, List.eq_nil_iff_forall_not_mem, not_forall]
    exact exists_congr fun entry => mem_expectedOn.symm.trans not_not.symm
  rw [reconcileFdbEntries]
  split
  · rename_i hempty
    obtain rfl := List.isEmpty_iff.mp hempty
    exact ⟨fun i => rfl, fun op => Or.inl⟩
  · obtain ⟨hkernel, hperformed⟩ := foldl_reconcileVxlan fdbEntries
      ((order.perm _).nodup_iff.mpr (List.nodup_dedup (fdbEntries.map ExpectedFdbEntry.vxlan)))
      (fun i hi => by
        obtain ⟨entry, hentry, rfl⟩ := List.mem_map.mp (List.mem_dedup.mp (order.mem_arrange.mp hi))
        exact h.named entry hentry) p
    constructor
    · intro i
      rw [hkernel i]
      by_cases hi : expectedOn fdbEntries i = []
      · rw [if_pos hi, if_neg fun hmem => (hvisited i).mp hmem hi]
      · rw [if_neg hi, if_pos ((hvisited i).mpr hi)]
    · intro op hop
      rw [hperformed, List.mem_append, List.mem_flatMap] at hop
      refine hop.imp_right ?_
      rintro ⟨i, hi, hplan⟩
      exact ⟨i, (hvisited i).mp hi, hplan⟩

/-- The managed entries of every VXLAN interface are exactly the expected ones. -/
def Converged (fdbEntries : List ExpectedFdbEntry) (kernel : String → Neighbours) : Prop :=
  ∀ (vpcId mac : String), managedMac mac →
    (∀ dst, (mac, dst) ∈ (kernel (vxlanName vpcId)).fdb ↔
      ∃ e ∈ fdbEntries, e.vxlan = vxlanName vpcId ∧ e.mac = mac ∧ e.dst = dst) ∧
    ∀ (ip : String), (kernel (vxlanName vpcId)).arp[ip]? = some mac ↔
      ∃ e ∈ fdbEntries, e.vxlan = vxlanName vpcId ∧ e.ip = ip ∧ e.mac = mac

/-- What a pass can repair: on an interface with expected entries, no expected MAC has an unexpected
destination; an interface without has no managed entries. -/
def Repairable (fdbEntries : List ExpectedFdbEntry) (kernel : String → Neighbours) : Prop :=
  ∀ (vpcId mac : String), managedMac mac →
    (∀ dst, (mac, dst) ∈ (kernel (vxlanName vpcId)).fdb →
      (∃ e ∈ fdbEntries, e.vxlan = vxlanName vpcId) ∧
      ∀ e ∈ fdbEntries, e.vxlan = vxlanName vpcId → e.mac = mac → e.dst = dst) ∧
    ∀ (ip : String), (kernel (vxlanName vpcId)).arp[ip]? = some mac → ∃ e ∈ fdbEntries, e.vxlan = vxlanName vpcId

theorem second_pass_idle (h : Expectation fdbEntries) (order again : HashOrder)
    (kernel : String → Neighbours) :
    (reconcileFdbEntries .reliable again fdbEntries
      (.start (reconcileFdbEntries .reliable order fdbEntries (.start kernel)).kernel)).performed = [] := by
  rw [List.eq_nil_iff_forall_not_mem]
  intro op hop
  rcases (reconcileFdbEntries_spec h again _).2 op hop with hbefore | ⟨i, hi, hplan⟩
  · exact List.not_mem_nil hbefore
  · change op ∈ fdbPlan i _ ((reconcileFdbEntries .reliable order fdbEntries (.start kernel)).kernel i) at hplan
    rw [(reconcileFdbEntries_spec h order _).1 i, if_neg hi, fdbPlan_settle (h.oneMac i)] at hplan
    exact List.not_mem_nil hplan

section Pass

variable {order : HashOrder} {kernel : String → Neighbours} {vpcId : String}

theorem kernel_of_unexpected (h : Expectation fdbEntries)
    (hnone : ¬ ∃ e ∈ fdbEntries, e.vxlan = vxlanName vpcId) :
    (reconcileFdbEntries .reliable order fdbEntries (.start kernel)).kernel (vxlanName vpcId) =
      kernel (vxlanName vpcId) := by
  have hempty : expectedOn fdbEntries (vxlanName vpcId) = [] := by
    rw [List.eq_nil_iff_forall_not_mem]
    exact fun e he => hnone ⟨e, mem_expectedOn.mp he⟩
  rw [(reconcileFdbEntries_spec h order _).1, if_pos hempty]
  rfl

theorem kernel_of_expected (h : Expectation fdbEntries)
    (hsome : ∃ e ∈ fdbEntries, e.vxlan = vxlanName vpcId) :
    (reconcileFdbEntries .reliable order fdbEntries (.start kernel)).kernel (vxlanName vpcId) =
      settle (vxlanName vpcId) (expectedOn fdbEntries (vxlanName vpcId)) (kernel (vxlanName vpcId)) := by
  obtain ⟨e, he, hvxlan⟩ := hsome
  rw [(reconcileFdbEntries_spec h order _).1,
    if_neg (List.ne_nil_of_mem (mem_expectedOn.mpr ⟨he, hvxlan⟩))]
  rfl

end Pass

/-- **Convergence.** With a backend that does everything, one pass leaves exactly the expected entries
on every VXLAN interface, with nothing left to do for a second pass, just in case the tables were
repairable. -/
theorem reconcileFdbEntries_converges_iff (h : Expectation fdbEntries) (order again : HashOrder)
    (kernel : String → Neighbours) :
    (Converged fdbEntries (reconcileFdbEntries .reliable order fdbEntries (.start kernel)).kernel ∧
      (reconcileFdbEntries .reliable again fdbEntries
        (.start (reconcileFdbEntries .reliable order fdbEntries (.start kernel)).kernel)).performed = []) ↔
      Repairable fdbEntries kernel := by
  refine (and_iff_left (second_pass_idle h order again kernel)).trans ?_
  refine forall_congr' fun vpcId => forall_congr' fun mac => imp_congr_right fun hmanaged => ?_
  by_cases hexpected : ∃ e ∈ fdbEntries, e.vxlan = vxlanName vpcId
  · rw [kernel_of_expected h hexpected]
    simp only [mem_fdb_settle hmanaged, arp_settle (h.oneMac _) hmanaged, mem_expectedOn, hexpected,
      true_and, implies_true, and_true, and_assoc]
    refine forall_congr' fun dst => ⟨fun hexact hheld e he hvxlan hmac => ?_, fun hold => ?_⟩
    · obtain ⟨e', he', hvxlan', hmac', hdst⟩ := hexact.mp ⟨e, he, hvxlan, hmac, .inr hheld⟩
      rw [h.mac e he e' he' (hvxlan.trans hvxlan'.symm) (hmac.trans hmac'.symm)]
      exact hdst
    · refine exists_congr fun e => and_congr_right fun he => and_congr_right fun hvxlan =>
        and_congr_right fun hmac => or_iff_left_of_imp fun hheld => ?_
      exact hold hheld e he hvxlan hmac
  · rw [kernel_of_unexpected h hexpected]
    have hnone : ∀ {p : ExpectedFdbEntry → Prop},
        ¬ ∃ e ∈ fdbEntries, e.vxlan = vxlanName vpcId ∧ p e :=
      fun ⟨e, he, hvxlan, _⟩ => hexpected ⟨e, he, hvxlan⟩
    simp only [hnone, hexpected, iff_false, false_and, imp_false]

def movedVm : ExpectedFdbEntry := ⟨vxlanName "vpc-1", "02:00:0a:00:00:05", "fd00::2", "10.0.0.5"⟩

theorem Expectation.singleton (vpcId mac dst ip : String) :
    Expectation [⟨vxlanName vpcId, mac, dst, ip⟩] where
  named := by simp
  mac := by simp
  ip := by simp

theorem reconcileFdbEntries_converges_of_bare_interfaces :
    Expectation [movedVm] ∧ Converged [movedVm]
      (reconcileFdbEntries .reliable .sorted [movedVm] (.start fun _ => ⟨[], ∅⟩)).kernel := by
  have hexpectation : Expectation [movedVm] := Expectation.singleton ..
  refine ⟨hexpectation, ?_⟩
  have hbare : Repairable [movedVm] fun _ => ⟨[], ∅⟩ := by
    intro vpcId mac hmanaged
    constructor
    · intro dst hheld
      exact absurd hheld List.not_mem_nil
    · intro ip hheld
      simp at hheld
  exact ((reconcileFdbEntries_converges_iff hexpectation .sorted .sorted _).mpr hbare).1

/-- A VM has moved from one hypervisor to another: its MAC keeps both destinations. -/
theorem reconcileFdbEntries_keeps_old_destination :
    Expectation [movedVm] ∧ ¬ Converged [movedVm]
      (reconcileFdbEntries .reliable .sorted [movedVm]
        (.start fun _ => ⟨[("02:00:0a:00:00:05", "fd00::1")], ∅⟩)).kernel := by
  have hexpectation : Expectation [movedVm] := Expectation.singleton ..
  refine ⟨hexpectation, fun hconverged => ?_⟩
  have hmanaged : managedMac movedVm.mac := by decide
  have hexact := (hconverged "vpc-1" movedVm.mac hmanaged).1 "fd00::1"
  rw [kernel_of_expected hexpectation ⟨movedVm, List.mem_singleton_self _, rfl⟩,
    mem_fdb_settle hmanaged] at hexact
  obtain ⟨e, he, -, -, hdst⟩ := hexact.mp ⟨movedVm,
    mem_expectedOn.mpr ⟨List.mem_singleton_self _, rfl⟩, rfl, .inr (List.mem_singleton_self _)⟩
  rw [List.mem_singleton.mp he] at hdst
  exact absurd hdst (by decide)

end Overlay

end Syfrah
