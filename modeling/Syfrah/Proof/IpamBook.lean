import Syfrah.Proof.Addresses

/-!
# The books of the address manager

As long as each subnet keeps its /24, the bits of its bitmap and the records of its allocations say the
same, after every operation and whether it succeeds or not.
-/

namespace Syfrah

namespace IpamStore

open Tx SubnetBitmap

/-- An operation on the addresses of a subnet. -/
inductive Op
  | reserve (subnetId : String)
  | assign (subnetId ip vmId : String)
  | markOrphaned (subnetId ip : String)
  | release (subnetId ip : String)

/-- Run an operation with the one CIDR that its subnet has. -/
def Op.run (cidr : String → String) : Op → IpamM Unit
  | .reserve subnetId => do let _ ← reserveIp subnetId (cidr subnetId)
  | .assign subnetId ip vmId => do let _ ← assignIp subnetId ip vmId
  | .markOrphaned subnetId ip => do let _ ← IpamStore.markOrphaned subnetId ip
  | .release subnetId ip => releaseIp subnetId (cidr subnetId) ip

/-- The address of a subnet with a last octet. -/
def address (net : String → Ipv4Net) (id : String) (offset : ℕ) : String :=
  (ipFromOffset (net id).network offset).display

def recordKey (net : String → Ipv4Net) (id : String) (offset : ℕ) : String :=
  allocationKey id (address net id offset)

/-- The records of a subnet. -/
def records (db : IpamDb) (id : String) : List (String × IpAllocation) :=
  (db.table .ipAllocations).toList.filter fun p => p.2.subnetId = id

variable {net : String → Ipv4Net} {db : IpamDb} {id subnetId : String} {offset : ℕ}

theorem recordKey_inj {id' : String} {offset' : ℕ} (h : offset ≤ lastAllocatable)
    (h' : offset' ≤ lastAllocatable) (heq : recordKey net id offset = recordKey net id' offset') :
    id = id' ∧ offset = offset' := by
  obtain ⟨rfl, hip⟩ := allocationKey_injective heq
  have hoctet := congrArg (fun ip : Ipv4Addr => (ip.octet 3).val) hip
  simp only [octet_ipFromOffset _ h, octet_ipFromOffset _ h'] at hoctet
  exact ⟨rfl, hoctet⟩

/-- Bits and records agree. -/
structure Book (net : String → Ipv4Net) (db : IpamDb) : Prop where
  sized : ∀ id, (loadBitmap db id).Sized
  reserved : ∀ id, ∀ offset ∈ reservedOffsets, isSet (loadBitmap db id).bits offset = true
  bits : ∀ id offset, firstAllocatable ≤ offset → offset ≤ lastAllocatable →
    isSet (loadBitmap db id).bits offset = (db.get .ipAllocations (recordKey net id offset)).isSome
  rows : ∀ key alloc, db.get .ipAllocations key = some alloc → ∃ offset, firstAllocatable ≤ offset ∧
    offset ≤ lastAllocatable ∧ key = recordKey net alloc.subnetId offset

namespace Book

theorem empty : Book net .empty where
  sized _ := sized_new
  reserved _ := by
    change ∀ offset ∈ reservedOffsets, isSet new.bits offset = true
    decide
  bits _ offset hfirst hlast := by
    have hclear : ∀ o ∈ List.range' firstAllocatable 252, isSet new.bits o = false := by decide +kernel
    refine hclear offset (List.mem_range'_1.mpr ⟨hfirst, ?_⟩)
    simp only [firstAllocatable, lastAllocatable] at hlast ⊢
    omega
  rows key alloc hget := by
    change (∅ : Table IpAllocation)[key]? = _ at hget
    rw [Std.ExtTreeMap.getElem?_empty] at hget
    cases hget

variable (h : Book net db)
include h

/-- A record is written over by one of the same subnet. -/
theorem rewrite {key : String} {alloc alloc' : IpAllocation} (hget : db.get .ipAllocations key = some alloc)
    (hid : alloc'.subnetId = alloc.subnetId) : Book net (db.set .ipAllocations key alloc') := by
  have hbitmap : ∀ id, loadBitmap (db.set .ipAllocations key alloc') id = loadBitmap db id := by
    intro id
    rw [loadBitmap, LayerDb.get_set_of_ne _ (by decide), loadBitmap]
  refine ⟨fun id => hbitmap id ▸ h.sized id, fun id => hbitmap id ▸ h.reserved id, ?_, ?_⟩
  · intro id offset hfirst hlast
    rw [hbitmap, h.bits id offset hfirst hlast, LayerDb.get_set]
    split
    · rename_i heq
      rw [← heq, hget]
      rfl
    · rfl
  · intro key' found hfound
    rw [LayerDb.get_set] at hfound
    split at hfound
    · rename_i heq
      cases hfound
      rw [hid]
      exact heq ▸ h.rows key alloc hget
    · exact h.rows key' found hfound

/-- The bit and the record of one address change together. -/
theorem change {db' : IpamDb} {bitmap : SubnetBitmap} (row : Option IpAllocation)
    (hfirst : firstAllocatable ≤ offset) (hlast : offset ≤ lastAllocatable) (hsized : bitmap.Sized)
    (hset : ∀ other, isSet bitmap.bits other =
      if other = offset then row.isSome else isSet (loadBitmap db subnetId).bits other)
    (hload : ∀ id, loadBitmap db' id = if subnetId = id then bitmap else loadBitmap db id)
    (hget : ∀ key, db'.get .ipAllocations key =
      if recordKey net subnetId offset = key then row else db.get .ipAllocations key)
    (hrow : ∀ alloc, row = some alloc → alloc.subnetId = subnetId) : Book net db' := by
  refine ⟨fun id => ?_, fun id o ho => ?_, fun id o hfirst' hlast' => ?_, fun key found hfound => ?_⟩
  · rw [hload]
    split
    · exact hsized
    · exact h.sized id
  · rw [hload]
    split
    · rename_i heq
      have hfree := not_reserved hfirst hlast
      rw [List.contains_eq_mem, decide_eq_false_iff_not] at hfree
      rw [hset, if_neg fun hoffset : o = offset => hfree (hoffset ▸ ho), heq, h.reserved id o ho]
    · exact h.reserved id o ho
  · rw [hload, hget]
    by_cases heq : subnetId = id
    · subst heq
      rw [if_pos rfl, hset]
      by_cases ho : o = offset
      · rw [if_pos ho, if_pos (by rw [ho])]
      · rw [if_neg ho, if_neg fun hkeys => ho (recordKey_inj hlast hlast' hkeys).2.symm,
          h.bits subnetId o hfirst' hlast']
    · rw [if_neg heq, if_neg fun hkeys => heq (recordKey_inj hlast hlast' hkeys).1,
        h.bits id o hfirst' hlast']
  · rw [hget] at hfound
    split at hfound
    · rename_i heq
      exact ⟨offset, hfirst, hlast, (hrow found hfound).symm ▸ heq.symm⟩
    · exact h.rows key found hfound

theorem reserve {bitmap : SubnetBitmap} {alloc : IpAllocation}
    (hoffset : (loadBitmap db subnetId).allocate = some (offset, bitmap)) (hid : alloc.subnetId = subnetId)
    (hip : alloc.ip = address net subnetId offset) : Book net (Leased.reserve db subnetId bitmap alloc) := by
  obtain ⟨⟨hfirst, hlast, -⟩, -⟩ := allocate_lowest hoffset
  obtain ⟨hsized, hset⟩ := isSet_allocate (h.sized subnetId) hoffset
  refine h.change (some alloc) hfirst hlast hsized hset (Leased.loadBitmap_reserve db subnetId bitmap alloc)
    (fun key => ?_) fun found hfound => Option.some.inj hfound ▸ hid
  rw [Leased.reserve, LayerDb.get_set, hip, LayerDb.get_set_of_ne _ (by decide)]
  rfl

theorem release {ip : String} {addr : Ipv4Addr} (hip : Ipv4Addr.parse ip = some addr)
    (hrow : (db.get .ipAllocations (allocationKey subnetId ip)).isSome = true) :
    Book net (Leased.releaseRow db subnetId ip ((loadBitmap db subnetId).release (addr.octet 3).val)) := by
  -- the record that is there says which address this is
  obtain ⟨alloc, halloc⟩ := Option.isSome_iff_exists.mp hrow
  obtain ⟨offset, hfirst, hlast, hkey⟩ := h.rows _ alloc halloc
  rw [← Ipv4Addr.display_of_parse hip] at hkey ⊢
  obtain ⟨rfl, rfl⟩ := allocationKey_injective hkey
  rw [octet_ipFromOffset _ hlast]
  obtain ⟨hsized, hother⟩ := isSet_release (h.sized alloc.subnetId) hlast
  refine h.change none hfirst hlast hsized (fun other => ?_)
    (Leased.loadBitmap_releaseRow db alloc.subnetId _ _) (fun key => ?_) fun _ => (nomatch ·)
  · split
    · rename_i heq
      rw [heq, isSet_release_self (h.sized alloc.subnetId) hfirst hlast, Option.isSome_none]
    · rename_i hne
      exact hother other hne
  · rw [Leased.releaseRow, LayerDb.get_delete, LayerDb.get_set_of_ne _ (by decide)]
    rfl

/-- **The number of records** of a subnet is the number of bits set for its addresses. -/
theorem length_records (id : String) : (records db id).length =
    (List.range' firstAllocatable (lastAllocatable + 1 - firstAllocatable)).countP
      fun offset => isSet (loadBitmap db id).bits offset := by
  have hrange : ∀ o, o ∈ List.range' firstAllocatable (lastAllocatable + 1 - firstAllocatable) ↔
      firstAllocatable ≤ o ∧ o ≤ lastAllocatable := by
    intro o
    rw [List.mem_range'_1]
    simp only [firstAllocatable, lastAllocatable]
    omega
  rw [List.countP_eq_length_filter, ← List.length_map (f := Prod.fst), ← List.length_map (f := recordKey net id)]
  refine List.Perm.length_eq ((List.perm_ext_iff_of_nodup ?_ ?_).mpr fun key => ?_)
  · refine (List.filter_sublist.map _).nodup ?_
    rw [Std.ExtTreeMap.map_fst_toList_eq_keys]
    exact Std.ExtTreeMap.nodup_keys
  · refine List.Nodup.map_on (fun o ho o' ho' heq => ?_) (List.Nodup.filter _ List.nodup_range')
    exact (recordKey_inj ((hrange o).mp (List.mem_of_mem_filter ho)).2
      ((hrange o').mp (List.mem_of_mem_filter ho')).2 heq).2
  · simp only [records, List.mem_map, List.mem_filter, decide_eq_true_eq, hrange]
    constructor
    · rintro ⟨⟨key, alloc⟩, ⟨hmem, hid⟩, rfl⟩
      have hget : db.get .ipAllocations key = some alloc := Std.ExtTreeMap.mem_toList_iff_getElem?_eq_some.mp hmem
      obtain ⟨o, hfirst, hlast, hkey⟩ := h.rows key alloc hget
      dsimp only at hid
      rw [hid] at hkey
      refine ⟨o, ⟨⟨hfirst, hlast⟩, ?_⟩, hkey.symm⟩
      rw [h.bits id o hfirst hlast, ← hkey, hget, Option.isSome_some]
    · rintro ⟨o, ⟨⟨hfirst, hlast⟩, hset⟩, rfl⟩
      rw [h.bits id o hfirst hlast] at hset
      obtain ⟨alloc, hget⟩ := Option.isSome_iff_exists.mp hset
      refine ⟨(_, alloc), ⟨Std.ExtTreeMap.mem_toList_iff_getElem?_eq_some.mpr hget, ?_⟩, rfl⟩
      obtain ⟨o', -, hlast', hkey⟩ := h.rows _ alloc hget
      exact (recordKey_inj hlast hlast' hkey).1.symm

/-- **Every operation keeps the books.** -/
theorem step {cidr : String → String} (hcidr : ∀ id, Ipv4Net.parse (cidr id) = some (net id)) (op : Op)
    (ambient : Ambient) : Book net (op.run cidr (db, ambient)).2.1 := by
  change Ensures (op.run cidr) (db, ambient) fun _ t => Book net t.1
  cases op with
  | reserve subnetId =>
      refine .bind (reserveIp_spec subnetId (cidr subnetId) (db, ambient)) (fun alloc t ht => ?_) fun e t ht => ht ▸ h
      obtain ⟨found, offset, bitmap, hnet, hoffset, hid, hip, -, ht⟩ := ht
      rw [hcidr] at hnet
      cases hnet
      exact .pure (ht ▸ h.reserve hoffset hid hip)
  | assign subnetId ip vmId =>
      have hassign : Ensures (assignIp subnetId ip vmId) (db, ambient) fun _ t => Book net t.1 :=
        .read (.orThrow (fun _ => h) fun alloc hget => .rejectIf (fun _ => h) fun _ =>
          .take (.write (.pure (h.rewrite hget rfl))))
      exact .bind hassign (fun _ _ ht => .pure ht) fun _ _ ht => ht
  | markOrphaned subnetId ip =>
      have hmark : Ensures (IpamStore.markOrphaned subnetId ip) (db, ambient) fun _ t => Book net t.1 :=
        .read (.orThrow (fun _ => h) fun alloc hget => .write (.pure (h.rewrite hget rfl)))
      exact .bind hmark (fun _ _ ht => .pure ht) fun _ _ ht => ht
  | release subnetId ip =>
      refine (releaseIp_spec subnetId (cidr subnetId) ip (db, ambient)).mono fun reply t ht => ?_
      cases reply with
      | error e => exact ht ▸ h
      | ok _ =>
          obtain ⟨addr, hip, -, hrow, ht⟩ := ht
          exact ht ▸ h.release hip hrow

theorem availableCount_add_length (id : String) :
    (loadBitmap db id).availableCount + (records db id).length = 252 := by
  have hlength := List.length_eq_countP_add_countP (fun offset => isSet (loadBitmap db id).bits offset)
    (l := List.range' firstAllocatable (lastAllocatable + 1 - firstAllocatable))
  rw [List.length_range'] at hlength
  rw [h.length_records id, availableCount, Nat.add_comm]
  simpa [firstAllocatable, lastAllocatable] using hlength.symm

theorem reserveIp_fails_iff {cidr : String} (hcidr : Ipv4Net.parse cidr = some (net id)) (ambient : Ambient) :
    (∃ e, (reserveIp id cidr (db, ambient)).1 = .error e) ↔ (records db id).length = 252 := by
  have hfull : (loadBitmap db id).allocate = none ↔ (records db id).length = 252 := by
    have hcount := h.availableCount_add_length id
    have hzero : (records db id).length = 252 ↔ (loadBitmap db id).availableCount = 0 := by omega
    rw [hzero, availableCount, List.countP_eq_zero, allocate_eq_none_iff]
    constructor
    · intro hnone o ho
      rw [List.mem_range'_1] at ho
      simp only [firstAllocatable, lastAllocatable] at ho
      intro hclear
      exact hnone o ⟨ho.1, by simp only [lastAllocatable]; omega, by simpa using hclear⟩
    · intro hset o hfree
      refine hset o ?_ (by simpa using hfree.clear)
      have hlast := hfree.last
      rw [List.mem_range'_1]
      simp only [firstAllocatable, lastAllocatable] at hlast ⊢
      exact ⟨hfree.first, by omega⟩
  rw [← hfull]
  change Ensures (reserveIp id cidr) (db, ambient) fun reply _ =>
    (∃ e, reply = .error e) ↔ (loadBitmap db id).allocate = none
  refine .check (fun e he => ?_) fun base _ => .read (.orThrow (fun hnone => ?_) fun p halloc =>
    .take (.write (.write (.pure ?_))))
  · rw [parseSubnetBase, hcidr] at he
    cases he
  · exact ⟨fun _ => hnone, fun _ => ⟨_, rfl⟩⟩
  · constructor
    · rintro ⟨e, he⟩
      cases he
    intro hnone
    have hsome : (loadBitmap db id).allocate = some p := halloc
    rw [hnone] at hsome
    cases hsome

end Book

/-- **The books of the address manager.** From an empty store and with one CIDR per subnet, whatever
operations are made: bits and records agree, reserved bits stay set, the free addresses are those that
have no record, and a reservation fails just when all 252 have one. -/
theorem books_kept (cidr : String → String) (net : String → Ipv4Net)
    (hcidr : ∀ id, Ipv4Net.parse (cidr id) = some (net id)) (ops : List Op) (ambient : Ambient) (id : String) :
    let s := reached (fun op => op.run cidr) ops (.empty, ambient)
    (∀ offset, firstAllocatable ≤ offset → offset ≤ lastAllocatable →
      (isSet (loadBitmap s.1 id).bits offset = true ↔
        ∃ alloc, s.1.get .ipAllocations (allocationKey id (address net id offset)) = some alloc)) ∧
    (∀ offset ∈ reservedOffsets, isSet (loadBitmap s.1 id).bits offset = true) ∧
    (loadBitmap s.1 id).availableCount = 252 - (records s.1 id).length ∧
    ((∃ e, (reserveIp id (cidr id) s).1 = .error e) ↔ (records s.1 id).length = 252) := by
  intro s
  have hbook : Book net s.1 :=
    invariant_reached (I := fun t : IpamDb × Ambient => Book net t.1) (C := fun _ => True) .empty
      (fun t op ht _ => ht.step hcidr op t.2) fun _ _ => trivial
  refine ⟨fun offset hfirst hlast => ?_, hbook.reserved id, ?_, hbook.reserveIp_fails_iff (hcidr id) s.2⟩
  · rw [hbook.bits id offset hfirst hlast]
    exact Option.isSome_iff_exists
  · have hcount := hbook.availableCount_add_length id
    omega

def oneNet : Ipv4Net := ⟨.ofOctets 10 0 1 0, 24⟩

theorem books_kept_one :
    let s := reached (fun op => Op.run (fun _ => oneNet.display) op) [.reserve "a", .assign "a" "10.0.1.3" "vm"]
      (.empty, .steady 0)
    (∃ alloc, s.1.get .ipAllocations "a/10.0.1.3" = some alloc) ∧
      (loadBitmap s.1 "a").availableCount = 252 - (records s.1 "a").length := by
  intro s
  have hbooks := books_kept (fun _ => oneNet.display) (fun _ => oneNet) (fun _ => oneNet.parse_display)
    [.reserve "a", .assign "a" "10.0.1.3" "vm"] (.steady 0) "a"
  exact ⟨(hbooks.1 3 (by decide) (by decide)).mp (by decide +kernel), hbooks.2.2.1⟩

end IpamStore

end Syfrah
