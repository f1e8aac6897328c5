import Syfrah.Org.SubnetAllocator
import Syfrah.Proof.AddressStep

/-!
# The subnet allocators find the lowest free /24

Both visit the blocks of a VPC in order. The one of the store adds 256 to a 32-bit address after each
block, which overflows when the VPC ends at the last address there is and has no free block.
-/

namespace Syfrah

namespace SubnetAllocator

open OrgStore

variable {vpcCidr : Ipv4Net} {existing : List Ipv4Net} {ok : Ipv4Net → Bool}

/-- A /24 written without host bits. -/
structure IsBlock (net : Ipv4Net) : Prop where
  prefixLen : net.prefixLen = 24
  addr : net.addr = net.network

def block (vpcCidr : Ipv4Net) (i : ℕ) : Ipv4Net := ⟨Fin.ofNat _ (vpcCidr.network.val + 256 * i), 24⟩

def numBlocks (vpcCidr : Ipv4Net) : ℕ := 2 ^ (24 - vpcCidr.prefixLen.val)

def firstFree (vpcCidr : Ipv4Net) (existing : List Ipv4Net) : Option Ipv4Net :=
  ((List.range (numBlocks vpcCidr)).map (block vpcCidr)).find? (isFree existing)

structure LowestFree (vpcCidr : Ipv4Net) (existing : List Ipv4Net) (net : Ipv4Net) : Prop where
  isBlock : IsBlock net
  inside : vpcCidr.Encloses net
  free : isFree existing net = true
  lowest : ∀ other, IsBlock other → vpcCidr.Encloses other → isFree existing other = true →
    net.network ≤ other.network

/-! ### The blocks of a VPC -/

theorem size_eq (h : vpcCidr.prefixLen.val ≤ 24) : vpcCidr.size = 256 * numBlocks vpcCidr := by
  rw [Ipv4Net.size, numBlocks, show (256 : ℕ) = 2 ^ 8 by norm_num, ← Nat.pow_add]
  congr 1
  omega

theorem broadcast_eq (h : vpcCidr.prefixLen.val ≤ 24) :
    vpcCidr.broadcast.val + 1 = vpcCidr.network.val + 256 * numBlocks vpcCidr := by
  have hsize := size_eq h
  have hpos := vpcCidr.size_pos
  simp only [Ipv4Net.broadcast]
  omega

theorem block_spec (h : vpcCidr.prefixLen.val ≤ 24) {i : ℕ} (hi : i < numBlocks vpcCidr) :
    vpcCidr.Encloses (block vpcCidr i) ∧ (block vpcCidr i).network.val = vpcCidr.network.val + 256 * i ∧
      IsBlock (block vpcCidr i) := by
  have hend := broadcast_eq h
  have haligned := network_aligned h
  have hlt := vpcCidr.broadcast.isLt
  obtain ⟨hnetwork, -⟩ := @block_ends (vpcCidr.network.val + 256 * i) (by omega) (by omega)
  refine ⟨encloses_block (by omega) (by omega) (by omega), hnetwork, rfl, Fin.ext ?_⟩
  exact (Nat.mod_eq_of_lt (by omega)).trans hnetwork.symm

theorem exists_block (h : vpcCidr.prefixLen.val ≤ 24) {net : Ipv4Net} (hnet : IsBlock net)
    (hinside : vpcCidr.Encloses net) : ∃ i < numBlocks vpcCidr, net = block vpcCidr i := by
  obtain ⟨hlen, haddr⟩ := hnet
  have hend := broadcast_eq h
  have haligned := network_aligned h
  have haligned' : net.network.val % 256 = 0 := network_aligned (by rw [hlen]; decide)
  have hnetwork := hinside.network
  simp only [Ipv4Net.contains, Fin.le_def, Bool.and_eq_true, decide_eq_true_eq] at hnetwork
  refine ⟨(net.network.val - vpcCidr.network.val) / 256, by omega, ?_⟩
  have hstart : vpcCidr.network.val + 256 * ((net.network.val - vpcCidr.network.val) / 256) = net.network.val := by
    omega
  rw [block, hstart]
  obtain ⟨addr, prefixLen⟩ := net
  rw [Ipv4Net.mk.injEq]
  refine ⟨Fin.ext ?_, hlen⟩
  rw [Fin.val_ofNat, ← haddr]
  exact (Nat.mod_eq_of_lt addr.isLt).symm

theorem not_encloses_of_long (h : 24 < vpcCidr.prefixLen.val) {net : Ipv4Net} (hnet : IsBlock net) :
    ¬ vpcCidr.Encloses net := by
  rintro ⟨hfirst, hlast⟩
  have hsize : vpcCidr.size ≤ 2 ^ 7 := Nat.pow_le_pow_right (by decide) (by omega)
  have hbroadcast : net.broadcast.val = net.network.val + 255 := by
    simp only [Ipv4Net.broadcast, Ipv4Net.size, hnet.prefixLen]
    rfl
  simp only [Ipv4Net.contains, Fin.le_def, Bool.and_eq_true, decide_eq_true_eq] at hfirst hlast
  simp only [Ipv4Net.broadcast] at hlast hbroadcast
  omega

/-! ### The loops -/

theorem searchBlocks_eq_find (ok : Ipv4Net → Bool) (start count : ℕ) : searchBlocks ok start count =
    ((List.range count).map fun i => (⟨Fin.ofNat _ (start + 256 * i), 24⟩ : Ipv4Net)).find? ok := by
  induction count generalizing start with
  | zero => rfl
  | succ count ih =>
      have hrest : (List.range count).map (fun i => (⟨Fin.ofNat _ (start + 256 + 256 * i), 24⟩ : Ipv4Net)) =
          (List.range count).map ((fun i => ⟨Fin.ofNat _ (start + 256 * i), 24⟩) ∘ Nat.succ) := by
        refine List.map_congr_left fun i _ => ?_
        rw [Function.comp_apply, Nat.mul_succ, Nat.add_comm (256 * i), Nat.add_assoc]
      rw [searchBlocks, List.range_succ_eq_map, List.map_cons, List.find?_cons, List.map_map, ih, hrest,
        Nat.mul_zero, Nat.add_zero]
      cases ok ⟨Fin.ofNat _ start, 24⟩ <;> rfl

theorem walk_eq (ok : Ipv4Net → Bool) {netEnd addr count : ℕ} (hend : netEnd + 1 = addr + 256 * count)
    (hlt : netEnd < 2 ^ 32) : walk ok netEnd addr =
      match searchBlocks ok addr count with
      | some net => .found net
      | none => if netEnd = 2 ^ 32 - 1 ∧ count ≠ 0 then .overflow else .exhausted := by
  induction count generalizing addr with
  | zero =>
      rw [walk, if_neg (by omega)]
      simp [searchBlocks]
  | succ count ih =>
      rw [walk, if_pos (by omega), searchBlocks]
      by_cases hok : ok ⟨Fin.ofNat _ addr, 24⟩ = true
      · simp only [hok, if_true]
      · simp only [hok]
        by_cases hnext : addr + 256 < 2 ^ 32
        · rw [if_neg (by simp), if_pos hnext, ih (by omega)]
          have hcount : (netEnd = 2 ^ 32 - 1 ∧ count ≠ 0) ↔ (netEnd = 2 ^ 32 - 1 ∧ count + 1 ≠ 0) := by omega
          simp only [hcount]
          rfl
        · obtain rfl : count = 0 := by omega
          rw [if_neg (by simp), if_neg hnext]
          simp [searchBlocks]
          omega

/-! ### Both allocators -/

theorem firstFree_congr
    (hok : ∀ i < numBlocks vpcCidr, ok (block vpcCidr i) = isFree existing (block vpcCidr i)) :
    searchBlocks ok vpcCidr.network.val (numBlocks vpcCidr) = firstFree vpcCidr existing := by
  rw [searchBlocks_eq_find, firstFree]
  refine List.find?_congr fun net hnet => ?_
  obtain ⟨i, hi, rfl⟩ := List.mem_map.mp hnet
  exact hok i (List.mem_range.mp hi)

/-- The search of a loop that does not overflow. -/
def Walk.of : Option Ipv4Net → Walk
  | some net => .found net
  | none => .exhausted

theorem walk_firstFree (hlen : vpcCidr.prefixLen.val ≤ 24) (hend : vpcCidr.broadcast.val ≠ 2 ^ 32 - 1)
    (hok : ∀ i < numBlocks vpcCidr, ok (block vpcCidr i) = isFree existing (block vpcCidr i)) :
    walk ok vpcCidr.broadcast.val vpcCidr.network.val = .of (firstFree vpcCidr existing) := by
  rw [walk_eq ok (broadcast_eq hlen) vpcCidr.broadcast.isLt, firstFree_congr hok]
  simp only [hend, false_and, if_false]
  cases firstFree vpcCidr existing <;> rfl

/-- **The search of the store** finds the first free block, unless the VPC ends at the last address. -/
theorem search_eq (hmin : 8 ≤ vpcCidr.prefixLen.val) (hlen : vpcCidr.prefixLen.val ≤ 24)
    (hend : vpcCidr.prefixLen.val = 8 ∨ vpcCidr.broadcast.val ≠ 2 ^ 32 - 1) :
    search vpcCidr existing = .of (firstFree vpcCidr existing) := by
  have hinside : ∀ i < numBlocks vpcCidr, vpcCidr.Encloses (block vpcCidr i) := fun i hi => (block_spec hlen hi).1
  unfold search
  dsimp only
  by_cases height : vpcCidr.prefixLen.val = 8
  · obtain ⟨hsecond, hfirst, -⟩ := start_of_mask_eight height
    have hcount : (256 - (vpcCidr.network.octet 1).val) * 256 = numBlocks vpcCidr := by
      rw [hsecond, numBlocks, height]
      norm_num
    rw [if_pos height, hcount, hsecond, hfirst, Nat.zero_mul, Nat.add_zero, firstFree_congr fun _ _ => rfl]
    cases firstFree vpcCidr existing <;> rfl
  · have hlast := hend.resolve_left height
    rw [if_neg height]
    split
    · refine walk_firstFree hlen hlast fun i hi => ?_
      rw [(hinside i hi).network, (hinside i hi).broadcast, Bool.true_and, Bool.true_and]
    · rw [if_pos (by omega)]
      refine walk_firstFree hlen hlast fun i hi => ?_
      have hcontains := (hinside i hi).broadcast
      rw [Ipv4Net.contains, Bool.and_eq_true] at hcontains
      rw [hcontains.2, Bool.true_and]

theorem vpcAutoAllocateSubnetCidr_eq (hlen : vpcCidr.prefixLen.val ≤ 24) :
    vpcAutoAllocateSubnetCidr vpcCidr existing =
      match firstFree vpcCidr existing with
      | some net => .ok net
      | none => .error .cidrExhausted := by
  have hblocks : (List.range (1 <<< (24 - vpcCidr.prefixLen.val))).map (fun i =>
      (⟨Fin.ofNat _ (vpcCidr.network.val + i <<< 8), 24⟩ : Ipv4Net)) =
      (List.range (numBlocks vpcCidr)).map (block vpcCidr) := by
    rw [Nat.one_shiftLeft]
    refine List.map_congr_left fun i _ => ?_
    rw [block, Nat.shiftLeft_eq, Nat.mul_comm i]
  rw [vpcAutoAllocateSubnetCidr, if_neg (by omega)]
  dsimp only
  have hfind : ((List.range (numBlocks vpcCidr)).map (block vpcCidr)).find? (fun candidate =>
      vpcCidr.contains candidate.network && isFree existing candidate) = firstFree vpcCidr existing := by
    refine List.find?_congr fun net hnet => ?_
    obtain ⟨i, hi, rfl⟩ := List.mem_map.mp hnet
    rw [(block_spec hlen (List.mem_range.mp hi)).1.network, Bool.true_and]
  cases hfirst : firstFree vpcCidr existing with
  | none => rw [hblocks, hfind, hfirst]
  | some net => rw [hblocks, hfind, hfirst]

theorem lowestFree_of_firstFree (hlen : vpcCidr.prefixLen.val ≤ 24) {net : Ipv4Net}
    (h : firstFree vpcCidr existing = some net) : LowestFree vpcCidr existing net := by
  rw [firstFree, List.find?_eq_some_iff_getElem] at h
  obtain ⟨hfree, i, hi, hnet, hbefore⟩ := h
  rw [List.length_map, List.length_range] at hi
  rw [List.getElem_map, List.getElem_range] at hnet
  subst hnet
  obtain ⟨hinside, hnetwork, hblock⟩ := block_spec hlen hi
  refine ⟨hblock, hinside, hfree, fun other hother hin hother' => ?_⟩
  obtain ⟨j, hj, rfl⟩ := exists_block hlen hother hin
  rw [Fin.le_def, hnetwork, (block_spec hlen hj).2.1]
  by_contra hlt
  have htaken := hbefore j (by omega)
  rw [List.getElem_map, List.getElem_range, hother'] at htaken
  cases htaken

theorem not_free_of_firstFree (hlen : vpcCidr.prefixLen.val ≤ 24) (h : firstFree vpcCidr existing = none)
    {net : Ipv4Net} (hnet : IsBlock net) (hinside : vpcCidr.Encloses net) : isFree existing net = false := by
  obtain ⟨i, hi, rfl⟩ := exists_block hlen hnet hinside
  simpa using List.find?_eq_none.mp h _ (List.mem_map_of_mem (List.mem_range.mpr hi))

end SubnetAllocator

end Syfrah
