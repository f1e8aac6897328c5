import Syfrah.Org.Network
import Syfrah.Org.Ipam
import Syfrah.Lib.Ipv4Text

/-!
# The addresses of a subnet

An offset of the bitmap becomes an address by replacing the last octet of the network address, and the
gateway ends in .1. Both are made for networks that start at a multiple of 256. This file says for
which networks and offsets they give a host of the network, and that different addresses have
different hardware addresses and different keys.
-/

namespace Syfrah

/-! ### Addresses -/

theorem val_ipFromOffset (base : Ipv4Addr) {offset : ℕ} (h : offset ≤ lastAllocatable) :
    (ipFromOffset base offset).val = base.val / 256 * 256 + offset := by
  simp only [lastAllocatable] at h
  simp only [ipFromOffset, Ipv4Addr.ofOctets, Ipv4Addr.octet, Fin.val_ofNat]
  omega

theorem octet_ipFromOffset (base : Ipv4Addr) {offset : ℕ} (h : offset ≤ lastAllocatable) :
    ((ipFromOffset base offset).octet 3).val = offset := by
  simp only [Ipv4Addr.octet, val_ipFromOffset base h]
  simp only [lastAllocatable] at h
  omega

theorem val_computeGateway (net : Ipv4Net) :
    (OrgStore.computeGateway net).val = net.network.val / 256 * 256 + 1 := by
  simp only [OrgStore.computeGateway, Ipv4Addr.ofOctets, Ipv4Addr.octet]
  omega

theorem cidrsOverlap_comm (m n : Ipv4Net) : cidrsOverlap m n = cidrsOverlap n m := by
  rw [cidrsOverlap, cidrsOverlap, Bool.or_comm]

theorem not_contains_of_not_overlap {m n : Ipv4Net} (h : cidrsOverlap m n = false) {ip : Ipv4Addr}
    (hm : m.contains ip = true) : n.contains ip = false := by
  rw [cidrsOverlap, Bool.or_eq_false_iff] at h
  by_contra hn
  rw [Bool.not_eq_false] at hn
  rcases le_total m.prefixLen n.prefixLen with hle | hle
  · rw [Ipv4Net.contains_network hle hm hn] at h
    exact absurd h.1 (by decide)
  · rw [Ipv4Net.contains_network hle hn hm] at h
    exact absurd h.2 (by decide)

/-! ### Hosts of a network -/

structure HostOffset (net : Ipv4Net) (offset : ℕ) : Prop where
  aligned : net.network.val % 256 = 0
  inside : offset + 1 < net.size

structure HostAddress (net : Ipv4Net) (gateway ip : Ipv4Addr) : Prop where
  inside : net.contains ip = true
  ne_network : ip ≠ net.network
  ne_broadcast : ip ≠ net.broadcast
  ne_gateway : ip ≠ gateway
  gateway_inside : net.contains gateway = true

theorem Ipv4Net.size_dvd_network (net : Ipv4Net) : net.size ∣ net.network.val :=
  Dvd.intro_left _ rfl

theorem Ipv4Net.network_mod (net : Ipv4Net) (h : net.network.val % 256 ≤ 1) :
    net.network.val % 256 = 0 ∨ net.size = 1 := by
  obtain ⟨k, hk⟩ : ∃ k, net.size = 2 ^ k := ⟨_, rfl⟩
  rcases k with _ | k
  · exact Or.inr hk
  · left
    have heven : 2 ∣ net.network.val := by
      refine Dvd.dvd.trans ?_ net.size_dvd_network
      rw [hk, Nat.pow_succ]
      exact Nat.dvd_mul_left 2 _
    omega

/-- **Which allocations are usable.** An offset gives a host of the network just in case the network
starts at a multiple of 256 and reaches beyond the offset. -/
theorem hostAddress_iff {net : Ipv4Net} {offset : ℕ} (hfirst : firstAllocatable ≤ offset)
    (hlast : offset ≤ lastAllocatable) :
    HostAddress net (OrgStore.computeGateway net) (ipFromOffset net.network offset) ↔
      HostOffset net offset := by
  have hip := val_ipFromOffset net.network hlast
  have hgateway := val_computeGateway net
  have hbroadcast : net.broadcast.val = net.network.val + (net.size - 1) := rfl
  have hpos := net.size_pos
  simp only [firstAllocatable] at hfirst
  have hcontains : ∀ ip, net.contains ip = true ↔
      net.network.val ≤ ip.val ∧ ip.val ≤ net.network.val + (net.size - 1) := by
    intro ip
    rw [← hbroadcast, Ipv4Net.contains, Bool.and_eq_true, decide_eq_true_eq, decide_eq_true_eq,
      Fin.le_def, Fin.le_def]
  constructor
  · intro h
    have hinside := (hcontains _).mp h.inside
    have hgatewayInside := (hcontains _).mp h.gateway_inside
    have hne : (ipFromOffset net.network offset).val ≠ net.broadcast.val :=
      fun heq => h.ne_broadcast (Fin.ext heq)
    have haligned := net.network_mod (by omega)
    exact ⟨by omega, by omega⟩
  · rintro ⟨haligned, hinside⟩
    refine ⟨(hcontains _).mpr (by omega), ?_, ?_, ?_, (hcontains _).mpr (by omega)⟩
    · exact fun heq => absurd (congrArg Fin.val heq) (by omega)
    · exact fun heq => absurd (congrArg Fin.val heq) (by omega)
    · exact fun heq => absurd (congrArg Fin.val heq) (by omega)

/-! ### Hardware addresses -/

theorem hexPad_two : ∀ n : Fin 256, (Text.hexPad 2 n.val).toList =
    [Nat.digitChar (n.val / 16), Nat.digitChar (n.val % 16)] := by
  decide +kernel

theorem digitChar_injective : ∀ a b : Fin 16, Nat.digitChar a = Nat.digitChar b → a = b := by
  decide +kernel

theorem octet_eq_of_digits {a b : Fin 256}
    (hhigh : Nat.digitChar (a.val / 16) = Nat.digitChar (b.val / 16))
    (hlow : Nat.digitChar (a.val % 16) = Nat.digitChar (b.val % 16)) : a = b := by
  have hdiv := digitChar_injective ⟨a.val / 16, by omega⟩ ⟨b.val / 16, by omega⟩ hhigh
  have hmod := digitChar_injective ⟨a.val % 16, by omega⟩ ⟨b.val % 16, by omega⟩ hlow
  simp only [Fin.mk.injEq] at hdiv hmod
  omega

def octetDigits (ip : Ipv4Addr) (i : ℕ) : List Char :=
  [Nat.digitChar ((ip.octet i).val / 16), Nat.digitChar ((ip.octet i).val % 16)]

theorem toList_macFromIp (ip : Ipv4Addr) : (macFromIp ip).toList = "02:00:".toList ++
    (octetDigits ip 0 ++ ':' :: (octetDigits ip 1 ++ ':' :: (octetDigits ip 2 ++ ':' ::
      octetDigits ip 3))) := by
  simp [macFromIp, hexPad_two, octetDigits]

theorem octet_eq_of_octetDigits {ip ip' : Ipv4Addr} {i : ℕ}
    (h : octetDigits ip i = octetDigits ip' i) : ip.octet i = ip'.octet i := by
  simp only [octetDigits, List.cons.injEq, and_true] at h
  exact octet_eq_of_digits h.1 h.2

theorem macFromIp_injective : Function.Injective macFromIp := by
  intro ip ip' h
  have hchars := congrArg String.toList h
  rw [toList_macFromIp, toList_macFromIp, List.append_cancel_left_eq] at hchars
  obtain ⟨h0, hchars⟩ := List.append_inj hchars rfl
  obtain ⟨h1, hchars⟩ := List.append_inj (List.cons.inj hchars).2 rfl
  obtain ⟨h2, hchars⟩ := List.append_inj (List.cons.inj hchars).2 rfl
  have h3 := (List.cons.inj hchars).2
  rw [← ip.ofOctets_octet, ← ip'.ofOctets_octet, octet_eq_of_octetDigits h0,
    octet_eq_of_octetDigits h1, octet_eq_of_octetDigits h2, octet_eq_of_octetDigits h3]

/-! ### Keys of allocations -/

theorem toList_allocationKey (subnetId ip : String) :
    (IpamStore.allocationKey subnetId ip).toList = subnetId.toList ++ '/' :: ip.toList := by
  change (subnetId ++ "/" ++ ip).toList = _
  simp

theorem allocationKey_injective {subnetId subnetId' : String} {ip ip' : Ipv4Addr}
    (h : IpamStore.allocationKey subnetId ip.display =
      IpamStore.allocationKey subnetId' ip'.display) :
    subnetId = subnetId' ∧ ip = ip' := by
  have hchars := congrArg String.toList h
  rw [toList_allocationKey, toList_allocationKey] at hchars
  obtain ⟨hid, hip⟩ := Text.append_separator_inj ip.slash_not_mem_display ip'.slash_not_mem_display hchars
  exact ⟨String.ext hid, Ipv4Addr.display_injective (String.ext hip)⟩

end Syfrah
