import Std.Data.String.ToNat
import Syfrah.Fabric.Join

/-!
# What both sides of a join make of the new node

For a join with a PIN the acceptor generates a missing zone from the peers that it sends, its own record
among them, and so does the joiner. For a join that the operator accepts it leaves its own record out.
-/

namespace Syfrah

namespace Mesh

def zoneIndex (region : String) (peer : PeerRecord) : Option ℕ := do
  let zone ← peer.zone
  let suffix ← Text.stripStart zone "zone-" <|> Text.stripStart zone s!"{region}-zone-"
  Text.parseUnsigned (2 ^ 32) suffix

/-- The label of a node makes no difference for the next one among some peers: it is not above those of
the peers, or, when none of them has a label, it is the number of the peers. -/
def LabelFits (region : String) (peers : List PeerRecord) (own : PeerRecord) : Prop :=
  match (peers.filterMap (zoneIndex region)).max? with
  | some highest => ∀ i, zoneIndex region own = some i → i ≤ highest
  | none => zoneIndex region own = some (peers.length % 2 ^ 32)

theorem generateZone_eq (region : String) (peers : List PeerRecord) :
    generateZone region peers = "zone-" ++ toString (match (peers.filterMap (zoneIndex region)).max? with
      | some highest => (highest + 1) % 2 ^ 32
      | none => (peers.length + 1) % 2 ^ 32) := rfl

theorem zoneIndex_lt {region : String} {peer : PeerRecord} {i : ℕ} (h : zoneIndex region peer = some i) :
    i < 2 ^ 32 := by
  obtain ⟨zone, -, h⟩ := Option.bind_eq_some_iff.mp h
  obtain ⟨suffix, -, h⟩ := Option.bind_eq_some_iff.mp h
  exact Text.lt_of_parseUnsigned h

theorem max?_append_singleton (l : List ℕ) (n : ℕ) :
    (l ++ [n]).max? = some (match l.max? with | some m => max m n | none => n) := by
  cases hmax : l.max? with
  | none =>
      obtain rfl := List.max?_eq_none_iff.mp hmax
      rfl
  | some m =>
      rw [List.max?_eq_some_iff] at hmax ⊢
      obtain ⟨hmem, hle⟩ := hmax
      constructor
      · rcases max_choice m n with heq | heq <;> simp [heq, hmem]
      · intro b hb
        rcases List.mem_append.mp hb with hb | hb
        · exact (hle b hb).trans (le_max_left m n)
        · exact (List.mem_singleton.mp hb).le.trans (le_max_right m n)

/-- **Leaving out a record.** -/
theorem generateZone_append_iff (region : String) (peers : List PeerRecord) (own : PeerRecord) :
    generateZone region peers = generateZone region (peers ++ [own]) ↔ LabelFits region peers own := by
  have hzone : ∀ m n : ℕ, "zone-" ++ toString m = "zone-" ++ toString n ↔ m = n := by
    intro m n
    simp [Nat.repr_inj]
  rw [generateZone_eq, generateZone_eq, hzone, LabelFits, List.filterMap_append, List.length_append,
    List.length_singleton]
  cases hown : zoneIndex region own with
  | none =>
      rw [List.filterMap_cons_none hown, List.filterMap_nil, List.append_nil]
      cases (peers.filterMap (zoneIndex region)).max? with
      | none =>
          simp only [reduceCtorEq, iff_false]
          omega
      | some highest => simp
  | some i =>
      have hi := zoneIndex_lt hown
      rw [List.filterMap_cons_some hown, List.filterMap_nil, max?_append_singleton]
      cases hmax : (peers.filterMap (zoneIndex region)).max? with
      | none =>
          simp only [Option.some.injEq]
          omega
      | some highest =>
          have hhighest : highest < 2 ^ 32 := by
            obtain ⟨peer, -, hpeer⟩ := List.mem_filterMap.mp (List.max?_eq_some_iff.mp hmax).1
            exact zoneIndex_lt hpeer
          simp only [Option.some.injEq, forall_eq']
          omega

/-- The state that the joiner saves has what is in the record of the acceptor. -/
structure SameNode (state : JoinedState) (record : PeerRecord) : Prop where
  region : state.region = record.region
  zone : state.zone = record.zone
  meshIpv6 : state.meshIpv6 = record.meshIpv6

section

variable {Key Digest : Type} {sha256 : List ℕ → Vector UInt8 32} {parseSecret : String → Except String Unit}
  {j : Joiner} {a : Acceptor} {req : JoinRequest Key Digest} {receivedAt now : ℕ} {response : JoinResponse}
  {record : PeerRecord} {state : JoinedState}

theorem finalizeJoin_eq_ok {meshPrefix : Ipv6Addr} (hinitial : response.meshPrefix = some meshPrefix)
    (h : finalizeJoin sha256 parseSecret j response = .ok state) :
    state.region = some (j.region.getD defaultRegion) ∧
      state.zone = some (j.zone.getD (generateZone (j.region.getD defaultRegion) response.peers)) ∧
      state.meshIpv6 = deriveNodeAddress sha256 meshPrefix j.key := by
  unfold finalizeJoin at h
  cases hsecret : response.meshSecret with
  | none =>
      simp only [hsecret] at h
      cases h
  | some meshSecret =>
      simp only [hsecret] at h
      cases hparse : parseSecret meshSecret with
      | error e =>
          simp only [hparse] at h
          cases h
      | ok u =>
          simp only [hparse, hinitial] at h
          obtain rfl := Except.ok.inj h
          exact ⟨rfl, rfl, rfl⟩

/-- **Both sides agree on the region, the zone and the address** of a new node just in case the join was
accepted for its PIN, or the zone was given, or the label of the acceptor makes no difference. -/
theorem sameNode_iff (sha256 : List ℕ → Vector UInt8 32) (parseSecret : String → Except String Unit) (j : Joiner)
    (a : Acceptor) (req : JoinRequest Key Digest) (receivedAt now : ℕ) (path : ApprovalPath)
    (haccept : a.accept sha256 (j.request req) receivedAt now path = some (response, record))
    (hjoin : finalizeJoin sha256 parseSecret j response = .ok state) :
    SameNode state record ↔ path = .pin ∨ j.zone.isSome = true ∨
      LabelFits (j.region.getD defaultRegion) a.state.peers a.myRecord := by
  cases path with
  | pin =>
      simp only [Acceptor.accept, buildAutoAcceptResponse, Joiner.request, j.isKey, Except.toOption,
        Option.some.injEq, Prod.mk.injEq] at haccept
      obtain ⟨rfl, rfl⟩ := haccept
      obtain ⟨hregion, hzone, haddress⟩ := finalizeJoin_eq_ok rfl hjoin
      exact ⟨fun _ => .inl rfl, fun _ => ⟨hregion, hzone, haddress⟩⟩
  | manual =>
      simp only [Acceptor.accept, manualRecord, JoinRequest.info, Joiner.request, j.isKey, Option.map_some,
        Option.some.injEq, Prod.mk.injEq] at haccept
      obtain ⟨rfl, hrecord⟩ := haccept
      obtain ⟨hregion, hzone, haddress⟩ := finalizeJoin_eq_ok rfl hjoin
      have hzone' : record.zone = some (j.zone.getD (generateZone (j.region.getD defaultRegion) a.state.peers)) := by
        rw [← hrecord]
        rfl
      -- only the zones can differ
      have hsame : SameNode state record ↔ state.zone = record.zone := by
        refine ⟨fun h => h.zone, fun h => ⟨?_, h, ?_⟩⟩
        · rw [hregion, ← hrecord]
          rfl
        · rw [haddress, ← hrecord]
      rw [hsame, hzone, hzone']
      cases hgiven : j.zone with
      | some zone => simp
      | none =>
          simp only [Option.getD_none, Option.some.injEq, Option.isSome_none, reduceCtorEq, false_or,
            Bool.false_eq_true]
          rw [eq_comm]
          exact generateZone_append_iff _ _ _

end

def joining : Joiner where
  nodeName := "bob"
  region := none
  zone := none
  wgPublicKey := "AQAAAAAAAAAAAAAAAAAAAAAAAAAAAAAAAAAAAAAAAAA="
  key := 1 :: List.replicate 31 0
  isKey := by decide +kernel

def firstNode : Acceptor where
  state := ⟨"mesh", "syf_sk_1", Vector.replicate 8 0, []⟩
  myRecord := ⟨"alice", "AAAAAAAAAAAAAAAAAAAAAAAAAAAAAAAAAAAAAAAAAAA=", ⟨"192.0.2.1", 51820, host_one⟩,
    Vector.replicate 8 0, 0, .active, some "default", some "zone-1"⟩
  pin := "4829"
  maxPeers := 1000

def joinRequest : JoinRequest Unit Unit :=
  ⟨"r1", "", "", ⟨"192.0.2.2", 51820, host_two⟩, 51820, none, none, none, 0, .empty⟩

def noHash : List ℕ → Vector UInt8 32 := fun _ => Vector.replicate 32 0

theorem sameNode_firstNode :
    ∃ response record state,
      firstNode.accept noHash (joining.request joinRequest) 0 0 .pin = some (response, record) ∧
        finalizeJoin noHash (fun _ => .ok ()) joining response = .ok state ∧
        (SameNode state record ↔ ApprovalPath.pin = .pin ∨ joining.zone.isSome = true ∨
          LabelFits (joining.region.getD defaultRegion) firstNode.state.peers firstNode.myRecord) :=
  ⟨_, _, _, rfl, rfl, sameNode_iff noHash (fun _ => .ok ()) joining firstNode joinRequest 0 0 .pin rfl rfl⟩

theorem different_zones_firstNode :
    ∃ response record state,
      firstNode.accept noHash (joining.request joinRequest) 0 0 .manual = some (response, record) ∧
        finalizeJoin noHash (fun _ => .ok ()) joining response = .ok state ∧
        record.zone = some "zone-1" ∧ state.zone = some "zone-2" :=
  ⟨_, _, _, rfl, rfl, by decide +kernel, by decide +kernel⟩

end Mesh

end Syfrah
