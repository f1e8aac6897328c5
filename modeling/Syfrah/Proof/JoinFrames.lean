import Syfrah.Fabric.Frames

/-!
# Join responses on the wire

A response has all stored peers of the acceptor and its own record. The joiner takes messages and lists of
peers up to fixed sizes, whatever number of peers is configured as the maximum.
-/

namespace Syfrah

namespace Mesh

open Frame (Bytes)

section

variable {Key Digest : Type} {encode : PeeringMessage Key Digest → Bytes}
  {decode : Bytes → Except String (PeeringMessage Key Digest)} {msg : PeeringMessage Key Digest}
  {response response' : JoinResponse}

/-- The reader gets a message from its text, and not from a beginning of the text. -/
def ReadsBack (encode : PeeringMessage Key Digest → Bytes) (decode : Bytes → Except String (PeeringMessage Key Digest))
    (msg : PeeringMessage Key Digest) : Prop :=
  ∀ data, data <+: encode msg → (decode data = .ok msg ↔ data = encode msg)

theorem readMessage_writeMessage_iff (h : ReadsBack encode decode msg) :
    readMessage decode (writeMessage encode msg) = .ok msg ↔ (encode msg).length ≤ maxMsgSize := by
  rw [readMessage, writeMessage, Frame.read_write]
  have hmax : maxMsgSize < 2 ^ 32 := by decide
  by_cases hlarge : maxMsgSize < (encode msg).length % 2 ^ 32
  · have hle := Nat.mod_le (encode msg).length (2 ^ 32)
    simp only [if_pos hlarge, reduceCtorEq, false_iff]
    omega
  · rw [if_neg hlarge]
    have hread := h ((encode msg).take ((encode msg).length % 2 ^ 32)) (List.take_prefix _ _)
    have hwhole : (encode msg).take ((encode msg).length % 2 ^ 32) = encode msg ↔
        (encode msg).length ≤ maxMsgSize := by
      rw [List.take_eq_self_iff]
      omega
    rw [← hwhole, ← hread]
    cases hdecode : decode ((encode msg).take ((encode msg).length % 2 ^ 32)) with
    | error e => simp only [hdecode, reduceCtorEq]
    | ok msg' => simp only [hdecode, Except.ok.injEq]

theorem validateJoinResponse_eq_ok_iff :
    validateJoinResponse response = .ok () ↔ response.peers.length ≤ maxPeersInResponse := by
  rw [validateJoinResponse]
  by_cases hmany : maxPeersInResponse < response.peers.length
  · simp [hmany]
  · simp [hmany, Nat.le_of_not_lt hmany]

theorem receiveJoinResponse_eq_ok_iff {stream : Bytes} :
    receiveJoinResponse decode stream = .ok response ↔
      readMessage decode stream = .ok (.joinResponse response) ∧ response.peers.length ≤ maxPeersInResponse := by
  rw [receiveJoinResponse, ← validateJoinResponse_eq_ok_iff]
  cases hread : readMessage decode stream with
  | error e => simp
  | ok msg =>
      cases msg with
      | joinResponse response' =>
          cases hvalid : validateJoinResponse response' with
          | error e =>
              simp only [hvalid, reduceCtorEq, Except.ok.injEq, PeeringMessage.joinResponse.injEq, false_iff, not_and]
              rintro rfl
              simp [hvalid]
          | ok u =>
              simp only [hvalid, Except.ok.injEq, PeeringMessage.joinResponse.injEq]
              refine ⟨?_, fun h => h.1⟩
              rintro rfl
              exact ⟨rfl, hvalid⟩
      | joinRequest request => simp
      | peerAnnounce ciphertext => simp
      | secretRotation ciphertext => simp

variable {sha256 : List ℕ → Vector UInt8 32} {a : Acceptor} {req : JoinRequest Key Digest} {receivedAt now : ℕ}
  {path : ApprovalPath} {record : PeerRecord}

theorem peers_of_accept (h : a.accept sha256 req receivedAt now path = some (response, record)) :
    response.peers = a.state.peers ++ [a.myRecord] := by
  cases path with
  | pin =>
      simp only [Acceptor.accept, buildAutoAcceptResponse] at h
      cases hkey : Wg.keyFromBase64 req.wgPublicKey with
      | none =>
          simp only [hkey, Except.toOption, reduceCtorEq] at h
      | some key =>
          simp only [hkey, Except.toOption, Option.some.injEq, Prod.mk.injEq] at h
          rw [← h.1]
  | manual =>
      simp only [Acceptor.accept] at h
      obtain ⟨r, -, heq⟩ := Option.map_eq_some_iff.mp h
      rw [← (Prod.mk.inj heq).1]
      rfl

end

/-! ### Meshes of numbered peers -/

def letter (i : ℕ) : Char := Char.ofNat (65 + i % 25)

def numberedKey (i : ℕ) : String :=
  String.singleton (letter (i / 25)) ++ String.singleton (letter i) ++ "AAAAAAAAAAAAAAAAAAAAAAAAAAAAAAAAAAAAAAAAA="

theorem letter_spec (i : ℕ) : Base64.value (letter i) = some (i % 25) ∧ (letter i).utf8Size = 1 := by
  have hall : ∀ n : Fin 25, Base64.value (Char.ofNat (65 + n)) = some n.val ∧ (Char.ofNat (65 + n)).utf8Size = 1 := by
    decide +kernel
  exact hall ⟨i % 25, Nat.mod_lt i (by decide)⟩

theorem validateWgPublicKey_numberedKey (i : ℕ) : validateWgPublicKey (numberedKey i) = .ok () := by
  have hsize : (numberedKey i).utf8ByteSize = wgKeyBase64Length := by
    rw [numberedKey, String.utf8ByteSize_append, String.utf8ByteSize_append, String.utf8ByteSize_singleton,
      String.utf8ByteSize_singleton, (letter_spec _).2, (letter_spec _).2]
    decide
  have hlist : (numberedKey i).toList =
      letter (i / 25) :: letter i :: 'A' :: 'A' :: "AAAAAAAAAAAAAAAAAAAAAAAAAAAAAAAAAAAAAAA=".toList := by
    rw [numberedKey, String.toList_append, String.toList_append, String.toList_singleton, String.toList_singleton]
    rfl
  have htail : Base64.decodeGroups "AAAAAAAAAAAAAAAAAAAAAAAAAAAAAAAAAAAAAAA=".toList = some (List.replicate 29 0) := by
    decide +kernel
  have hdecode : Base64.decode (numberedKey i) =
      some (Base64.bytes (i / 25 % 25) (i % 25) 0 0 ++ List.replicate 29 0) := by
    have hA : Base64.value 'A' = some 0 := by decide
    rw [Base64.decode, hlist]
    generalize "AAAAAAAAAAAAAAAAAAAAAAAAAAAAAAAAAAAAAAA=".toList = tail at htail
    simp [Base64.decodeGroups, (letter_spec _).1, hA, htail]
  rw [validateWgPublicKey, if_neg (not_not.mpr hsize), hdecode]
  rfl

def numberedPeer (i : ℕ) : PeerRecord where
  name := "node"
  wgPublicKey := numberedKey i
  endpoint := ⟨"192.0.2.2", 51820, host_two⟩
  meshIpv6 := Vector.replicate 8 0
  lastSeen := 0
  status := .active
  region := none
  zone := none

theorem validatePeerRecord_numberedPeer (i : ℕ) : validatePeerRecord (numberedPeer i) = .ok () := by
  have hname : validateName "name" "node" = .ok () := by decide +kernel
  have hendpoint : validateEndpoint ⟨"192.0.2.2", 51820, host_two⟩ = .ok () := by decide +kernel
  have hkey : validateWgPublicKey (numberedPeer i).wgPublicKey = .ok () := validateWgPublicKey_numberedKey i
  simp only [validatePeerRecord, hkey]
  simp only [numberedPeer, hname, hendpoint]
  rfl

theorem numberedKey_injective {i j : ℕ} (hi : i < 625) (hj : j < 625) (h : numberedKey i = numberedKey j) : i = j := by
  have hlist := congrArg String.toList h
  simp only [numberedKey, String.toList_append, String.toList_singleton, List.cons_append, List.nil_append,
    List.cons.injEq, and_true] at hlist
  have hvalue : ∀ m n, letter m = letter n → m % 25 = n % 25 := by
    intro m n heq
    have := (letter_spec m).1
    rw [heq, (letter_spec n).1] at this
    exact (Option.some.inj this).symm
  have hhigh := hvalue _ _ hlist.1
  have hlow := hvalue _ _ hlist.2
  omega

/-- A node with some stored peers, of 1000 that it may have. -/
def meshOf (n : ℕ) : Acceptor where
  state := ⟨"mesh", "syf_sk_1", Vector.replicate 8 0, (List.range n).map numberedPeer⟩
  myRecord := numberedPeer 500
  pin := "4829"
  maxPeers := 1000

def bobRequest : JoinRequest Unit Unit :=
  ⟨"r1", "bob", numberedKey 501, ⟨"192.0.2.3", 51820, by decide⟩, 51820, some "4829", none, none, 0, .empty⟩

def zeroHash : List ℕ → Vector UInt8 32 := fun _ => Vector.replicate 32 0

theorem exists_accept_meshOf (n : ℕ) :
    ∃ response record, (meshOf n).accept zeroHash bobRequest 0 0 .manual = some (response, record) := by
  have hkey : (Wg.keyFromBase64 (bobRequest.info 0).wgPublicKey).isSome = true := by decide +kernel
  obtain ⟨key, hkey⟩ := Option.isSome_iff_exists.mp hkey
  simp only [Acceptor.accept, manualRecord, hkey]
  exact ⟨_, _, rfl⟩

/-- A writer with a text of one byte, and its reader. -/
def oneByte : PeeringMessage Unit Unit → Bytes := fun _ => [0]

def readOneByte (response : JoinResponse) (data : Bytes) : Except String (PeeringMessage Unit Unit) :=
  if data = [0] then .ok (.joinResponse response) else .error "no message"

theorem readsBack_oneByte (response : JoinResponse) :
    ReadsBack oneByte (readOneByte response) (.joinResponse response) := by
  intro data _
  by_cases hdata : data = [0] <;> simp [readOneByte, oneByte, hdata]

theorem peers_meshOf (n : ℕ) : (meshOf n).state.peers = (List.range n).map numberedPeer := rfl

end Mesh

end Syfrah
