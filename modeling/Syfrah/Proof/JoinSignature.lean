import Std.Data.String.ToNat
import Syfrah.Core.Mesh
import Syfrah.Lib.Except
import Syfrah.Lib.Run

/-!
# What the signature of a join request proves

Honest nodes sign join requests with their own keys. Everybody else sees these requests, has keys of
their own and sends what they like, except for signatures of honest nodes that those never made.
-/

namespace Syfrah

namespace Mesh

/-! ### The signed bytes -/

theorem textBytes_append (s t : String) : textBytes (s ++ t) = textBytes s ++ textBytes t := by
  simp [textBytes, String.toByteArray_append, ByteArray.data_append]

theorem textBytes_inj {s t : String} (h : textBytes s = textBytes t) : s = t :=
  String.toByteArray_inj.mp (ByteArray.ext (Array.toList_inj.mp h))

theorem toBeBytes_inj {m n : UInt64} (h : toBeBytes m = toBeBytes n) : m = n := by
  have hm := m.toNat_lt
  have hn := n.toNat_lt
  have hbyte (i : ℕ) (hi : i < 8) : m.toNat / 256 ^ (7 - i) % 256 = n.toNat / 256 ^ (7 - i) % 256 := by
    have hi' := congrArg (fun bytes => (bytes[i]?).map UInt8.toNat) h
    simpa [toBeBytes, hi] using hi'
  have h0 := hbyte 0 (by decide)
  have h1 := hbyte 1 (by decide)
  have h2 := hbyte 2 (by decide)
  have h3 := hbyte 3 (by decide)
  have h4 := hbyte 4 (by decide)
  have h5 := hbyte 5 (by decide)
  have h6 := hbyte 6 (by decide)
  have h7 := hbyte 7 (by decide)
  norm_num at h0 h1 h2 h3 h4 h5 h6 h7
  exact UInt64.toNat_inj.mp (by omega)

theorem notMem_toString {c : Char} (hc : c.isDigit = false) (n : ℕ) : c ∉ (toString n).toList := by
  intro hmem
  have hdigit := Nat.isDigit_of_mem_toDigits (by decide) (by decide) (Nat.toList_repr (n := n) ▸ hmem)
  exact Bool.false_ne_true (hc.symm.trans hdigit)

theorem SocketAddr.text_inj {a b : SocketAddr} (h : a.text = b.text) : a = b := by
  have hchars : a.host.toList ++ ':' :: (toString a.port).toList =
      b.host.toList ++ ':' :: (toString b.port).toList := by
    simpa [text] using congrArg String.toList h
  obtain ⟨hhost, hport⟩ := Text.append_separator_inj (notMem_toString (by decide) _)
    (notMem_toString (by decide) _) hchars
  obtain ⟨host, port, hchars⟩ := a
  obtain rfl := String.toList_inj.mp hhost
  obtain rfl := Nat.repr_inj.mp (String.toList_inj.mp hport)
  rfl

theorem SocketAddr.pad_notMem_text (a : SocketAddr) : '=' ∉ a.text.toList := by
  have hhost : '=' ∉ a.host.toList := fun hmem =>
    absurd (List.all_eq_true.mp a.host_chars _ hmem) (by decide)
  have hport : '=' ∉ (toString a.port).toList := notMem_toString (by decide) a.port
  simp only [text, String.toList_append, List.mem_append]
  rintro ((hmem | hmem) | hmem)
  · exact hhost hmem
  · exact absurd hmem (by decide)
  · exact hport hmem

theorem exists_body_of_validateWgPublicKey {key : String} (h : validateWgPublicKey key = .ok ()) :
    ∃ body, key.toList = body ++ ['='] ∧ '=' ∉ body := by
  obtain ⟨-, h⟩ := ite_error_eq_ok.mp h
  split at h
  · cases h
  · next decoded hdecoded =>
    obtain ⟨hlength, -⟩ := ite_error_eq_ok.mp h
    obtain ⟨body, k, hkey, hbody, hk, hcount⟩ := (Base64.decodes_of_decodeGroups hdecoded).padding
    obtain rfl : k = 1 := by omega
    exact ⟨body, hkey, hbody⟩

theorem pad_notMem_of_validateName {field name : String} (h : validateName field name = .ok ()) :
    '=' ∉ name.toList := by
  obtain ⟨_, htext, -⟩ := except_bind_eq_ok.mp h
  obtain ⟨-, hlength⟩ := ite_error_eq_ok.mp htext
  obtain ⟨-, hchars⟩ := ite_error_eq_ok.mp hlength
  obtain ⟨hall, -⟩ := ite_error_eq_ok.mp hchars
  simp only [Bool.not_eq_true', Bool.not_eq_false] at hall
  exact fun hmem => absurd (List.all_eq_true.mp hall _ hmem) (by decide)

section Encoding

variable {Key Digest : Type}

/-- **Encoding**: among requests for one key that passes its check, the signed bytes determine the name,
the endpoint and the timestamp, when one of the two names passes its check. The only padding character
in the bytes shows where the key ends. -/
theorem eq_of_joinRequestBytes {r r' : JoinRequest Key Digest}
    (hkey : validateWgPublicKey r.wgPublicKey = .ok ()) (hname : '=' ∉ r.nodeName.toList)
    (hsame : r'.wgPublicKey = r.wgPublicKey) (h : joinRequestBytes r = joinRequestBytes r') :
    r.nodeName = r'.nodeName ∧ r.endpoint = r'.endpoint ∧ r.timestamp = r'.timestamp := by
  unfold joinRequestBytes at h
  obtain ⟨htext, htime⟩ := List.append_inj' h (by simp [toBeBytes])
  rw [← textBytes_append, ← textBytes_append, ← textBytes_append, ← textBytes_append, hsame] at htext
  obtain ⟨body, hbody, hpad⟩ := exists_body_of_validateWgPublicKey hkey
  have hchars : (r.nodeName.toList ++ body) ++ '=' :: r.endpoint.text.toList =
      (r'.nodeName.toList ++ body) ++ '=' :: r'.endpoint.text.toList := by
    simpa [hbody] using congrArg String.toList (textBytes_inj htext)
  obtain ⟨hnames, -, hendpoint⟩ := (List.append_cons_inj_of_notMem
    (by simp [hname, hpad]) r.endpoint.pad_notMem_text).mp hchars
  exact ⟨String.toList_inj.mp (List.append_cancel_right hnames),
    SocketAddr.text_inj (String.toList_inj.mp hendpoint), toBeBytes_inj htime⟩

end Encoding

/-! ### Signed requests and accepted requests -/

/-- The honest nodes by their keys, with the WireGuard public key of every key. -/
structure Nodes (Key : Type) where
  honest : List Key
  wgPublicKey : Key → String

/-- A call of `sign_join_request` by an honest node, with the request that it left. -/
structure Signing (Key Digest : Type) where
  node : Key
  time : UInt64
  request : JoinRequest Key Digest
deriving DecidableEq

/-- A request that `validate_and_verify_join_request` accepted. -/
structure Acceptance (Key Digest : Type) where
  time : UInt64
  request : JoinRequest Key Digest
deriving DecidableEq

structure Traffic (Key Digest : Type) where
  now : UInt64
  signings : List (Signing Key Digest)
  accepted : List (Acceptance Key Digest)
deriving DecidableEq

def Traffic.start {Key Digest : Type} (now : UInt64) : Traffic Key Digest := ⟨now, [], []⟩

inductive JoinAct (Key Digest : Type)
  /-- Time goes on. -/
  | tick (now : UInt64)
  /-- An honest node signs a request for its own key. -/
  | sign (node : Key) (request : JoinRequest Key Digest)
  /-- Anybody sends a request. -/
  | send (request : JoinRequest Key Digest)
deriving DecidableEq

section Traffic

variable {Key Digest : Type} (sha : List UInt8 → Digest) (nodes : Nodes Key)

/-- Whether a signature can be sent: whoever lacks a node's private key has only the signatures that the
node made. -/
def Traffic.available [DecidableEq Key] [DecidableEq Digest] (s : Traffic Key Digest) :
    SignatureBlob Key Digest → Bool
  | .blob _ (.signed key digest) => !nodes.honest.contains key ||
      s.signings.any fun call => call.request.signature == .blob key (.signed key digest)
  | _ => true

def SignatureBlob.verifyingKey : SignatureBlob Key Digest → Option Key
  | .blob verifyingKey _ => some verifyingKey
  | _ => none

def Traffic.step [DecidableEq Key] [DecidableEq Digest] :
    JoinAct Key Digest → Traffic Key Digest → Unit × Traffic Key Digest
  | .tick now, s => ((), if s.now.toNat ≤ now.toNat then { s with now := now } else s)
  | .sign node request, s => ((), if nodes.honest.contains node then
      let own := { request with wgPublicKey := nodes.wgPublicKey node }
      { s with signings := ⟨node, s.now, signJoinRequest sha s.now node own⟩ :: s.signings } else s)
  | .send request, s => ((), if s.available nodes request.signature then
      match validateAndVerifyJoinRequest sha s.now request with
      | .ok () => { s with accepted := ⟨s.now, request⟩ :: s.accepted }
      | .error _ => s
      else s)

/-- The fields of a request that its signature covers, apart from the key. -/
def JoinRequest.SameSigned (r r' : JoinRequest Key Digest) : Prop :=
  r.nodeName = r'.nodeName ∧ r.endpoint = r'.endpoint ∧ r.timestamp = r'.timestamp

def JoinRequest.SameUnsigned (r r' : JoinRequest Key Digest) : Prop :=
  r.wgListenPort = r'.wgListenPort ∧ r.pin = r'.pin ∧ r.region = r'.region ∧ r.zone = r'.zone

instance (r r' : JoinRequest Key Digest) : Decidable (r.SameSigned r') :=
  inferInstanceAs (Decidable (_ ∧ _))

instance (r r' : JoinRequest Key Digest) : Decidable (r.SameUnsigned r') :=
  inferInstanceAs (Decidable (_ ∧ _))

/-- Every accepted request for the key of an honest node was signed by that node in the last 300
seconds. -/
def Traffic.Attested (s : Traffic Key Digest) : Prop :=
  ∀ a ∈ s.accepted, ∀ node ∈ nodes.honest, nodes.wgPublicKey node = a.request.wgPublicKey →
    ∃ call ∈ s.signings, call.node = node ∧ call.time.toNat ≤ a.time.toNat ∧
      a.time.toNat ≤ call.time.toNat + maxJoinRequestAgeSecs ∧
      call.request.nodeName = a.request.nodeName ∧
      call.request.wgPublicKey = a.request.wgPublicKey ∧
      call.request.endpoint = a.request.endpoint ∧ call.request.SameUnsigned a.request

instance [DecidableEq Key] (s : Traffic Key Digest) : Decidable (s.Attested nodes) :=
  inferInstanceAs (Decidable (∀ a ∈ s.accepted, ∀ node ∈ nodes.honest, _ → ∃ call ∈ s.signings, _))

/-- A sent request for the key of an honest node carries that node's verifying key, and the node signed
no other request with its name, endpoint and timestamp. -/
def JoinAct.Plain (s : Traffic Key Digest) : JoinAct Key Digest → Prop
  | .send request => ∀ node ∈ nodes.honest, nodes.wgPublicKey node = request.wgPublicKey →
      request.signature.verifyingKey = some node ∧
      ∀ call ∈ s.signings, call.node = node → call.request.SameSigned request →
        call.request.SameUnsigned request
  | _ => True

instance [DecidableEq Key] (s : Traffic Key Digest) (act : JoinAct Key Digest) :
    Decidable (act.Plain nodes s) :=
  match act with
  | .tick _ => .isTrue trivial
  | .sign _ _ => .isTrue trivial
  | .send _ => inferInstanceAs (Decidable (∀ node ∈ nodes.honest, _ → _ ∧ ∀ call ∈ s.signings, _))

variable {sha nodes}

variable (sha nodes) in
structure Signing.Genuine (call : Signing Key Digest) : Prop where
  wgPublicKey : call.request.wgPublicKey = nodes.wgPublicKey call.node
  timestamp : call.request.timestamp = call.time
  signature : call.request.signature =
    .blob call.node (.signed call.node (joinRequestSignPayload sha call.request))

variable (sha nodes) in
structure Traffic.Faithful (s : Traffic Key Digest) : Prop where
  genuine : ∀ call ∈ s.signings, call.Genuine sha nodes
  past : ∀ call ∈ s.signings, call.time.toNat ≤ s.now.toNat
  attested : s.Attested nodes

theorem Traffic.faithful_start (now : UInt64) :
    (Traffic.start now : Traffic Key Digest).Faithful sha nodes :=
  ⟨nofun, nofun, nofun⟩

theorem Traffic.Attested.of_subset {s s' : Traffic Key Digest} (h : s.Attested nodes)
    (haccepted : s'.accepted = s.accepted) (hsignings : s.signings ⊆ s'.signings) :
    s'.Attested nodes := by
  intro a ha node hnode hkey
  obtain ⟨call, hcall, hrest⟩ := h a (haccepted ▸ ha) node hnode hkey
  exact ⟨call, hsignings hcall, hrest⟩

section Attribution

variable [DecidableEq Key] [DecidableEq Digest]

theorem of_validateAndVerifyJoinRequest {now : UInt64} {req : JoinRequest Key Digest}
    (h : validateAndVerifyJoinRequest sha now req = .ok ()) :
    validateName "node_name" req.nodeName = .ok () ∧ validateWgPublicKey req.wgPublicKey = .ok () ∧
      (∃ key, req.signature = .blob key (.signed key (joinRequestSignPayload sha req))) ∧
      absDiff now req.timestamp ≤ maxJoinRequestAgeSecs := by
  obtain ⟨_, hvalid, hverify⟩ := except_bind_eq_ok.mp h
  obtain ⟨_, -, hvalid⟩ := except_bind_eq_ok.mp hvalid
  obtain ⟨⟨⟩, hname, hvalid⟩ := except_bind_eq_ok.mp hvalid
  obtain ⟨⟨⟩, hkey, -⟩ := except_bind_eq_ok.mp hvalid
  refine ⟨hname, hkey, ?_⟩
  unfold verifyJoinRequestSignature at hverify
  split at hverify
  case h_5 key signature hsignature =>
    obtain ⟨hsigned, hverify⟩ := ite_error_eq_ok.mp hverify
    obtain ⟨hage, -⟩ := ite_error_eq_ok.mp hverify
    exact ⟨⟨key, by rw [hsignature, not_not.mp hsigned]⟩, not_lt.mp hage⟩
  all_goals cases hverify

/-- **Attribution**: an accepted request with an honest node's verifying key has a name, an endpoint and
a timestamp that the node signed. -/
theorem Traffic.Faithful.exists_signing (hsha : Function.Injective sha) {s : Traffic Key Digest}
    (h : s.Faithful sha nodes) {req : JoinRequest Key Digest} {node : Key}
    (hnode : node ∈ nodes.honest) (hown : nodes.wgPublicKey node = req.wgPublicKey)
    (hverifying : req.signature.verifyingKey = some node)
    (havailable : s.available nodes req.signature = true)
    (haccepted : validateAndVerifyJoinRequest sha s.now req = .ok ()) :
    ∃ call ∈ s.signings, call.node = node ∧ call.request.SameSigned req := by
  obtain ⟨hname, hkey, ⟨key, hsignature⟩, -⟩ := of_validateAndVerifyJoinRequest haccepted
  rw [hsignature] at hverifying havailable
  obtain rfl := Option.some.inj hverifying
  simp only [available, List.contains_eq_mem, hnode, decide_true, Bool.not_true, Bool.false_or,
    List.any_eq_true, beq_iff_eq] at havailable
  obtain ⟨call, hcall, hmade⟩ := havailable
  have hgenuine := h.genuine call hcall
  rw [hgenuine.signature] at hmade
  obtain ⟨hcallNode, hdigest⟩ : call.node = key ∧
      joinRequestSignPayload sha call.request = joinRequestSignPayload sha req := by
    simpa using hmade
  have hsame : call.request.wgPublicKey = req.wgPublicKey := by
    rw [hgenuine.wgPublicKey, hcallNode, hown]
  obtain ⟨hnames, hendpoints, htimes⟩ := eq_of_joinRequestBytes hkey
    (pad_notMem_of_validateName hname) hsame (hsha hdigest).symm
  exact ⟨call, hcall, hcallNode, hnames.symm, hendpoints.symm, htimes.symm⟩

theorem Traffic.Faithful.step (hsha : Function.Injective sha) {s : Traffic Key Digest}
    (h : s.Faithful sha nodes) {act : JoinAct Key Digest} (hact : act.Plain nodes s) :
    (Traffic.step sha nodes act s).2.Faithful sha nodes := by
  cases act with
  | tick now =>
      simp only [Traffic.step]
      split
      · next hlater =>
        exact ⟨h.genuine, fun call hcall => (h.past call hcall).trans hlater, h.attested⟩
      · exact h
  | sign node request =>
      simp only [Traffic.step]
      split
      · refine ⟨List.forall_mem_cons.mpr ⟨⟨rfl, rfl, rfl⟩, h.genuine⟩,
          List.forall_mem_cons.mpr ⟨le_rfl, h.past⟩,
          h.attested.of_subset rfl (List.subset_cons_self _ _)⟩
      · exact h
  | send request =>
      simp only [Traffic.step]
      split
      · next havailable =>
        split
        · next hok =>
          refine ⟨h.genuine, h.past, List.forall_mem_cons.mpr ⟨?_, h.attested⟩⟩
          intro node hnode hkey
          obtain ⟨hverifying, hother⟩ := hact node hnode hkey
          obtain ⟨call, hcall, hcallNode, hsigned⟩ :=
            h.exists_signing hsha hnode hkey hverifying havailable hok
          obtain ⟨-, -, -, hage⟩ := of_validateAndVerifyJoinRequest hok
          have hgenuine := h.genuine call hcall
          -- the timestamp of the request is the time of the call
          rw [← hsigned.2.2, hgenuine.timestamp] at hage
          refine ⟨call, hcall, hcallNode, h.past call hcall, ?_, hsigned.1, ?_, hsigned.2.1,
            hother call hcall hcallNode hsigned⟩
          · simp only [absDiff] at hage
            simp only
            omega
          · rw [hgenuine.wgPublicKey, hcallNode, hkey]
        · exact h
      · exact h

/-- **Proof of possession**: in traffic whose requests for honest keys carry the honest verifying key
and a signature that covers a single request, every accepted one was signed by the node in the last 300
seconds. -/
theorem attested_of_plain (hsha : Function.Injective sha) (now : UInt64)
    (acts : List (JoinAct Key Digest))
    (hacts : ∀ e ∈ trace (Traffic.step sha nodes) acts (.start now), e.action.Plain nodes e.before) :
    (reached (Traffic.step sha nodes) acts (.start now)).Attested nodes :=
  (invariant_reached (I := Traffic.Faithful sha nodes) (Traffic.faithful_start now)
    (fun _ _ h hact => h.step hsha hact) hacts).attested

end Attribution

end Traffic

/-- One honest node, with key 1; bytes are their own hash. -/
def oneHonestNode : Nodes ℕ where
  honest := [1]
  wgPublicKey _ := "AAAAAAAAAAAAAAAAAAAAAAAAAAAAAAAAAAAAAAAAAAA="

def nodeRequest : JoinRequest ℕ (List UInt8) where
  requestId := "r1"
  nodeName := "node-1"
  wgPublicKey := "AAAAAAAAAAAAAAAAAAAAAAAAAAAAAAAAAAAAAAAAAAA="
  endpoint := ⟨"192.0.2.1", 51820, host_one⟩
  wgListenPort := 51820
  pin := some "1234"
  region := some "eu"
  zone := none
  timestamp := 0
  signature := .empty

/-- The node signs its request at 100 and it is received at 400. -/
def signedJoin : List (JoinAct ℕ (List UInt8)) :=
  [.tick 100, .sign 1 nodeRequest, .tick 400, .send (signJoinRequest id 100 1 nodeRequest)]

theorem attested_signedJoin :
    (reached (Traffic.step id oneHonestNode) signedJoin (.start 0)).accepted.length = 1 ∧
      (reached (Traffic.step id oneHonestNode) signedJoin (.start 0)).Attested oneHonestNode :=
  ⟨by decide +kernel, attested_of_plain Function.injective_id 0 signedJoin (by decide +kernel)⟩

/-- A request for the key of the honest node, signed with key 2, is accepted although the node signed
nothing. -/
theorem foreign_signature_accepted :
    ¬(reached (Traffic.step id oneHonestNode) [.send (signJoinRequest id 0 2 nodeRequest)]
      (.start 0)).Attested oneHonestNode := by
  decide +kernel

end Mesh

end Syfrah
