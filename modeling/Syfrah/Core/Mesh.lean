import Syfrah.Core.Addressing
import Syfrah.Lib.Base64
import Syfrah.Lib.Text

/-!
# Messages of the mesh

Peer records, join requests, the checks that a receiver makes of their fields, and the signature that a
joiner adds. The signature scheme is symbolic: a signature is made with a key over a digest and verifies under that
key and for that digest only. The hash is a parameter.
-/

namespace Syfrah

namespace Mesh

inductive MeshError
  | validation (message : String)
  | signature (message : String)
deriving DecidableEq

def MeshError.text : MeshError → String
  | .validation message => s!"validation error: {message}"
  | .signature message => s!"signature error: {message}"

/-! ### Addresses -/

/-- A character of an IP address as it is displayed, in brackets and with a scope if it has one. -/
def isHostChar (c : Char) : Bool := c.isDigit || "abcdef.:[]%".toList.contains c

/-- A socket address, with its host as it is displayed: `192.0.2.1` or `[2001:db8::1]`. -/
structure SocketAddr where
  host : String
  port : ℕ
  host_chars : host.toList.all isHostChar = true
deriving DecidableEq

/-! Hosts of the documentation network. -/

theorem host_one : "192.0.2.1".toList.all isHostChar = true := by decide

theorem host_two : "192.0.2.2".toList.all isHostChar = true := by decide

theorem host_seven : "192.0.2.7".toList.all isHostChar = true := by decide

theorem host_nine : "192.0.2.9".toList.all isHostChar = true := by decide

namespace SocketAddr

def text (a : SocketAddr) : String := a.host ++ ":" ++ toString a.port

def ip (a : SocketAddr) : String :=
  String.ofList ((a.host.toList.takeWhile (· != '%')).filter fun c => c != '[' && c != ']')

def isUnspecified (a : SocketAddr) : Bool := a.ip == "0.0.0.0" || a.ip == "::"

def isLoopback (a : SocketAddr) : Bool := Text.startsWith a.ip "127." || a.ip == "::1"

/-- The same address without its scope and with another port. -/
def withPort (a : SocketAddr) (port : ℕ) : SocketAddr where
  host := String.ofList (a.host.toList.takeWhile (· != '%') ++
    if a.host.toList.contains '%' then [']'] else [])
  port := port
  host_chars := by
    have hhost := List.all_eq_true.mp a.host_chars
    have hbracket : isHostChar ']' = true := by decide
    simp only [String.toList_ofList, List.all_append, Bool.and_eq_true, List.all_eq_true]
    refine ⟨fun c hc => hhost c (List.takeWhile_subset _ hc), fun c hc => ?_⟩
    split at hc
    · exact List.mem_singleton.mp hc ▸ hbracket
    · cases hc

end SocketAddr

/-! ### Checks of fields -/

def maxNameLength : ℕ := 255

def maxShortFieldLength : ℕ := 32

def wgKeyBase64Length : ℕ := 44

def isNameChar (c : Char) : Bool := c.isAlphanum || "-_.".toList.contains c

/-- The check of a text field: its length in bytes and its characters. -/
def validateText (maxLength : ℕ) (fieldName value : String) : Except MeshError Unit :=
  if value.isEmpty then .error (.validation s!"{fieldName} must not be empty")
  else if maxLength < value.utf8ByteSize then
    .error (.validation s!"{fieldName} must be at most {maxLength} chars, got {value.utf8ByteSize}")
  else if !value.toList.all isNameChar then
    .error (.validation (s!"{fieldName} contains invalid characters " ++
      "(allowed: alphanumeric, dash, underscore, dot)"))
  else .ok ()

def validateName (fieldName value : String) : Except MeshError Unit := do
  validateText maxNameLength fieldName value
  if Text.contains value ".." then
    .error (.validation s!"{fieldName} must not contain '..' (path traversal)")

def validateShortField (fieldName value : String) : Except MeshError Unit :=
  validateText maxShortFieldLength fieldName value

def validateWgPublicKey (key : String) : Except MeshError Unit :=
  if key.utf8ByteSize ≠ wgKeyBase64Length then
    .error (.validation
      s!"WireGuard public key must be {wgKeyBase64Length} chars base64, got {key.utf8ByteSize}")
  else match Base64.decode key with
    | none => .error (.validation "WireGuard public key is not valid base64")
    | some decoded =>
      if decoded.length ≠ 32 then
        .error (.validation s!"WireGuard public key must decode to 32 bytes, got {decoded.length}")
      else .ok ()

def validateOption (check : String → Except MeshError Unit) : Option String → Except MeshError Unit
  | none => .ok ()
  | some value => check value

/-! ### Peer records -/

inductive PeerStatus
  | active
  | unreachable
  | removed
deriving DecidableEq

structure PeerRecord where
  name : String
  wgPublicKey : String
  endpoint : SocketAddr
  meshIpv6 : Ipv6Addr
  lastSeen : ℕ
  status : PeerStatus
  region : Option String
  zone : Option String
deriving DecidableEq

def validateEndpoint (addr : SocketAddr) : Except MeshError Unit :=
  if addr.isLoopback then .error (.validation "endpoint cannot be loopback")
  else if addr.isUnspecified then
    .error (.validation "endpoint cannot be unspecified (0.0.0.0 / ::)")
  else if addr.port = 0 then .error (.validation "endpoint port cannot be 0")
  else .ok ()

def validatePeerRecord (record : PeerRecord) : Except MeshError Unit := do
  validateName "name" record.name
  validateWgPublicKey record.wgPublicKey
  validateEndpoint record.endpoint
  validateOption (validateName "region") record.region
  validateOption (validateName "zone") record.zone

/-! ### Join requests -/

/-- A signature over a digest, or bytes that are none. -/
inductive EdSignature (Key Digest : Type)
  | signed (key : Key) (digest : Digest)
  | junk (n : ℕ)
deriving DecidableEq

/-- The signature field of a request: what its text decodes to. -/
inductive SignatureBlob (Key Digest : Type)
  | empty
  | notBase64
  | wrongLength
  | invalidKey
  | blob (verifyingKey : Key) (signature : EdSignature Key Digest)
deriving DecidableEq

structure JoinRequest (Key Digest : Type) where
  requestId : String
  nodeName : String
  wgPublicKey : String
  endpoint : SocketAddr
  wgListenPort : ℕ
  pin : Option String
  region : Option String
  zone : Option String
  timestamp : UInt64
  signature : SignatureBlob Key Digest
deriving DecidableEq

section JoinRequest

variable {Key Digest : Type} (sha : List UInt8 → Digest)

def validateJoinRequest (req : JoinRequest Key Digest) : Except MeshError Unit := do
  validateShortField "request_id" req.requestId
  validateName "node_name" req.nodeName
  validateWgPublicKey req.wgPublicKey
  if req.endpoint.port = 0 then .error (.validation "endpoint port cannot be 0")
  validateOption (validateShortField "pin") req.pin
  validateOption (validateName "region") req.region
  validateOption (validateName "zone") req.zone

/-- The eight bytes of a number, the highest first. -/
def toBeBytes (n : UInt64) : List UInt8 :=
  (List.range 8).map fun i => UInt8.ofNat (n.toNat / 256 ^ (7 - i))

def textBytes (s : String) : List UInt8 := s.toByteArray.data.toList

def joinRequestBytes (req : JoinRequest Key Digest) : List UInt8 :=
  textBytes req.nodeName ++ textBytes req.wgPublicKey ++ textBytes req.endpoint.text ++
    toBeBytes req.timestamp

def joinRequestSignPayload (req : JoinRequest Key Digest) : Digest := sha (joinRequestBytes req)

/-- Sign a request with the key that is made from a WireGuard private key. -/
def signJoinRequest (now : UInt64) (signingKey : Key) (req : JoinRequest Key Digest) :
    JoinRequest Key Digest :=
  let stamped := { req with timestamp := now }
  { stamped with
    signature := .blob signingKey (.signed signingKey (joinRequestSignPayload sha stamped)) }

def absDiff (a b : UInt64) : ℕ := (a.toNat - b.toNat) + (b.toNat - a.toNat)

def maxJoinRequestAgeSecs : ℕ := 300

variable [DecidableEq Key] [DecidableEq Digest]

def verifyJoinRequestSignature (now : UInt64) (req : JoinRequest Key Digest) :
    Except MeshError Unit :=
  match req.signature with
  | .empty => .error (.signature
      "JoinRequest signature missing. The node may be running an incompatible version.")
  | .notBase64 => .error (.signature
      "JoinRequest signature is not valid base64. The request was tampered with.")
  | .wrongLength => .error (.signature
      "JoinRequest signature has wrong length. The request was tampered with.")
  | .invalidKey => .error (.signature
      "JoinRequest signature contains an invalid Ed25519 public key.")
  | .blob verifyingKey signature =>
    if signature ≠ .signed verifyingKey (joinRequestSignPayload sha req) then
      .error (.signature ("JoinRequest signature invalid. The node may be running an incompatible " ++
        "version or the request was tampered with."))
    else if maxJoinRequestAgeSecs < absDiff now req.timestamp then
      .error (.signature (s!"JoinRequest timestamp is too old ({absDiff now req.timestamp}s). " ++
        "Possible replay attack."))
    else .ok ()

def validateAndVerifyJoinRequest (now : UInt64) (req : JoinRequest Key Digest) :
    Except MeshError Unit := do
  validateJoinRequest req
  verifyJoinRequestSignature sha now req

end JoinRequest

end Mesh

end Syfrah
