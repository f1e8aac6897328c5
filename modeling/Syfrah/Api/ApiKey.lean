import Syfrah.Lib.Ipv4
import Syfrah.Lib.Text

/-!
# API keys

Only the hash of a key is stored, with its limits: an allowlist of networks, a time to live, and the
end of the grace period that a rotation puts it into. The hash and the reader of IPv6 addresses are
parameters. Sums of times wrap at 64 bits.
-/

namespace Syfrah

namespace Api

inductive Role
  | owner
  | admin
  | developer
  | viewer
deriving DecidableEq

inductive IpAddr
  | v4 (addr : Ipv4Addr)
  | v6 (addr : Fin (2 ^ 128))
deriving DecidableEq

structure ApiKey where
  name : String
  project : String
  role : Role
  hash : String
  allowedCidrs : List String
  ttl : ℕ
  createdAt : ℕ
  lastUsedAt : Option ℕ
  lastUsedIp : Option IpAddr
  graceExpiresAt : Option ℕ
deriving DecidableEq

structure ApiError where
  code : String
  message : String
deriving DecidableEq

structure Env where
  sha256Hex : String → String
  parseIpv6 : String → Option (Fin (2 ^ 128))

/-! ### Allowlists -/

section Cidr

variable (env : Env)

def parseIp (s : String) : Option IpAddr :=
  match Ipv4Addr.parse s with
  | some addr => some (.v4 addr)
  | none => (env.parseIpv6 s).map .v6

def mask (width prefixLen : ℕ) : ℕ :=
  if prefixLen = 0 then 0 else (2 ^ width - 1) <<< (width - prefixLen) % 2 ^ width

/-- The network and the length of its mask; a plain address is a network of its own. -/
def cidrParts (cidr : String) : Option (String × ℕ) :=
  match Text.splitOnce '/' cidr with
  | some (net, p) => (Text.parseUnsigned (2 ^ 32) p).map fun len => (net, len)
  | none => (parseIp env cidr).map fun addr =>
      match addr with
      | .v4 _ => (cidr, 32)
      | .v6 _ => (cidr, 128)

def cidrMatch (cidr : String) (ip : IpAddr) : Option Bool := do
  let (netStr, prefixLen) ← cidrParts env cidr
  let netAddr ← parseIp env netStr
  match netAddr, ip with
  | .v4 net, .v4 addr =>
    if prefixLen > 32 then none
    else some (net.val &&& mask 32 prefixLen == addr.val &&& mask 32 prefixLen)
  | .v6 net, .v6 addr =>
    if prefixLen > 128 then none
    else some (net.val &&& mask 128 prefixLen == addr.val &&& mask 128 prefixLen)
  | _, _ => none

def cidrContainsIp (cidrs : List String) (ip : IpAddr) : Bool :=
  cidrs.any fun cidr => cidrMatch env cidr ip == some true

end Cidr

/-! ### Keys -/

def base58Alphabet : List Char :=
  "123456789ABCDEFGHJKLMNPQRSTUVWXYZabcdefghijkmnopqrstuvwxyz".toList

def base58Encode (bytes : Vector UInt8 32) : String :=
  String.ofList (bytes.toList.map fun b => base58Alphabet.getD (b.toNat % 58) '1')

def rawKey (project encoded : String) : String := "syf_key_" ++ project ++ "_" ++ encoded

def wrap64 (n : ℕ) : ℕ := n % 2 ^ 64

section Operations

variable (env : Env)

def generateKey (project : String) (role : Role) (bytes : Vector UInt8 32) (now : ℕ) :
    String × ApiKey :=
  let encoded := base58Encode bytes
  let raw := rawKey project encoded
  (raw,
    { name := project ++ "-" ++ String.ofList (encoded.toList.take 8)
      project := project
      role := role
      hash := env.sha256Hex raw
      allowedCidrs := []
      ttl := 0
      createdAt := now
      lastUsedAt := none
      lastUsedIp := none
      graceExpiresAt := none })

def updateFirst {α : Type} (p : α → Bool) (f : α → α) : List α → List α
  | [] => []
  | a :: as => if p a then f a :: as else a :: updateFirst p f as

def unauthorized (message : String) : ApiError := ⟨"AUTH_UNAUTHORIZED", message⟩

def forbidden (message : String) : ApiError := ⟨"AUTH_FORBIDDEN", message⟩

def checkSource (key : ApiKey) (sourceIp : Option IpAddr) : Except ApiError Unit :=
  if key.allowedCidrs.isEmpty then .ok ()
  else
    match sourceIp with
    | some ip =>
      if cidrContainsIp env key.allowedCidrs ip then .ok ()
      else .error (forbidden "source IP not in CIDR allowlist")
    | none => .error (forbidden "CIDR allowlist set but no source IP provided")

def checkKey (key : ApiKey) (sourceIp : Option IpAddr) (now : ℕ) : Except ApiError Unit :=
  if key.graceExpiresAt.any fun grace => grace < now then
    .error (unauthorized "API key grace period expired")
  else if key.ttl > 0 ∧ now > wrap64 (key.createdAt + key.ttl) then
    .error (unauthorized "API key expired")
  else checkSource env key sourceIp

def touch (sourceIp : Option IpAddr) (now : ℕ) (key : ApiKey) : ApiKey :=
  { key with
    lastUsedAt := some now
    lastUsedIp := match sourceIp with
      | some ip => some ip
      | none => key.lastUsedIp }

def validateKey (raw : String) (keys : List ApiKey) (sourceIp : Option IpAddr) (now : ℕ) :
    Except ApiError ApiKey × List ApiKey :=
  let hash := env.sha256Hex raw
  match keys.find? fun k => k.hash == hash with
  | none => (.error (unauthorized "invalid API key"), keys)
  | some key =>
    match checkKey env key sourceIp now with
    | .error e => (.error e, keys)
    | .ok () =>
      (.ok (touch sourceIp now key), updateFirst (fun k => k.hash == hash) (touch sourceIp now) keys)

def retire (graceMinutes now : ℕ) (key : ApiKey) : ApiKey :=
  { key with graceExpiresAt := some (wrap64 (now + wrap64 (graceMinutes * 60))) }

def rotateKey (oldName : String) (graceMinutes : ℕ) (keys : List ApiKey) (bytes : Vector UInt8 32)
    (now : ℕ) : Except ApiError (String × ApiKey) × List ApiKey :=
  match keys.find? fun k => k.name == oldName with
  | none => (.error (unauthorized "key not found"), keys)
  | some old =>
    let (raw, newKey) := generateKey env old.project old.role bytes now
    (.ok (raw, newKey),
      updateFirst (fun k => k.name == oldName) (retire graceMinutes now) keys ++ [newKey])

def deleteKey (name : String) (keys : List ApiKey) : Except ApiError Unit × List ApiKey :=
  let kept := keys.filter fun k => k.name != name
  if kept.length = keys.length then (.error (unauthorized "key not found"), kept) else (.ok (), kept)

end Operations

/-! ### A key store in use -/

structure KeyStore where
  keys : List ApiKey := []
  /-- The time of the last call. -/
  clock : ℕ := 0

/-- A call; a new key is stored with the limits that the caller gives it. -/
inductive KeyAct
  | generate (project : String) (role : Role) (allowedCidrs : List String) (ttl : ℕ)
      (bytes : Vector UInt8 32)
  | validate (raw : String) (sourceIp : Option IpAddr)
  | rotate (oldName : String) (graceMinutes : ℕ) (bytes : Vector UInt8 32)
  | delete (name : String)

structure KeyCall where
  act : KeyAct
  /-- The seconds since the last call. -/
  elapsed : ℕ

inductive KeyReply
  | created (raw : String) (key : ApiKey)
  | validated (key : ApiKey)
  | deleted
  | failed (e : ApiError)
deriving DecidableEq

def KeyReply.of {α : Type} (f : α → KeyReply) : Except ApiError α → KeyReply
  | .ok a => f a
  | .error e => .failed e

def KeyStore.step (env : Env) (call : KeyCall) (s : KeyStore) : KeyReply × KeyStore :=
  let now := s.clock + call.elapsed
  match call.act with
  | .generate project role allowedCidrs ttl bytes =>
    let (raw, key) := generateKey env project role bytes now
    let key := { key with allowedCidrs := allowedCidrs, ttl := ttl }
    (.created raw key, ⟨s.keys ++ [key], now⟩)
  | .validate raw sourceIp =>
    let (result, keys) := validateKey env raw s.keys sourceIp now
    (.of .validated result, ⟨keys, now⟩)
  | .rotate oldName graceMinutes bytes =>
    let (result, keys) := rotateKey env oldName graceMinutes s.keys bytes now
    (.of (fun p => .created p.1 p.2) result, ⟨keys, now⟩)
  | .delete name =>
    let (result, keys) := deleteKey name s.keys
    (.of (fun _ => .deleted) result, ⟨keys, now⟩)

end Api

end Syfrah
