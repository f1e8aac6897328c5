import Syfrah.Core.Secret

/-!
# Rotation of the mesh secret

A running daemon has the secret in several places: in the store, in the state that the control handler
and the rotation callback share, and in what the listener was given when the daemon started. A TLS
handshake succeeds when the client trusts the certificate of the server; a ciphertext can be read with
the key that it was made with.
-/

namespace Syfrah

namespace Mesh

structure Ciphertext (α : Type) where
  key : Hash
  content : α

def Ciphertext.decrypt {α : Type} (c : Ciphertext α) (key : Hash) : Option α :=
  if key = c.key then some c.content else none

structure RunningNode where
  wgPubkey : List ℕ
  /-- The store. -/
  storedSecret : String
  storedPrefix : Ipv6Addr
  storedIpv6 : Ipv6Addr
  /-- Shared by the control handler and the rotation callback. -/
  meshSecret : MeshSecret
  tlsClientConfig : Hash
  /-- Of the listener, since the start. -/
  encKey : Hash
  tlsServerConfig : Hash

abbrev Running (ι : Type) := ι → RunningNode

namespace RunningNode

variable (crypto : Crypto)

def start (secret : MeshSecret) (wgPubkey : List ℕ) : RunningNode :=
  let meshSecret := MeshSecret.fromBytes secret.bytes
  let meshPrefix := meshSecret.derivePrefix crypto
  { wgPubkey := wgPubkey
    storedSecret := secret.toText crypto
    storedPrefix := meshPrefix
    storedIpv6 := deriveNodeAddress crypto.sha256 meshPrefix wgPubkey
    meshSecret := meshSecret
    tlsClientConfig := MeshSecret.meshCert crypto secret.bytes
    encKey := meshSecret.encryptionKey crypto
    tlsServerConfig := MeshSecret.meshCert crypto secret.bytes }

def adopt (n : RunningNode) (text : String) (secret : MeshSecret) : RunningNode :=
  let meshPrefix := secret.derivePrefix crypto
  { n with
    storedSecret := text
    storedPrefix := meshPrefix
    storedIpv6 := deriveNodeAddress crypto.sha256 meshPrefix n.wgPubkey
    tlsClientConfig := MeshSecret.meshCert crypto secret.bytes
    meshSecret := secret }

def onSecretRotation (n : RunningNode) (text : String) : RunningNode :=
  match MeshSecret.fromText crypto text with
  | some secret => n.adopt crypto text (.fromBytes secret.bytes)
  | none => n

/-- What a message over a client configuration is decrypted to, if the handshake succeeds. -/
def receive {α : Type} (n : RunningNode) (tlsClientConfig : Hash) (c : Ciphertext α) : Option α :=
  if tlsClientConfig = n.tlsServerConfig then c.decrypt n.encKey else none

def receiveRotation (n : RunningNode) (tlsClientConfig : Hash) (c : Ciphertext String) : RunningNode :=
  match n.receive tlsClientConfig c with
  | some text => n.onSecretRotation crypto text
  | none => n

/-- What another node gets of an announce that is sent with the current key and configuration. -/
def announceTo {α : Type} (n receiver : RunningNode) (record : α) : Option α :=
  receiver.receive n.tlsClientConfig ⟨n.meshSecret.encryptionKey crypto, record⟩

end RunningNode

/-- The command `RotateSecret` on a node, with the bytes that are generated. -/
structure RotateSecret (ι : Type) where
  node : ι
  bytes : Vector UInt8 32

namespace Running

variable {ι : Type} [DecidableEq ι] (crypto : Crypto)

/-- The command; its broadcast gets to all other nodes. -/
def rotate (cmd : RotateSecret ι) (m : Running ι) : Unit × Running ι :=
  let sender := m cmd.node
  let text := (MeshSecret.generate cmd.bytes).toText crypto
  let broadcast : Ciphertext String := ⟨sender.meshSecret.encryptionKey crypto, text⟩
  ((), fun i => if i = cmd.node then sender.adopt crypto text (.fromBytes cmd.bytes)
    else (m i).receiveRotation crypto sender.tlsClientConfig broadcast)

end Running

end Mesh

end Syfrah
