import Syfrah.Fabric.Rotation
import Syfrah.Lib.Run

/-!
# What a rotation leaves working

After rotations that every node applied, the stores and the shared state agree on the newest secret. The
listeners do not: they keep the key and the certificate of the secret that their daemon was started with.
So announces and further rotations get through exactly if the newest secret gives the same key and
certificate.
-/

namespace Syfrah

namespace Mesh

variable {ι : Type} {crypto : Crypto}

variable (crypto) in
theorem MeshSecret.fromText_toText (s : MeshSecret) :
    fromText crypto (s.toText crypto) = some (fromBytes s.bytes) := by
  have hlength : s.bytes.toList.length = 32 := by simp
  have hbytes : (⟨s.bytes.toList.toArray, hlength⟩ : Vector UInt8 32) = s.bytes :=
    Vector.toArray_inj.mp Array.toArray_toList
  simp only [fromText, toText, Text.stripStart_append, crypto.fromBase58_base58, Option.bind_eq_bind,
    Option.bind_some, hlength, ↓reduceDIte, hbytes]

namespace RunningNode

variable {n receiver : RunningNode} {bytes : Vector UInt8 32}

variable (crypto) in
structure HasSecret (n : RunningNode) (bytes : Vector UInt8 32) : Prop where
  stored : n.storedSecret = (MeshSecret.generate bytes).toText crypto
  storedPrefix : n.storedPrefix = (MeshSecret.fromBytes bytes).derivePrefix crypto
  storedIpv6 : n.storedIpv6 = deriveNodeAddress crypto.sha256 n.storedPrefix n.wgPubkey
  shared : n.meshSecret = .fromBytes bytes
  client : n.tlsClientConfig = MeshSecret.meshCert crypto bytes

variable (crypto) in
/-- What the listener of a node was given is what a secret derives. -/
structure Listens (n : RunningNode) (bytes : Vector UInt8 32) : Prop where
  encKey : n.encKey = (MeshSecret.fromBytes bytes).encryptionKey crypto
  server : n.tlsServerConfig = MeshSecret.meshCert crypto bytes

theorem hasSecret_start (bytes : Vector UInt8 32) (wgPubkey : List ℕ) :
    HasSecret crypto (start crypto (.generate bytes) wgPubkey) bytes :=
  ⟨rfl, rfl, rfl, rfl, rfl⟩

theorem listens_start (bytes : Vector UInt8 32) (wgPubkey : List ℕ) :
    Listens crypto (start crypto (.generate bytes) wgPubkey) bytes :=
  ⟨rfl, rfl⟩

theorem hasSecret_adopt (n : RunningNode) (bytes : Vector UInt8 32) :
    HasSecret crypto (n.adopt crypto ((MeshSecret.generate bytes).toText crypto) (.fromBytes bytes))
      bytes :=
  ⟨rfl, rfl, rfl, rfl, rfl⟩

theorem onSecretRotation_toText (n : RunningNode) (bytes : Vector UInt8 32) :
    n.onSecretRotation crypto ((MeshSecret.generate bytes).toText crypto) =
      n.adopt crypto ((MeshSecret.generate bytes).toText crypto) (.fromBytes bytes) := by
  rw [onSecretRotation, MeshSecret.fromText_toText]
  rfl

theorem receive_eq_some {α : Type} {tlsClientConfig : Hash} {c : Ciphertext α} {x : α} :
    n.receive tlsClientConfig c = some x ↔
      tlsClientConfig = n.tlsServerConfig ∧ n.encKey = c.key ∧ c.content = x := by
  simp only [receive, Ciphertext.decrypt]
  split_ifs <;> simp_all

theorem HasSecret.receive_iff {α : Type} (h : HasSecret crypto n bytes) {x : α} :
    receiver.receive n.tlsClientConfig ⟨n.meshSecret.encryptionKey crypto, x⟩ = some x ↔
      Listens crypto receiver bytes := by
  rw [receive_eq_some, h.client, h.shared]
  exact ⟨fun ⟨hserver, hkey, _⟩ => ⟨hkey, hserver.symm⟩, fun hl => ⟨hl.server.symm, hl.encKey, rfl⟩⟩

theorem listens_receiveRotation {tlsClientConfig : Hash} {c : Ciphertext String} :
    Listens crypto (n.receiveRotation crypto tlsClientConfig c) bytes ↔ Listens crypto n bytes := by
  have hcallback (text : String) :
      Listens crypto (n.onSecretRotation crypto text) bytes ↔ Listens crypto n bytes := by
    rw [onSecretRotation]
    cases MeshSecret.fromText crypto text with
    | none => exact Iff.rfl
    | some secret => exact ⟨fun h => ⟨h.encKey, h.server⟩, fun h => ⟨h.encKey, h.server⟩⟩
  rw [receiveRotation]
  cases n.receive tlsClientConfig c with
  | none => exact Iff.rfl
  | some text => exact hcallback text

end RunningNode

namespace Running

open RunningNode

variable [DecidableEq ι] {m : Running ι} {bytes : Vector UInt8 32}

theorem listens_rotate (cmd : RotateSecret ι) (i : ι) :
    Listens crypto ((rotate crypto cmd m).2 i) bytes ↔ Listens crypto (m i) bytes := by
  by_cases hi : i = cmd.node
  · subst hi
    simp only [rotate, if_true]
    exact ⟨fun h => ⟨h.encKey, h.server⟩, fun h => ⟨h.encKey, h.server⟩⟩
  · simp only [rotate, if_neg hi]
    exact listens_receiveRotation

theorem listens_reached (cmds : List (RotateSecret ι)) (i : ι) :
    Listens crypto (reached (rotate crypto) cmds m i) bytes ↔ Listens crypto (m i) bytes := by
  induction cmds generalizing m with
  | nil => exact Iff.rfl
  | cons cmd cmds ih => exact ih.trans (listens_rotate cmd i)

theorem hasSecret_rotate (cmd : RotateSecret ι) (hsender : HasSecret crypto (m cmd.node) bytes)
    {i : ι} (hi : i ≠ cmd.node → Listens crypto (m i) bytes) :
    HasSecret crypto ((rotate crypto cmd m).2 i) cmd.bytes := by
  by_cases h : i = cmd.node
  · simp only [rotate, if_pos h]
    exact hasSecret_adopt _ _
  · have hreceived := hsender.receive_iff (x := (MeshSecret.generate cmd.bytes).toText crypto).mpr (hi h)
    simp only [rotate, if_neg h, receiveRotation, hreceived, onSecretRotation_toText]
    exact hasSecret_adopt _ _

def newest (bytes : Vector UInt8 32) (cmds : List (RotateSecret ι)) : Vector UInt8 32 :=
  cmds.foldl (fun _ cmd => cmd.bytes) bytes

variable (crypto) in
/-- The broadcast of a rotation was applied on every node. -/
def Applied (e : Exec (Running ι) (RotateSecret ι) Unit) : Prop :=
  ∀ i, HasSecret crypto (e.after i) e.action.bytes

theorem hasSecret_reached {cmds : List (RotateSecret ι)} (hm : ∀ i, HasSecret crypto (m i) bytes)
    (happlied : ∀ e ∈ trace (rotate crypto) cmds m, Applied crypto e) (i : ι) :
    HasSecret crypto (reached (rotate crypto) cmds m i) (newest bytes cmds) := by
  induction cmds generalizing m bytes with
  | nil => exact hm i
  | cons cmd cmds ih =>
      obtain ⟨hfirst, hrest⟩ := List.forall_mem_cons.mp happlied
      exact ih hfirst hrest

variable (crypto) in
/-- The mesh works with a secret: the stores derive from it, every announce is read by every other node,
and a further rotation is taken over by every node. -/
structure Works (m : Running ι) (bytes : Vector UInt8 32) : Prop where
  stored : ∀ i, HasSecret crypto (m i) bytes
  announces : ∀ i j, i ≠ j → ∀ record : PeerRecord,
    (m i).announceTo crypto (m j) record = some record
  rotates : ∀ cmd : RotateSecret ι, Applied crypto (.of (rotate crypto) cmd m)

theorem works_iff (hm : ∀ i, HasSecret crypto (m i) bytes) :
    Works crypto m bytes ↔ ∀ i j, i ≠ j → Listens crypto (m j) bytes := by
  constructor
  · intro hworks i j hij
    let record : PeerRecord := ⟨"", "", ⟨"", 0, rfl⟩, .replicate 8 0, 0, .active, none, none⟩
    exact (hm i).receive_iff.mp (hworks.announces i j hij record)
  · intro hlistens
    refine ⟨hm, fun i j hij _ => (hm i).receive_iff.mpr (hlistens i j hij), fun cmd i => ?_⟩
    exact hasSecret_rotate cmd (hm cmd.node) fun hi => hlistens cmd.node i (Ne.symm hi)

/-- **After rotations that every node has applied**, the mesh works with the newest secret just if the
listeners of the start derive from it too. -/
theorem works_reached_iff_listens (cmds : List (RotateSecret ι))
    (hm : ∀ i, HasSecret crypto (m i) bytes)
    (happlied : ∀ e ∈ trace (rotate crypto) cmds m, Applied crypto e) :
    Works crypto (reached (rotate crypto) cmds m) (newest bytes cmds) ↔
      ∀ i j, i ≠ j → Listens crypto (m j) (newest bytes cmds) := by
  rw [works_iff (hasSecret_reached hm happlied)]
  exact forall₃_congr fun _ j _ => listens_reached cmds j

/-- A hash that repeats the last byte, and bytes written as the characters with these numbers. -/
def lastByte : Crypto where
  sha256 := fun bytes => .replicate 32 (.ofNat (bytes.getLastD 0))
  hkdf := fun _ bytes => .replicate 32 (.ofNat (bytes.getLastD 0))
  base58 := fun bytes => String.ofList (bytes.map fun b => Char.ofNat b.toNat)
  fromBase58 := fun text => some (text.toList.map fun c => .ofNat c.toNat)
  fromBase58_base58 := fun bytes => by
    have hchar : ∀ n : Fin 256, (Char.ofNat n.val).toNat = n.val := by decide +kernel
    have hbyte (b : UInt8) : UInt8.ofNat (Char.ofNat b.toNat).toNat = b := by
      rw [hchar ⟨b.toNat, b.toNat_lt⟩, UInt8.ofNat_toNat]
    simp [Function.comp_def, hbyte]

/-- Two nodes that were started with the secret of zeros. -/
def twoNodes : Running (Fin 2) :=
  fun i => .start lastByte (.generate (.replicate 32 0)) [i.val]

theorem applied_twoNodes (bytes : Vector UInt8 32) :
    ∀ e ∈ trace (rotate lastByte) [⟨0, bytes⟩] twoNodes, Applied lastByte e := by
  refine List.forall_mem_singleton.mpr fun i => ?_
  exact hasSecret_rotate (m := twoNodes) ⟨0, bytes⟩ (hasSecret_start _ _) fun _ => listens_start _ _

/-- A new secret with the same hash. -/
theorem works_twoNodes :
    (∀ e ∈ trace (rotate lastByte) [⟨0, (Vector.replicate 32 0).set 0 1⟩] twoNodes,
      Applied lastByte e) ∧
    Works lastByte (reached (rotate lastByte) [⟨0, (Vector.replicate 32 0).set 0 1⟩] twoNodes)
      ((Vector.replicate 32 0).set 0 1) :=
  ⟨applied_twoNodes _,
    (works_reached_iff_listens [⟨0, (Vector.replicate 32 0).set 0 1⟩] (fun _ => hasSecret_start _ _)
      (applied_twoNodes _)).mpr fun _ _ _ => ⟨by decide +kernel +revert, by decide +kernel +revert⟩⟩

/-- One rotation, and the listeners do not read announces any more. -/
theorem not_works_twoNodes :
    (∀ e ∈ trace (rotate lastByte) [⟨0, .replicate 32 1⟩] twoNodes, Applied lastByte e) ∧
    ¬ Works lastByte (reached (rotate lastByte) [⟨0, .replicate 32 1⟩] twoNodes)
      (.replicate 32 1) := by
  refine ⟨applied_twoNodes _, fun hworks => ?_⟩
  have hlistens := (works_iff hworks.stored).mp hworks 0 1 (by decide)
  exact absurd ((listens_reached _ 1).mp hlistens).encKey (by decide +kernel)

end Running

end Mesh

end Syfrah
