import Syfrah.Overlay.Fdb
import Syfrah.Overlay.Firewall

/-!
# The network state of a node

What the backend of the overlay works on: the interfaces of the kernel, the rules that forwarded
packets meet, and the neighbours on each interface. An operation of the backend either does what it is
for or nothing; all of them may be repeated. The table of the security groups is another one.
-/

namespace Syfrah

namespace Overlay

/-! ### Rules for forwarded packets -/

inductive ForwardMatch
  | iif (name : String)
  | oif (name : String)
  | iifname (name : String)
  | oifname (name : String)
  -- any interface whose name does not begin like this
  | oifnameOther (start : String)
  | etherSaddrNot (mac : String)
  | ipSaddrNot (ip : String)
  | ctState (states : List CtState)
  | tcpDport (port : ℕ)
  | udpDport (port : ℕ)
  | icmpEchoRequest
deriving DecidableEq

def ForwardMatch.text : ForwardMatch → String
  | iif name => "iif " ++ quoted name
  | oif name => "oif " ++ quoted name
  | iifname name => "iifname " ++ quoted name
  | oifname name => "oifname " ++ quoted name
  | oifnameOther start => "oifname != " ++ quoted (start ++ "*")
  | etherSaddrNot mac => s!"ether saddr != {mac}"
  | ipSaddrNot ip => s!"ip saddr != {ip}"
  | ctState states => "ct state " ++ String.intercalate "," (states.map CtState.name)
  | tcpDport port => s!"tcp dport {port}"
  | udpDport port => s!"udp dport {port}"
  | icmpEchoRequest => "icmp type echo-request"

/-- A rule of the forward chain; it never leads to another chain. -/
abbrev ForwardRule := PacketFilter.Rule Empty ForwardMatch

def ForwardRule.text (rule : ForwardRule) : String :=
  String.intercalate " " (rule.filters.map ForwardMatch.text ++
    [match rule.verdict with
      | .accept => "accept"
      | .drop => "drop"
      | .jump chain | .goto chain => chain.elim])

structure ForwardedPacket extends Packet where
  smac : String

def ForwardMatch.holds (nft : AddressReading) (p : ForwardedPacket) : ForwardMatch → Bool
  | iif name | iifname name => p.iifname == name
  | oif name | oifname name => p.oifname == name
  | oifnameOther start => !Text.startsWith p.oifname start
  | etherSaddrNot mac => p.smac != mac
  | ipSaddrNot ip => p.etherType == .ipv4 && !nft.reads ip p.saddr
  | ctState states => states.contains p.ctState
  | tcpDport port => p.transport == .tcp && p.dport == port
  | udpDport port => p.transport == .udp && p.dport == port
  | icmpEchoRequest => p.etherType == .ipv4 && p.transport == .icmpEchoRequest

/-- Whether the chain lets a packet through. Its policy is to drop. -/
def forwardAccepts (nft : AddressReading) (rules : List ForwardRule) (p : ForwardedPacket) : Bool :=
  PacketFilter.evalRules (ForwardMatch.holds nft p) Empty.elim rules == .accept

def vxlanPort : ℕ := 4789

def wireguardPort : ℕ := 51820

def peeringPort : ℕ := 51821

def generateInfraProtection : List ForwardRule :=
  [⟨[.udpDport vxlanPort], .drop⟩,
   ⟨[.udpDport wireguardPort], .drop⟩,
   ⟨[.tcpDport peeringPort], .drop⟩,
   ⟨[.ctState [.established, .related]], .accept⟩,
   ⟨[.ctState [.invalid]], .drop⟩]

def generateBridgeAcceptRules (bridge : String) : List ForwardRule :=
  let vxlan := Text.replaceFirst bridgePrefix vxlanPrefix bridge
  [⟨[.iifname bridge, .oifname bridge], .accept⟩,
   ⟨[.iifname bridge, .oifname vxlan], .accept⟩,
   ⟨[.iifname vxlan, .oifname bridge], .accept⟩,
   ⟨[.iifname bridge, .oifnameOther bridgePrefix], .accept⟩]

def vmRules (tap mac ip : String) : List ForwardRule :=
  [⟨[.iif tap, .etherSaddrNot mac], .drop⟩,
   ⟨[.iif tap, .ipSaddrNot ip], .drop⟩,
   ⟨[.oif tap, .ctState [.established, .related]], .accept⟩,
   ⟨[.oif tap, .tcpDport 22], .accept⟩,
   ⟨[.oif tap, .icmpEchoRequest], .accept⟩,
   ⟨[.oif tap], .drop⟩]

def peeringRules (bridgeA bridgeB : String) : List ForwardRule :=
  [⟨[.iif bridgeA, .oif bridgeB], .accept⟩, ⟨[.iif bridgeB, .oif bridgeA], .accept⟩]

/-! ### Interfaces -/

structure Link where
  master : Option String
  -- addresses with the lengths of their networks
  addresses : List (String × ℕ)
  -- the other end of a pair
  peer : Option String
deriving DecidableEq

def Link.new : Link := ⟨none, [], none⟩

structure Kernel where
  links : Std.ExtTreeMap String Link
  forward : List ForwardRule
  -- the networks that are masqueraded
  masquerades : List String
  neighbours : String → Neighbours

namespace Kernel

def empty : Kernel := ⟨∅, [], [], fun _ => ⟨[], ∅⟩⟩

/-- The names that begin in the given way, in order. -/
def listInterfaces (start : String) (k : Kernel) : List String :=
  k.links.keys.filter fun name => Text.startsWith name start

def createLink (name : String) (link : Link) (k : Kernel) : Kernel :=
  if name ∈ k.links then k else { k with links := k.links.insert name link }

def modifyLink (name : String) (f : Link → Link) (k : Kernel) : Kernel :=
  match k.links[name]? with
  | none => k
  | some link => { k with links := k.links.insert name (f link) }

/-- Delete an interface with the other end of its pair. Interfaces that were attached to it are on
their own afterwards. -/
def deleteLink (name : String) (k : Kernel) : Kernel :=
  let gone := name :: (k.links[name]?.bind Link.peer).toList
  { k with
    links := k.links.filterMap fun other link =>
      if other ∈ gone then none
      else some { link with master := link.master.filter fun m => m ∉ gone }
    neighbours := fun other => if other ∈ gone then ⟨[], ∅⟩ else k.neighbours other }

theorem links_createLink (name : String) (link : Link) (k : Kernel) (other : String) :
    (k.createLink name link).links[other]? =
      if other = name then some ((k.links[name]?).getD link) else k.links[other]? := by
  rw [createLink]
  by_cases hother : other = name
  · subst hother
    rw [if_pos rfl]
    split
    · rename_i hmem
      rw [Std.ExtTreeMap.mem_iff_isSome_getElem?, Option.isSome_iff_exists] at hmem
      obtain ⟨held, hheld⟩ := hmem
      rw [hheld, Option.getD_some]
    · rename_i hmem
      rw [Std.ExtTreeMap.getElem?_eq_none hmem, Option.getD_none]
      exact Std.ExtTreeMap.getElem?_insert_self
  · rw [if_neg hother]
    split
    · rfl
    · simp [Std.ExtTreeMap.getElem?_insert, Ne.symm hother]

theorem links_modifyLink (name : String) (f : Link → Link) (k : Kernel) (other : String) :
    (k.modifyLink name f).links[other]? =
      if other = name then (k.links[name]?).map f else k.links[other]? := by
  rw [modifyLink]
  by_cases hother : other = name
  · subst hother
    cases hheld : k.links[other]? with
    | none => simp [hheld]
    | some link => simp
  · cases hheld : k.links[name]? with
    | none => simp [hother]
    | some link => simp [Std.ExtTreeMap.getElem?_insert, hother, Ne.symm hother]

def detach (bridge : String) (link : Link) : Link :=
  { link with master := link.master.filter fun m => m != bridge }

theorem links_deleteLink {name : String} {k : Kernel} (hpeer : (k.links[name]?).bind Link.peer = none)
    (other : String) : (k.deleteLink name).links[other]? =
      if other = name then none else (k.links[other]?).map (detach name) := by
  rw [deleteLink, hpeer]
  simp only [Std.ExtTreeMap.getElem?_filterMap', Option.toList_none, List.mem_singleton]
  by_cases hother : other = name
  · simp [hother]
  · rw [if_neg hother]
    cases k.links[other]? with
    | none => rfl
    | some link => simp [hother, detach, bne, BEq.beq]

def addRules (rules : List ForwardRule) (k : Kernel) : Kernel :=
  { k with forward := k.forward ++ rules }

/-- Delete the rules whose line has all the given texts in it. -/
def deleteRules (texts : List String) (k : Kernel) : Kernel :=
  { k with forward := k.forward.filter fun rule => !texts.all (Text.contains (ForwardRule.text rule)) }

end Kernel

/-! ### The backend -/

inductive NetworkOp
  | createVxlan (name : String) (vni : ℕ) (localIp : String) (port : ℕ)
  | deleteVxlan (name : String)
  | createBridge (name : String)
  | deleteBridge (name : String)
  | addBridgeIp (bridge ip : String) (prefixLen : ℕ)
  | removeBridgeIp (bridge ip : String)
  | attachToBridge (iface bridge : String)
  | createTap (name : String)
  | deleteTap (name : String)
  | createVethPair (nameA nameB : String)
  | moveToNetns (iface : String)
  | configureNetns (iface ip : String) (prefixLen : ℕ) (gateway mac : String)
  | enableBrNetfilter
  | applyInfraProtection
  | applySgBaseChain
  | applyBridgeAcceptRules (bridge : String)
  | applyVmRules (tap mac ip : String)
  | removeVmRules (tap : String)
  | applyNat (bridge subnetCidr : String)
  | removeNat (bridge subnetCidr : String)
  | applyPeeringRules (bridgeA bridgeB : String)
  | removePeeringRules (bridgeA bridgeB : String)
  | neighbour (op : FdbOp)
deriving DecidableEq

def NetworkOp.run : NetworkOp → Kernel → Kernel
  | createVxlan name _ _ _, k => k.createLink name .new
  | createBridge name, k => k.createLink name .new
  | createTap name, k => k.createLink name .new
  | createVethPair nameA nameB, k =>
      if nameA ∈ k.links then k
      else (k.createLink nameA ⟨none, [], some nameB⟩).createLink nameB ⟨none, [], some nameA⟩
  -- the interface is in the namespace of the container from now on
  | moveToNetns iface, k => { k with links := k.links.erase iface }
  | configureNetns .., k => k
  | deleteVxlan name, k => k.deleteLink name
  | deleteBridge name, k => k.deleteLink name
  | deleteTap name, k => k.deleteLink name
  | addBridgeIp bridge ip prefixLen, k => k.modifyLink bridge fun link =>
      if (ip, prefixLen) ∈ link.addresses then link
      else { link with addresses := link.addresses ++ [(ip, prefixLen)] }
  | removeBridgeIp bridge ip, k => k.modifyLink bridge fun link =>
      { link with addresses := link.addresses.filter fun address => address.1 != ip }
  | attachToBridge iface bridge, k => k.modifyLink iface fun link => { link with master := some bridge }
  | enableBrNetfilter, k | applySgBaseChain, k => k
  | applyInfraProtection, k => k.addRules generateInfraProtection
  | applyBridgeAcceptRules bridge, k => k.addRules (generateBridgeAcceptRules bridge)
  | applyVmRules tap mac ip, k => k.addRules (vmRules tap mac ip)
  | removeVmRules tap, k => k.deleteRules [tap]
  | applyNat _ subnetCidr, k => { k with masquerades := k.masquerades ++ [subnetCidr] }
  | removeNat _ subnetCidr, k =>
      { k with masquerades := k.masquerades.filter fun cidr => !Text.contains cidr subnetCidr }
  | applyPeeringRules bridgeA bridgeB, k => k.addRules (peeringRules bridgeA bridgeB)
  | removePeeringRules bridgeA bridgeB, k => k.deleteRules [bridgeA, bridgeB]
  | neighbour op, k => { k with neighbours := op.run k.neighbours }

/-- What the backend cannot do, with the error it gives. -/
structure NetworkBackend where
  -- listing the interfaces whose names begin in some way
  lists : String → Option String
  refuses : NetworkOp → Option String
  -- reading the bridge of an interface
  readsMaster : String → Option String
  fdb : FdbBackend

namespace NetworkBackend

def reliable : NetworkBackend := ⟨fun _ => none, fun _ => none, fun _ => none, .reliable⟩

variable (backend : NetworkBackend)

def perform (op : NetworkOp) (k : Kernel) : Except String Kernel :=
  match backend.refuses op with
  | some e => .error e
  | none => .ok (op.run k)

/-- Perform an operation whose failure is only logged. -/
def tryPerform (op : NetworkOp) (k : Kernel) : Kernel :=
  match backend.perform op k with
  | .error _ => k
  | .ok k' => k'

def listInterfaces (start : String) (k : Kernel) : Except String (List String) :=
  match backend.lists start with
  | some e => .error e
  | none => .ok (k.listInterfaces start)

end NetworkBackend

end Overlay

end Syfrah
