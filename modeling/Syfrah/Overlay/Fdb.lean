import Std.Data.ExtTreeMap
import Syfrah.Overlay.SgNft
import Syfrah.State.Ambient

/-!
# Forwarding entries of remote VMs

Each VXLAN interface of a node has a forwarding table, which says behind which hypervisors a MAC is,
and a table of neighbours, which says what MAC an address has. A pass of the reconciliation compares
them with the entries that the placements ask for, interface by interface.
-/

namespace Syfrah

namespace Overlay

/-! ### Names -/

def bridgePrefix : String := "syfb-"

def vxlanPrefix : String := "syfx-"

def tapPrefix : String := "syft-"

def peerPrefix : String := "syfp"

def bridgeName (vpcId : String) : String := "syfb-" ++ shortHash vpcId

def vxlanName (vpcId : String) : String := "syfx-" ++ shortHash vpcId

def tapName (vmId : String) : String := "syft-" ++ shortHash vmId

def peerNameA (peeringId : String) : String := "syfpa" ++ shortHash peeringId

def peerNameB (peeringId : String) : String := "syfpb" ++ shortHash peeringId

/-! ### The kernel -/

instance lawfulBEq_pair : LawfulBEq (String × String) := inferInstance

/-- What the kernel knows on one interface: MACs with their destinations, and the MACs of addresses. -/
structure Neighbours where
  fdb : List (String × String)
  arp : Std.ExtTreeMap String String

/-- An operation of the backend. Those on forwarding entries are told the bridge of the interface. -/
inductive FdbOp
  | addFdbEntry (bridge mac vtep : String)
  | removeFdbEntry (bridge mac : String)
  | addArpProxy (vxlan ip mac : String)
  | removeArpProxy (vxlan ip : String)
deriving DecidableEq

namespace FdbOp

def iface : FdbOp → String
  | addFdbEntry bridge _ _ => Text.replace bridgePrefix vxlanPrefix bridge
  | removeFdbEntry bridge _ => Text.replace bridgePrefix vxlanPrefix bridge
  | addArpProxy vxlan _ _ => vxlan
  | removeArpProxy vxlan _ => vxlan

/-- What an operation does there. A removal takes all destinations of the MAC. -/
def effect : FdbOp → Neighbours → Neighbours
  | addFdbEntry _ mac vtep, n =>
      { n with fdb := if (mac, vtep) ∈ n.fdb then n.fdb else n.fdb ++ [(mac, vtep)] }
  | removeFdbEntry _ mac, n => { n with fdb := n.fdb.filter fun entry => entry.1 != mac }
  | addArpProxy _ ip mac, n => { n with arp := n.arp.insert ip mac }
  | removeArpProxy _ ip, n => { n with arp := n.arp.erase ip }

def run (op : FdbOp) (kernel : String → Neighbours) : String → Neighbours :=
  Function.update kernel op.iface (op.effect (kernel op.iface))

end FdbOp

/-- What the backend refuses to do, with the error it gives. -/
structure FdbBackend where
  listFdb : String → Option String
  listArp : String → Option String
  refuses : FdbOp → Option String

def FdbBackend.reliable : FdbBackend := ⟨fun _ => none, fun _ => none, fun _ => none⟩

/-! ### Reconciliation -/

structure ExpectedFdbEntry where
  vxlan : String
  mac : String
  dst : String
  ip : String
deriving DecidableEq

/-- A pass so far: the kernel, the operations that were carried out, and the part of the report that is
about forwarding entries. -/
structure FdbPass where
  kernel : String → Neighbours
  performed : List FdbOp
  fdbEntriesAdded : ℕ
  fdbEntriesRemoved : ℕ
  warnings : List String

def FdbPass.start (kernel : String → Neighbours) : FdbPass := ⟨kernel, [], 0, 0, []⟩

namespace FdbPass

def warn (p : FdbPass) (warning : String) : FdbPass := { p with warnings := p.warnings ++ [warning] }

/-- Carry out one operation and count it, or warn. -/
def attempt (backend : FdbBackend) (p : FdbPass) (op : FdbOp) : FdbPass :=
  match backend.refuses op, op with
  | some e, .addFdbEntry _ mac _ => p.warn s!"FDB reconcile: add failed for {mac}: {e}"
  | some e, .removeFdbEntry _ mac => p.warn s!"FDB reconcile: remove failed for {mac}: {e}"
  | some e, .addArpProxy _ ip _ => p.warn s!"ARP reconcile: add failed for {ip}: {e}"
  | some e, .removeArpProxy _ ip => p.warn s!"ARP reconcile: remove failed for {ip}: {e}"
  | none, op =>
    let added := match op with
      | .addFdbEntry .. | .addArpProxy .. => true
      | _ => false
    { p with
      kernel := op.run p.kernel
      performed := p.performed ++ [op]
      fdbEntriesAdded := if added then p.fdbEntriesAdded + 1 else p.fdbEntriesAdded
      fdbEntriesRemoved := if added then p.fdbEntriesRemoved else p.fdbEntriesRemoved + 1 }

end FdbPass

/-- Whether a MAC is one that the overlay manages. -/
def managedMac (mac : String) : Bool := Text.startsWith mac "02:00:"

/-- What is to be done on one interface, from what was read there at the beginning: missing entries
first, then stale forwarding entries, then stale neighbours. -/
def fdbPlan (vxlan : String) (expected : List ExpectedFdbEntry) (actual : Neighbours) : List FdbOp :=
  let bridge := Text.replace vxlanPrefix bridgePrefix vxlan
  let missing := expected.flatMap fun entry =>
    (if (entry.mac, entry.dst) ∈ actual.fdb then [] else [.addFdbEntry bridge entry.mac entry.dst]) ++
      (if (entry.ip, entry.mac) ∈ actual.arp.toList then [] else [.addArpProxy vxlan entry.ip entry.mac])
  let staleFdb := actual.fdb.filterMap fun (mac, _) =>
    if managedMac mac && !expected.any (fun entry => entry.mac == mac) then
      some (.removeFdbEntry bridge mac) else none
  let staleArp := actual.arp.toList.filterMap fun (ip, mac) =>
    if managedMac mac && !expected.any (fun entry => entry.ip == ip) then
      some (.removeArpProxy vxlan ip) else none
  missing ++ staleFdb ++ staleArp

def reconcileVxlan (backend : FdbBackend) (fdbEntries : List ExpectedFdbEntry) (p : FdbPass)
    (vxlan : String) : FdbPass :=
  match backend.listFdb vxlan, backend.listArp vxlan with
  | some e, _ => p.warn s!"failed to list FDB entries for {vxlan}: {e}"
  | none, some e => p.warn s!"failed to list ARP entries for {vxlan}: {e}"
  | none, none =>
    (fdbPlan vxlan (fdbEntries.filter fun entry => entry.vxlan == vxlan) (p.kernel vxlan)).foldl
      (FdbPass.attempt backend) p

/-- Reconcile the interfaces that have expected entries, in the order of the hash map. -/
def reconcileFdbEntries (backend : FdbBackend) (order : HashOrder)
    (fdbEntries : List ExpectedFdbEntry) (p : FdbPass) : FdbPass :=
  if fdbEntries.isEmpty then p
  else
    (order.arrange (fdbEntries.map ExpectedFdbEntry.vxlan).dedup).foldl
      (reconcileVxlan backend fdbEntries) p

end Overlay

end Syfrah
