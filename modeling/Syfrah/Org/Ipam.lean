import Syfrah.Org.Store

/-!
# IP address management

One bitmap per subnet says which host offsets of a /24 are in use; a table of allocations records who
got which address.
-/

namespace Syfrah

inductive AllocationState
  | reserved
  | assigned
  | orphaned
deriving DecidableEq

structure IpAllocation where
  ip : String
  subnetId : String
  vmId : Option String
  mac : String
  state : AllocationState
  allocatedAt : ℕ
  assignedAt : Option ℕ
deriving DecidableEq

/-! ### The bitmap -/

def subnetSize : ℕ := 256

def bitmapBytes : ℕ := subnetSize / 8

/-- The network address, the gateway, a reserved address and the broadcast address of a /24. -/
def reservedOffsets : List ℕ := [0, 1, 2, 255]

def firstAllocatable : ℕ := 3

def lastAllocatable : ℕ := 254

/-- The bitmap of a subnet: bit `i` of byte `j` stands for the host offset `8 * j + i`. -/
structure SubnetBitmap where
  bits : List (BitVec 8)
deriving DecidableEq

namespace SubnetBitmap

def setBit (bits : List (BitVec 8)) (offset : ℕ) : List (BitVec 8) :=
  bits.modify (offset / 8) fun byte => byte ||| ((1 : BitVec 8) <<< (offset % 8))

def clearBit (bits : List (BitVec 8)) (offset : ℕ) : List (BitVec 8) :=
  bits.modify (offset / 8) fun byte => byte &&& ~~~((1 : BitVec 8) <<< (offset % 8))

def isSet (bits : List (BitVec 8)) (offset : ℕ) : Bool :=
  match bits[offset / 8]? with
  | some byte => (byte >>> (offset % 8)) &&& 1 == 1
  | none => false

def new : SubnetBitmap :=
  ⟨reservedOffsets.foldl setBit (List.replicate bitmapBytes 0)⟩

/-- The first clear offset among `count` offsets from `offset` on. -/
def firstClear (bits : List (BitVec 8)) (offset : ℕ) : ℕ → Option ℕ
  | 0 => none
  | count + 1 => if isSet bits offset then firstClear bits (offset + 1) count else some offset

/-- Take the first free host offset, from 3 to 254. -/
def allocate (bitmap : SubnetBitmap) : Option (ℕ × SubnetBitmap) :=
  (firstClear bitmap.bits firstAllocatable (lastAllocatable + 1 - firstAllocatable)).map fun offset =>
    (offset, ⟨setBit bitmap.bits offset⟩)

/-- Free a host offset; reserved offsets stay in use. -/
def release (bitmap : SubnetBitmap) (offset : ℕ) : SubnetBitmap :=
  if reservedOffsets.contains offset then bitmap else ⟨clearBit bitmap.bits offset⟩

def availableCount (bitmap : SubnetBitmap) : ℕ :=
  (List.range' firstAllocatable (lastAllocatable + 1 - firstAllocatable)).countP fun offset =>
    !isSet bitmap.bits offset

end SubnetBitmap

/-- The hardware address of an address: `02:00` and its four octets. -/
def macFromIp (ip : Ipv4Addr) : String :=
  "02:00:" ++ Text.hexPad 2 (ip.octet 0).val ++ ":" ++ Text.hexPad 2 (ip.octet 1).val ++ ":" ++
    Text.hexPad 2 (ip.octet 2).val ++ ":" ++ Text.hexPad 2 (ip.octet 3).val

def parseSubnetBase (cidr : String) : Except OrgError Ipv4Addr :=
  match Ipv4Net.parse cidr with
  | some net => .ok net.network
  | none => .error (.invalidCidr s!"invalid subnet CIDR: {cidr}")

/-- The address with the last octet replaced by the host offset. -/
def ipFromOffset (base : Ipv4Addr) (offset : ℕ) : Ipv4Addr :=
  .ofOctets (base.octet 0) (base.octet 1) (base.octet 2) (Fin.ofNat 256 offset)

/-! ### The store -/

inductive IpamTable
  | ipamBitmaps
  | ipAllocations
deriving DecidableEq

namespace IpamTable

abbrev Row : IpamTable → Type
  | ipamBitmaps => SubnetBitmap
  | ipAllocations => IpAllocation

def name : IpamTable → String
  | ipamBitmaps => "ipam_bitmaps"
  | ipAllocations => "ip_allocations"

def tableNames : List IpamTable := [ipamBitmaps, ipAllocations]

end IpamTable

abbrev IpamDb := LayerDb IpamTable.Row

abbrev IpamM (α : Type) := StoreM IpamTable.Row OrgError α

namespace IpamStore

def allocationKey (subnetId ip : String) : String := s!"{subnetId}/{ip}"

def loadBitmap (db : IpamDb) (subnetId : String) : SubnetBitmap :=
  (db.get .ipamBitmaps subnetId).getD .new

def reserveIp (subnetId subnetCidr : String) : IpamM IpAllocation := do
  let base ← OrgStore.check (parseSubnetBase subnetCidr)
  let bitmap ← query fun db => loadBitmap db subnetId
  let (offset, bitmap) ← Tx.orThrow bitmap.allocate (.ipExhausted subnetId)
  let ip := ipFromOffset base offset
  let now ← nowSecs
  let allocation : IpAllocation :=
    { ip := ip.display
      subnetId := subnetId
      vmId := none
      mac := macFromIp ip
      state := .reserved
      allocatedAt := now
      assignedAt := none }
  dbSet .ipamBitmaps subnetId bitmap
  dbSet .ipAllocations (allocationKey subnetId allocation.ip) allocation
  return allocation

def assignIp (subnetId ip vmId : String) : IpamM IpAllocation := do
  let key := allocationKey subnetId ip
  let allocation : IpAllocation ← Tx.orThrow (← dbGet .ipAllocations key) (.ipNotFound subnetId ip)
  Tx.rejectIf (allocation.state == .assigned) (.ipAlreadyAssigned subnetId ip)
  let now ← nowSecs
  let allocation : IpAllocation :=
    { allocation with state := .assigned, vmId := some vmId, assignedAt := some now }
  dbSet .ipAllocations key allocation
  return allocation

/-- The last octet of an address, when it may be released. -/
def releaseOffset (ip : String) : Except OrgError ℕ :=
  match Ipv4Addr.parse ip with
  | none => .error (.invalidCidr s!"invalid IP address: {ip}")
  | some addr =>
    let offset := (addr.octet 3).val
    if firstAllocatable ≤ offset && offset ≤ lastAllocatable then .ok offset
    else .error (.invalidCidr s!"cannot release reserved address: {ip}")

/-- Free an address: clear its bit and delete its allocation. -/
def releaseIp (subnetId subnetCidr ip : String) : IpamM Unit := do
  let _ ← OrgStore.check (parseSubnetBase subnetCidr)
  let offset ← OrgStore.check (releaseOffset ip)
  let bitmap ← query fun db => loadBitmap db subnetId
  let allocKey := allocationKey subnetId ip
  Tx.rejectIf (!(← dbExists .ipAllocations allocKey)) (.ipNotFound subnetId ip)
  dbSet .ipamBitmaps subnetId (bitmap.release offset)
  let _ ← dbDelete .ipAllocations allocKey

def markOrphaned (subnetId ip : String) : IpamM IpAllocation := do
  let key := allocationKey subnetId ip
  let allocation : IpAllocation ← Tx.orThrow (← dbGet .ipAllocations key) (.ipNotFound subnetId ip)
  let allocation : IpAllocation := { allocation with state := .orphaned }
  dbSet .ipAllocations key allocation
  return allocation

end IpamStore

end Syfrah
