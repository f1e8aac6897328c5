import Syfrah.Overlay.SgNft

/-!
# Packets in the firewall

What the filters of the scripts say about a packet, and whether a chain or the whole table lets the
packet through.
-/

namespace Syfrah

namespace Overlay

inductive EtherType
  | arp
  | ipv4
deriving DecidableEq

inductive Transport
  | tcp
  | udp
  | icmpEchoRequest
  | other
deriving DecidableEq

/-- The protocol of rules that a transport belongs to. -/
def Transport.protocol : Transport → Option Protocol
  | tcp => some .tcp
  | udp => some .udp
  | icmpEchoRequest => some .icmp
  | other => none

structure Packet where
  iifname : String
  oifname : String
  etherType : EtherType
  ctState : CtState
  transport : Transport
  dport : Fin (2 ^ 16)
  saddr : Ipv4Addr
  daddr : Ipv4Addr
deriving DecidableEq

/-- How the firewall reads the text of an address or a network. Only the plain forms are fixed: an
address stands for itself, and a network for the addresses in it. -/
structure AddressReading where
  reads : String → Ipv4Addr → Bool
  reads_addr : ∀ ip ip' : Ipv4Addr, reads ip.display ip' = (ip == ip')
  reads_net : ∀ (net : Ipv4Net) (ip : Ipv4Addr), reads net.display ip = net.contains ip

def AddressReading.strict : AddressReading where
  reads text ip := match Ipv4Net.parse text with
    | some net => net.contains ip
    | none => Ipv4Addr.parse text == some ip
  reads_addr ip ip' := by
    have hread := @Ipv4Parser.readAddr_append ip [] nofun
    have hnet : Ipv4Net.parse ip.display = none := by
      rw [List.append_nil] at hread
      simp [Ipv4Net.parse, Ipv4Parser.readNet, hread, Ipv4Parser.readGivenChar]
    simp [hnet, Ipv4Addr.parse_display]
  reads_net net ip := by simp [Ipv4Net.parse_display]

def PortExpr.contains (n : ℕ) : PortExpr → Bool
  | port m => n == m
  | range low high => low ≤ n && n ≤ high

/-- Whether a filter lets the packet pass, with the given elements in the named sets. -/
def NftMatch.holds (nft : AddressReading) (sets : String → List String) (p : Packet) :
    NftMatch → Bool
  | etherTypeArp => p.etherType == .arp
  | ctState states => states.contains p.ctState
  | oifname name => p.oifname == name
  | oifnameNot name => p.oifname != name
  | iifname name => p.iifname == name
  | iifnameNot name => p.iifname != name
  | ipSaddr cidr => p.etherType == .ipv4 && nft.reads cidr p.saddr
  | ipSaddrSet set => p.etherType == .ipv4 && (sets set).any fun e => nft.reads e p.saddr
  | ipDaddr cidr => p.etherType == .ipv4 && nft.reads cidr p.daddr
  | ipDaddrSet set => p.etherType == .ipv4 && (sets set).any fun e => nft.reads e p.daddr
  | tcpDport ports => p.etherType == .ipv4 && p.transport == .tcp && ports.contains p.dport
  | udpDport ports => p.etherType == .ipv4 && p.transport == .udp && ports.contains p.dport
  | icmpEchoRequest => p.etherType == .ipv4 && p.transport == .icmpEchoRequest

abbrev NftTable := PacketFilter.Table String NftMatch String String

/-- Chains are at most this deep inside each other. -/
def jumpStackSize : ℕ := 16

def NftTable.forwards (nft : AddressReading) (t : NftTable) (p : Packet) : Bool :=
  t.accepts (NftMatch.holds nft t.sets p) jumpStackSize forwardChain

/-- Whether rules of their own accept a packet; rules that lead nowhere else do not need a table. -/
def chainAccepts (nft : AddressReading) (sets : String → List String) (p : Packet)
    (rules : List NftRule) : Bool :=
  PacketFilter.evalRules (NftMatch.holds nft sets p) (fun _ => .through) rules == .accept

end Overlay

end Syfrah
