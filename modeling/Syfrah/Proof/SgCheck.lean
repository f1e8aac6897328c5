import Syfrah.Proof.RuleRequests
import Syfrah.Proof.SgTable

/-!
# The check of the API and the firewall

The API says whether traffic to a VM would be let through, and the firewall lets it through or not.
Both go through the rules of the security groups, each with its own reading of a rule. The two
readings are compared rule by rule.
-/

namespace Syfrah

open OrgApi Overlay PacketFilter

/-! ### Both readings as a matter of single rules -/

theorem evaluateRules_allowed_iff (rules : List SecurityGroupRule) (port : ℕ) (protocol : Protocol)
    (ip : String) : (evaluateRules rules port protocol ip).1 = "ALLOWED" ↔
      ∃ rule ∈ rules, rule.direction = .ingress ∧ ruleMatches rule port protocol ip = true := by
  unfold evaluateRules
  dsimp only
  split
  · rename_i rule hfind
    have hmem := List.mem_of_find?_eq_some hfind
    simp only [List.mem_insertionSort, List.mem_filter, beq_iff_eq] at hmem
    have hmatch : ruleMatches rule port protocol ip = true := by
      simpa using List.find?_some hfind
    exact ⟨fun _ => ⟨rule, hmem.1, hmem.2, hmatch⟩, fun _ => rfl⟩
  · rename_i hfind
    refine ⟨fun h => absurd h (by decide), ?_⟩
    rintro ⟨rule, hrule, hingress, hmatch⟩
    simp only [List.find?_eq_none, List.mem_insertionSort, List.mem_filter, beq_iff_eq] at hfind
    exact absurd hmatch (hfind rule ⟨hrule, hingress⟩)

def ingressRule (rule : SecurityGroupRule) : NftRule :=
  ⟨addressFilter .ipSaddr .ipSaddrSet (convertOrgRuleToOverlay rule).source ++
    protocolFilter (convertOrgRuleToOverlay rule), .accept⟩

theorem chainAccepts_ingress_iff (nft : AddressReading) (sets : String → List String) (p : Packet)
    (nic : Overlay.NetworkInterface) (rules : List SecurityGroupRule) :
    chainAccepts nft sets p (generateIngressChain nic (rules.map convertOrgRuleToOverlay)) = true ↔
      ∃ rule ∈ rules, rule.direction = .ingress ∧
        (ingressRule rule).matches (NftMatch.holds nft sets p) = true := by
  have hverdict : ∀ b : Bool, ((if b then Outcome.accept else .drop) == .accept) = b := by decide
  unfold chainAccepts generateIngressChain
  rw [evalRules_accepting_append_drop fun _ => verdict_of_mem_ingress, hverdict, List.any_eq_true]
  simp only [List.mem_filterMap, ofDirection, List.mem_insertionSort, List.mem_filter, List.mem_map]
  constructor
  · rintro ⟨_, ⟨_, ⟨⟨rule, hrule, rfl⟩, -⟩, htranslate⟩, hmatch⟩
    obtain ⟨hingress, hsome⟩ := Option.ite_none_right_eq_some.mp htranslate
    obtain rfl := Option.some.inj hsome
    exact ⟨rule, hrule, hingress, hmatch⟩
  · rintro ⟨rule, hrule, hingress, hmatch⟩
    exact ⟨ingressRule rule, ⟨_, ⟨⟨rule, hrule, rfl⟩, beq_iff_eq.mpr hingress⟩, if_pos hingress⟩,
      hmatch⟩

/-! ### The named sets -/

def groupSets (members : List (SecurityGroupId × List Ipv4Addr)) : String → List String :=
  ((.empty : NftTable).run (members.flatMap fun entry =>
    generateNamedSetInTable entry.1 (entry.2.map Ipv4Addr.display))).sets

/-- The address is in the named set of the group: sets have hashed names, so the members of two
groups may end up in one. -/
def InGroup (members : List (SecurityGroupId × List Ipv4Addr)) (sg : SecurityGroupId)
    (ip : Ipv4Addr) : Prop :=
  ∃ entry ∈ members, sgSetName entry.1 = sgSetName sg ∧ ip ∈ entry.2

theorem foldl_onSet_generateNamedSetInTable (set name : String) (elements ips : List String) :
    (generateNamedSetInTable name ips).foldl (Command.onSet set) elements =
      if sgSetName name = set then elements ++ ips else elements := by
  cases ips with
  | nil => simp [generateNamedSetInTable, Command.onSet]
  | cons ip ips => simp [generateNamedSetInTable, Command.onSet]

theorem any_groupSets_iff (nft : AddressReading) (members : List (SecurityGroupId × List Ipv4Addr))
    (sg : SecurityGroupId) (ip : Ipv4Addr) :
    ((groupSets members (sgSetName sg)).any fun e => nft.reads e ip) = true ↔
      InGroup members sg ip := by
  unfold groupSets
  rw [Table.sets_run]
  have hstep : ∀ elements : List String,
      ((members.flatMap fun entry => generateNamedSetInTable entry.1
        (entry.2.map Ipv4Addr.display)).foldl (Command.onSet (sgSetName sg)) elements).any
          (fun e => nft.reads e ip) = true ↔
        elements.any (fun e => nft.reads e ip) = true ∨ InGroup members sg ip := by
    induction members with
    | nil => simp [InGroup]
    | cons entry members ih =>
        intro elements
        rw [List.flatMap_cons, List.foldl_append, ih, foldl_onSet_generateNamedSetInTable]
        split <;> simp_all [InGroup, nft.reads_addr, or_assoc]
  simpa [Table.empty] using hstep []

/-! ### Networks as texts -/

theorem parseUnsigned_prefixLen : ∀ len : Fin 33,
    Text.parseUnsigned (2 ^ 32) (toString len.val) = some len.val ∧
      (toString len.val).toList.contains '/' = false := by
  decide +kernel

theorem cidrContains_display (net : Ipv4Net) (ip : Ipv4Addr) :
    cidrContains net.display ip.display = net.contains ip := by
  have hsplit : Text.splitOnce '/' net.display = some (net.addr.display, toString net.prefixLen.val) :=
    Text.splitOnce_of_toList (by simp [Ipv4Net.display]) (Ipv4Addr.slash_not_mem_display _)
  obtain ⟨hlen, hslash⟩ := parseUnsigned_prefixLen net.prefixLen
  rw [Bool.eq_iff_iff, Ipv4Net.contains_iff]
  simp only [cidrContains, hsplit, hslash, Ipv4Addr.parse_display, hlen]
  by_cases hzero : net.prefixLen.val = 0
  · have hsize : net.size = 2 ^ 32 := by simp [Ipv4Net.size, hzero]
    rw [hsize, Nat.div_eq_of_lt ip.isLt, Nat.div_eq_of_lt net.addr.isLt]
    simp [hzero]
  · have hnetwork : net.network = (⟨ip, net.prefixLen⟩ : Ipv4Net).network ↔
        ip.val / net.size = net.addr.val / net.size := by
      rw [Fin.ext_iff]
      change net.addr.val / net.size * net.size = ip.val / net.size * net.size ↔ _
      rw [Nat.mul_left_inj net.size_pos.ne', eq_comm]
    simpa [hzero] using hnetwork

/-! ### One rule -/

section OneRule

variable (nft : AddressReading) (members : List (SecurityGroupId × List Ipv4Addr)) (p : Packet)
  (protocol : Protocol) (rule : SecurityGroupRule)

def OddText (text : String) : Prop := ∀ net : Ipv4Net, net.display ≠ text

def SecurityGroupRule.ProtocolOk : Prop := rule.protocol = .all ∨ rule.protocol = protocol

def SecurityGroupRule.PortOk : Prop := ∀ pr ∈ rule.portRange, pr.Covers p.dport

/-- The firewall lets the source of the packet pass. -/
def SecurityGroupRule.SourceOk : Prop :=
  match rule.source with
  | .cidr text => text = "0.0.0.0/0" ∨ nft.reads text p.saddr = true
  | .securityGroup sg => InGroup members sg p.saddr

/-- The check and the firewall both take the rule for one that matches. -/
def SecurityGroupRule.Plain : Prop :=
  rule.ProtocolOk protocol ∧ rule.PortOk p ∧ rule.SourceOk nft members p ∧
    ∀ text, rule.source = .cidr text → text = "0.0.0.0/0" ∨ cidrContains text p.saddr.display = true

/-- Only the check does: the packet is from no member of the source group, or the firewall reads an
odd text for the source in another way. -/
def SecurityGroupRule.ChecksMore : Prop :=
  rule.ProtocolOk protocol ∧ rule.PortOk p ∧
    match rule.source with
    | .cidr text => OddText text ∧ cidrContains text p.saddr.display = true ∧
        nft.reads text p.saddr = false
    | .securityGroup sg => ¬ InGroup members sg p.saddr

/-- Only the firewall does: the rule is for ICMP or all protocols and restricts ports, which the
firewall leaves out, or the source is an odd text. -/
def SecurityGroupRule.FiltersMore : Prop :=
  rule.ProtocolOk protocol ∧ rule.SourceOk nft members p ∧
    ((rule.protocol = .icmp ∨ rule.protocol = .all) ∧ ¬ rule.PortOk p ∨
      rule.PortOk p ∧ ∃ text, rule.source = .cidr text ∧ OddText text ∧
        cidrContains text p.saddr.display = false)

variable {nft members p protocol rule}

theorem Overlay.AddressReading.oddText_of_reads_ne (nft : AddressReading) {text : String} (ip : Ipv4Addr)
    (h : nft.reads text ip ≠ cidrContains text ip.display) : OddText text := by
  rintro net rfl
  exact h ((nft.reads_net net ip).trans (cidrContains_display net ip).symm)

theorem ruleMatches_iff :
    ruleMatches rule p.dport protocol p.saddr.display = true ↔
      rule.ProtocolOk protocol ∧ rule.PortOk p ∧ ∀ text, rule.source = .cidr text →
        text = "0.0.0.0/0" ∨ cidrContains text p.saddr.display = true := by
  unfold ruleMatches SecurityGroupRule.ProtocolOk SecurityGroupRule.PortOk
  cases rule.portRange <;> cases rule.source <;> simp [PortRange.Covers, and_assoc]

theorem ruleMatches_iff_plain_or :
    ruleMatches rule p.dport protocol p.saddr.display = true ↔
      rule.Plain nft members p protocol ∨ rule.ChecksMore nft members p protocol := by
  rw [ruleMatches_iff]
  constructor
  · rintro ⟨hproto, hport, hsource⟩
    by_cases hok : rule.SourceOk nft members p
    · exact .inl ⟨hproto, hport, hok, hsource⟩
    · refine .inr ⟨hproto, hport, ?_⟩
      unfold SecurityGroupRule.SourceOk at hok
      cases hs : rule.source with
      | cidr text =>
          simp only [hs, not_or, Bool.not_eq_true] at hok
          have hcheck := (hsource text hs).resolve_left hok.1
          exact ⟨nft.oddText_of_reads_ne p.saddr (by simp [hcheck, hok.2]), hcheck, hok.2⟩
      | securityGroup sg => simpa only [hs] using hok
  · rintro (⟨hproto, hport, -, hsource⟩ | ⟨hproto, hport, hmore⟩)
    · exact ⟨hproto, hport, hsource⟩
    · refine ⟨hproto, hport, fun text hs => .inr ?_⟩
      simp only [hs] at hmore
      exact hmore.2.1

theorem portExpr_contains_iff (pr : Option PortRange) (port : Fin (2 ^ 16)) :
    (portExpr pr).contains port = true ↔ ∀ range ∈ pr, range.Covers port := by
  cases pr with
  | none => simp [portExpr, PortExpr.contains]; omega
  | some pr =>
      by_cases hsingle : pr.fromPort = pr.toPort
      · simp [portExpr, PortExpr.contains, hsingle, PortRange.Covers]; omega
      · simp [portExpr, PortExpr.contains, hsingle, PortRange.Covers]

theorem protocolFilter_iff (hip : p.etherType = .ipv4) (hp : p.transport.protocol = some protocol)
    (sets : String → List String) :
    (protocolFilter (convertOrgRuleToOverlay rule)).all (NftMatch.holds nft sets p) = true ↔
      rule.ProtocolOk protocol ∧
        ((rule.protocol = .icmp ∨ rule.protocol = .all) ∨ rule.PortOk p) := by
  have hports := portExpr_contains_iff rule.portRange p.dport
  unfold protocolFilter convertOrgRuleToOverlay SecurityGroupRule.ProtocolOk SecurityGroupRule.PortOk
  cases hrule : rule.protocol <;> cases ht : p.transport <;> rw [ht] at hp <;> cases hp <;>
    simp [NftMatch.holds, hip, ht, hports]

theorem addressFilter_iff (hip : p.etherType = .ipv4) :
    (addressFilter .ipSaddr .ipSaddrSet (convertOrgRuleToOverlay rule).source).all
      (NftMatch.holds nft (groupSets members) p) = true ↔ rule.SourceOk nft members p := by
  unfold SecurityGroupRule.SourceOk convertOrgRuleToOverlay addressFilter
  cases rule.source with
  | cidr text => by_cases hany : text = "0.0.0.0/0" <;> simp [hany, NftMatch.holds, hip]
  | securityGroup sg => simpa [NftMatch.holds, hip] using any_groupSets_iff nft members sg p.saddr

theorem ingressRule_matches_iff (hip : p.etherType = .ipv4)
    (hp : p.transport.protocol = some protocol) :
    (ingressRule rule).matches (NftMatch.holds nft (groupSets members) p) = true ↔
      rule.Plain nft members p protocol ∨ rule.FiltersMore nft members p protocol := by
  unfold Rule.matches ingressRule
  rw [List.all_append, Bool.and_eq_true, addressFilter_iff hip, protocolFilter_iff hip hp]
  constructor
  · rintro ⟨hsource, hproto, hports⟩
    by_cases hport : rule.PortOk p
    · by_cases hplain : rule.Plain nft members p protocol
      · exact .inl hplain
      · simp only [SecurityGroupRule.Plain, hproto, hport, hsource, true_and, not_forall,
          not_or, Bool.not_eq_true] at hplain
        obtain ⟨text, hs, hany, hcheck⟩ := hplain
        have hreads : nft.reads text p.saddr = true := by
          simpa [SecurityGroupRule.SourceOk, hs, hany] using hsource
        exact .inr ⟨hproto, hsource, .inr ⟨hport, text, hs,
          nft.oddText_of_reads_ne p.saddr (by simp [hreads, hcheck]), hcheck⟩⟩
    · exact .inr ⟨hproto, hsource, .inl ⟨hports.resolve_right hport, hport⟩⟩
  · rintro (⟨hproto, hport, hsource, -⟩ | ⟨hproto, hsource, ⟨hkind, -⟩ | ⟨hport, -⟩⟩)
    · exact ⟨hsource, hproto, .inr hport⟩
    · exact ⟨hsource, hproto, .inl hkind⟩
    · exact ⟨hsource, hproto, .inr hport⟩

end OneRule

/-! ### All rules -/

/-- Some rule matches in both readings, or rules that match in only one of them are on both sides or
on neither. -/
def ReadAlike (nft : AddressReading) (members : List (SecurityGroupId × List Ipv4Addr)) (p : Packet)
    (protocol : Protocol) (rules : List SecurityGroupRule) : Prop :=
  (∃ rule ∈ rules, rule.direction = .ingress ∧ rule.Plain nft members p protocol) ∨
    ((∃ rule ∈ rules, rule.direction = .ingress ∧ rule.ChecksMore nft members p protocol) ↔
      ∃ rule ∈ rules, rule.direction = .ingress ∧ rule.FiltersMore nft members p protocol)

/-- **The check against the firewall.** The check says what the firewall does if the rules are read
alike, and only then. -/
theorem check_eq_firewall_iff (nft : AddressReading)
    (members : List (SecurityGroupId × List Ipv4Addr)) (nic : Overlay.NetworkInterface)
    (rules : List SecurityGroupRule) (p : Packet) (protocol : Protocol)
    (hip : p.etherType = .ipv4) (hp : p.transport.protocol = some protocol) :
    ((evaluateRules rules p.dport protocol p.saddr.display).1 = "ALLOWED" ↔
      chainAccepts nft (groupSets members) p
        (generateIngressChain nic (rules.map convertOrgRuleToOverlay)) = true) ↔
      ReadAlike nft members p protocol rules := by
  have hcheck : ∀ rule : SecurityGroupRule,
      ruleMatches rule p.dport protocol p.saddr.display = true ↔
        rule.Plain nft members p protocol ∨ rule.ChecksMore nft members p protocol :=
    fun _ => ruleMatches_iff_plain_or
  rw [evaluateRules_allowed_iff, chainAccepts_ingress_iff]
  simp only [hcheck, ingressRule_matches_iff hip hp, ReadAlike, and_or_left, exists_or]
  by_cases hplain : ∃ rule ∈ rules, rule.direction = .ingress ∧ rule.Plain nft members p protocol
  · simp only [hplain, true_or]
  · simp only [hplain, false_or]

def sshRule : SecurityGroupRule where
  id := "rule-1"
  sgId := "sg-1"
  direction := .ingress
  protocol := .tcp
  portRange := some ⟨22, 22⟩
  source := .cidr "10.1.0.0/16"
  priority := 100
  description := none

theorem check_eq_firewall_sample :
    sshPacket.etherType = .ipv4 ∧ sshPacket.transport.protocol = some .tcp ∧
      (((evaluateRules [sshRule] sshPacket.dport .tcp sshPacket.saddr.display).1 =
          "ALLOWED" ↔
        chainAccepts .strict (groupSets []) sshPacket
          (generateIngressChain receiverNic [convertOrgRuleToOverlay sshRule]) = true) ↔
        ReadAlike .strict [] sshPacket .tcp [sshRule]) :=
  ⟨rfl, rfl, check_eq_firewall_iff .strict [] receiverNic [sshRule] sshPacket .tcp rfl rfl⟩

/-- The port of a rule for all protocols: the check looks at it, the firewall does not. -/
theorem check_denies_what_firewall_accepts :
    ¬ ((evaluateRules [{ sshRule with protocol := .all, portRange := some ⟨80, 80⟩ }]
          sshPacket.dport .tcp sshPacket.saddr.display).1 = "ALLOWED" ↔
      chainAccepts .strict (groupSets []) sshPacket (generateIngressChain receiverNic
        [convertOrgRuleToOverlay { sshRule with protocol := .all, portRange := some ⟨80, 80⟩ }])
          = true) := by
  decide +kernel

end Syfrah
