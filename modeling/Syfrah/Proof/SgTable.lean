import Syfrah.Overlay.Firewall

/-!
# The table after a sequence of scripts

The script of a network interface is run again whenever its rules change, and the scripts of all
interfaces work on one table. Which rules a packet between two VMs meets is followed through the base
chain, the two chains it is sent on by and the chains of the VMs.
-/

namespace Syfrah

namespace Overlay

open PacketFilter

/-! ### Names of chains -/

theorem ingressChainName_ne_egressChainName (vmId vmId' : String) :
    ingressChainName vmId ≠ egressChainName vmId' := by
  intro h
  have hlast := congrArg (fun s => s.toList.reverse.head?) h
  simp [ingressChainName, egressChainName] at hlast

theorem ingressChainName_ne (vmId : String) {shared : String}
    (hshared : shared.toList.head? ≠ some 'v') : ingressChainName vmId ≠ shared := by
  rintro rfl
  exact hshared (by simp [ingressChainName])

theorem egressChainName_ne (vmId : String) {shared : String}
    (hshared : shared.toList.head? ≠ some 'v') : egressChainName vmId ≠ shared := by
  rintro rfl
  exact hshared (by simp [egressChainName])

/-! ### Scripts in a sequence -/

/-- One use of the script: the rules of the groups of an interface, and the addresses of groups. -/
structure SgApply where
  nic : NetworkInterface
  rules : List SecurityGroupRule
  sgIpMap : List (String × List String)

def SgApply.script (a : SgApply) : List NftCommand := buildSgRuleset a.nic a.rules a.sgIpMap

/-- The table after the scripts, from an empty one. -/
def tableAfter (applies : List SgApply) : NftTable :=
  applies.foldl (fun t a => t.run a.script) .empty

def latestRules (applies : List SgApply) (nic : NetworkInterface) :
    Option (List SecurityGroupRule) :=
  (applies.filter (·.nic = nic)).getLast?.map (·.rules)

/-- Two interfaces have different VMs, chains and names. -/
def NicsDistinct (applies : List SgApply) : Prop :=
  ∀ x ∈ applies, ∀ y ∈ applies, x.nic = y.nic ∨
    x.nic.vmId ≠ y.nic.vmId ∧ ingressChainName x.nic.vmId ≠ ingressChainName y.nic.vmId ∧
      egressChainName x.nic.vmId ≠ egressChainName y.nic.vmId ∧ x.nic.ifaceName ≠ y.nic.ifaceName

def ingressDispatch (nic : NetworkInterface) : NftRule :=
  ⟨[.oifname nic.ifaceName], .jump (ingressChainName nic.vmId)⟩

def egressDispatch (nic : NetworkInterface) : NftRule :=
  ⟨[.iifname nic.ifaceName], .jump (egressChainName nic.vmId)⟩

theorem foldl_onChain_script (a : SgApply) (chain : String) (rules : List NftRule) :
    a.script.foldl (Command.onChain chain) rules =
      if egressDispatchChain = chain then rules ++ [egressDispatch a.nic]
      else if ingressDispatchChain = chain then rules ++ [ingressDispatch a.nic]
      else if egressChainName a.nic.vmId = chain then generateEgressChain a.nic a.rules
      else if ingressChainName a.nic.vmId = chain then generateIngressChain a.nic a.rules
      else if forwardChain = chain then rules ++ forwardRules
      else rules := by
  have hsets : ∀ rules : List NftRule, (a.sgIpMap.flatMap fun entry =>
      generateNamedSetInTable entry.1 entry.2).foldl (Command.onChain chain) rules = rules := by
    intro rules
    induction a.sgIpMap with
    | nil => rfl
    | cons entry entries ih =>
        rw [List.flatMap_cons, List.foldl_append]
        have hentry : (generateNamedSetInTable entry.1 entry.2).foldl (Command.onChain chain) rules =
            rules := by
          unfold generateNamedSetInTable
          split <;> rfl
        rw [hentry, ih]
  unfold SgApply.script buildSgRuleset buildSgBaseChain
  simp only [List.foldl_append, foldl_onChain_addRule, hsets, List.foldl_cons, List.foldl_nil,
    Command.onChain]
  by_cases hed : egressDispatchChain = chain
  · subst hed
    have hin : ingressChainName a.nic.vmId ≠ egressDispatchChain := ingressChainName_ne _ (by decide)
    have hout : egressChainName a.nic.vmId ≠ egressDispatchChain := egressChainName_ne _ (by decide)
    simp [hin, hout, show ingressDispatchChain ≠ egressDispatchChain by decide,
      show forwardChain ≠ egressDispatchChain by decide, egressDispatch]
  by_cases hid : ingressDispatchChain = chain
  · subst hid
    have hin : ingressChainName a.nic.vmId ≠ ingressDispatchChain := ingressChainName_ne _ (by decide)
    have hout : egressChainName a.nic.vmId ≠ ingressDispatchChain := egressChainName_ne _ (by decide)
    simp [hed, hin, hout, show forwardChain ≠ ingressDispatchChain by decide, ingressDispatch]
  by_cases hegress : egressChainName a.nic.vmId = chain
  · simp [hed, hid, hegress]
  by_cases hingress : ingressChainName a.nic.vmId = chain
  · simp [hed, hid, hegress, hingress]
  · simp [hed, hid, hegress, hingress]

theorem foldl_onChain_ingress (a : SgApply) (vmId : String) (rules : List NftRule) :
    a.script.foldl (Command.onChain (ingressChainName vmId)) rules =
      if ingressChainName a.nic.vmId = ingressChainName vmId then generateIngressChain a.nic a.rules
      else rules := by
  have hshared : ∀ shared : String, shared.toList.head? ≠ some 'v' → shared ≠ ingressChainName vmId :=
    fun _ hhead => (ingressChainName_ne vmId hhead).symm
  rw [foldl_onChain_script, if_neg (hshared egressDispatchChain (by decide)),
    if_neg (hshared ingressDispatchChain (by decide)),
    if_neg (ingressChainName_ne_egressChainName _ _).symm, if_neg (hshared forwardChain (by decide))]

theorem foldl_onChain_egress (a : SgApply) (vmId : String) (rules : List NftRule) :
    a.script.foldl (Command.onChain (egressChainName vmId)) rules =
      if egressChainName a.nic.vmId = egressChainName vmId then generateEgressChain a.nic a.rules
      else rules := by
  have hshared : ∀ shared : String, shared.toList.head? ≠ some 'v' → shared ≠ egressChainName vmId :=
    fun _ hhead => (egressChainName_ne vmId hhead).symm
  rw [foldl_onChain_script, if_neg (hshared egressDispatchChain (by decide)),
    if_neg (hshared ingressDispatchChain (by decide)),
    if_neg (ingressChainName_ne_egressChainName a.nic.vmId vmId),
    if_neg (hshared forwardChain (by decide))]

theorem foldl_onChain_forward (a : SgApply) (rules : List NftRule) :
    a.script.foldl (Command.onChain forwardChain) rules = rules ++ forwardRules := by
  rw [foldl_onChain_script, if_neg (by decide), if_neg (by decide),
    if_neg (egressChainName_ne _ (by decide)), if_neg (ingressChainName_ne _ (by decide)), if_pos rfl]

/-! ### The chains of the table -/

theorem tableAfter_concat (applies : List SgApply) (a : SgApply) :
    tableAfter (applies ++ [a]) = (tableAfter applies).run a.script := by
  simp [tableAfter]

theorem chains_concat (applies : List SgApply) (a : SgApply) (chain : String) :
    (tableAfter (applies ++ [a])).chains chain =
      a.script.foldl (Command.onChain chain) ((tableAfter applies).chains chain) := by
  rw [tableAfter_concat, Table.chains_run]

theorem chains_forward (applies : List SgApply) :
    (tableAfter applies).chains forwardChain = applies.flatMap fun _ => forwardRules := by
  induction applies using List.reverseRecOn with
  | nil => rfl
  | append_singleton applies a ih =>
      rw [chains_concat, foldl_onChain_forward, ih]
      simp

theorem chains_ingressDispatch (applies : List SgApply) :
    (tableAfter applies).chains ingressDispatchChain =
      applies.map fun a => ingressDispatch a.nic := by
  induction applies using List.reverseRecOn with
  | nil => rfl
  | append_singleton applies a ih =>
      rw [chains_concat, foldl_onChain_script, ih]
      simp [show egressDispatchChain ≠ ingressDispatchChain by decide]

theorem chains_egressDispatch (applies : List SgApply) :
    (tableAfter applies).chains egressDispatchChain =
      applies.map fun a => egressDispatch a.nic := by
  induction applies using List.reverseRecOn with
  | nil => rfl
  | append_singleton applies a ih =>
      rw [chains_concat, foldl_onChain_script, ih]
      simp

theorem policy_forward (applies : List SgApply) :
    (tableAfter applies).policy forwardChain ≠ some .accept := by
  induction applies using List.reverseRecOn with
  | nil => nofun
  | append_singleton applies a ih =>
      rw [tableAfter_concat]
      refine Table.policy_run_ne_accept (fun c policy hmem => ?_) ih
      have hsets : ∀ entry : String × List String,
          Command.addBaseChain c policy ∉ generateNamedSetInTable entry.1 entry.2 := by
        intro entry
        unfold generateNamedSetInTable
        split <;> simp
      have hbase : Command.addBaseChain c policy ∈ buildSgBaseChain := by
        simpa [SgApply.script, buildSgRuleset, hsets] using hmem
      simp [buildSgBaseChain] at hbase
      exact hbase.2

theorem NicsDistinct.of_concat {applies : List SgApply} {a : SgApply}
    (h : NicsDistinct (applies ++ [a])) : NicsDistinct applies := fun x hx y hy =>
  h x (List.mem_append_left _ hx) y (List.mem_append_left _ hy)

theorem exists_of_latestRules {applies : List SgApply} {nic : NetworkInterface}
    {rules : List SecurityGroupRule} (h : latestRules applies nic = some rules) :
    ∃ x ∈ applies, x.nic = nic := by
  obtain ⟨x, hlast, -⟩ := Option.map_eq_some_iff.mp h
  have hmem := List.mem_filter.mp (List.mem_of_getLast? hlast)
  exact ⟨x, hmem.1, by simpa using hmem.2⟩

theorem chains_vm {applies : List SgApply} (hdistinct : NicsDistinct applies)
    {nic : NetworkInterface} {rules : List SecurityGroupRule}
    (hrules : latestRules applies nic = some rules) :
    (tableAfter applies).chains (ingressChainName nic.vmId) = generateIngressChain nic rules ∧
      (tableAfter applies).chains (egressChainName nic.vmId) = generateEgressChain nic rules := by
  induction applies using List.reverseRecOn with
  | nil => simp [latestRules] at hrules
  | append_singleton applies a ih =>
      rw [chains_concat, chains_concat, foldl_onChain_ingress, foldl_onChain_egress]
      by_cases hnic : a.nic = nic
      · subst hnic
        obtain rfl : a.rules = rules := by simpa [latestRules] using hrules
        simp
      · have hbefore : latestRules applies nic = some rules := by
          simpa [latestRules, hnic] using hrules
        obtain ⟨x, hx, rfl⟩ := exists_of_latestRules hbefore
        obtain hsame | ⟨-, hin, hout, -⟩ := hdistinct a (by simp) x (by simp [hx])
        · exact absurd hsame hnic
        · rw [if_neg hin, if_neg hout]
          exact ih hdistinct.of_concat hbefore

/-! ### A packet in the table -/

section Packet

variable (nft : AddressReading) (sets : String → List String) {p : Packet}
  (enter : String → Outcome)

theorem verdict_of_mem_ingress {rules : List SecurityGroupRule} {rule : NftRule}
    (h : rule ∈ (ofDirection .ingress rules).filterMap translateRule) : rule.verdict = .accept := by
  obtain ⟨_, -, htranslate⟩ := List.mem_filterMap.mp h
  obtain ⟨-, hrule⟩ := Option.ite_none_right_eq_some.mp htranslate
  exact Option.some.inj hrule ▸ rfl

theorem verdict_of_mem_egress {rules : List SecurityGroupRule} {rule : NftRule}
    (h : rule ∈ (ofDirection .egress rules).filterMap translateEgressRule) :
    rule.verdict = .accept := by
  obtain ⟨_, -, htranslate⟩ := List.mem_filterMap.mp h
  obtain ⟨-, hrule⟩ := Option.ite_none_right_eq_some.mp htranslate
  exact Option.some.inj hrule ▸ rfl

theorem evalRules_ingress (nic : NetworkInterface) (rules : List SecurityGroupRule) :
    evalRules (NftMatch.holds nft sets p) enter (generateIngressChain nic rules) =
      if chainAccepts nft sets p (generateIngressChain nic rules) then .accept else .drop := by
  unfold chainAccepts generateIngressChain
  rw [evalRules_accepting_append_drop fun _ => verdict_of_mem_ingress,
    evalRules_accepting_append_drop fun _ => verdict_of_mem_ingress]
  split <;> rfl

theorem evalRules_egress (nic : NetworkInterface) (rules : List SecurityGroupRule) :
    evalRules (NftMatch.holds nft sets p) enter (generateEgressChain nic rules) =
      if chainAccepts nft sets p (generateEgressChain nic rules) then .accept else .drop := by
  unfold chainAccepts generateEgressChain
  dsimp only
  split
  · simp [evalRules, Rule.matches]
  · rw [evalRules_accepting_append_drop fun _ => verdict_of_mem_egress,
      evalRules_accepting_append_drop fun _ => verdict_of_mem_egress]
    split <;> rfl

theorem evalRules_forward {α : Type} (hip : p.etherType = .ipv4) (hnew : p.ctState = .new)
    {copies : List α} (hne : copies ≠ []) :
    evalRules (NftMatch.holds nft sets p) enter (copies.flatMap fun _ => forwardRules) =
      if p.oifname ≠ "lo" then enter ingressDispatchChain
      else if p.iifname ≠ "lo" then enter egressDispatchChain
      else .through := by
  have hcopy : ∀ rest : List NftRule,
      evalRules (NftMatch.holds nft sets p) enter (forwardRules ++ rest) =
        if p.oifname ≠ "lo" then enter ingressDispatchChain
        else if p.iifname ≠ "lo" then enter egressDispatchChain
        else evalRules (NftMatch.holds nft sets p) enter rest := by
    intro rest
    simp [forwardRules, evalRules, Rule.matches, NftMatch.holds, hip, hnew]
  induction copies with
  | nil => exact absurd rfl hne
  | cons a copies ih =>
      rw [List.flatMap_cons, hcopy]
      cases copies with
      | nil => rfl
      | cons a' copies =>
          rw [ih (List.cons_ne_nil _ _)]
          split_ifs <;> rfl

variable {nft sets enter} {applies : List SgApply} {nic : NetworkInterface}

theorem evalRules_byInterface (hdistinct : NicsDistinct applies)
    (hnic : ∃ x ∈ applies, x.nic = nic) (rule : NetworkInterface → NftRule)
    (chain : String → String)
    (hjump : ∀ nic, (rule nic).verdict = .jump (chain nic.vmId))
    (hmatch : ∀ nic', (rule nic').matches (NftMatch.holds nft sets p) =
      (nic.ifaceName == nic'.ifaceName))
    (henter : enter (chain nic.vmId) ≠ .through) :
    evalRules (NftMatch.holds nft sets p) enter (applies.map fun a => rule a.nic) =
      enter (chain nic.vmId) := by
  obtain ⟨x, hx, rfl⟩ := hnic
  refine evalRules_dispatch henter ?_ ⟨rule x.nic, List.mem_map.mpr ⟨x, hx, rfl⟩, by simp [hmatch]⟩
  simp only [List.mem_map]
  rintro _ ⟨y, hy, rfl⟩ hy'
  rw [hmatch, beq_iff_eq] at hy'
  obtain hsame | ⟨-, -, -, hother⟩ := hdistinct x hx y hy
  · rw [hjump, hsame]
  · exact absurd hy' hother

variable (nft sets) {rules : List SecurityGroupRule}

theorem evalChain_ingressDispatch (hdistinct : NicsDistinct applies)
    (hrules : latestRules applies nic = some rules) (hout : p.oifname = nic.ifaceName) (depth : ℕ) :
    evalChain (NftMatch.holds nft sets p) (tableAfter applies).chains (depth + 2)
        ingressDispatchChain =
      if chainAccepts nft sets p (generateIngressChain nic rules) then .accept else .drop := by
  have hvm : evalChain (NftMatch.holds nft sets p) (tableAfter applies).chains (depth + 1)
      (ingressChainName nic.vmId) =
        if chainAccepts nft sets p (generateIngressChain nic rules) then .accept else .drop := by
    rw [evalChain, (chains_vm hdistinct hrules).1, evalRules_ingress]
  rw [evalChain, chains_ingressDispatch, evalRules_byInterface hdistinct
    (exists_of_latestRules hrules) ingressDispatch ingressChainName fun _ => rfl, hvm]
  · simp [Rule.matches, ingressDispatch, NftMatch.holds, hout]
  · rw [hvm]
    split <;> simp

theorem evalChain_egressDispatch (hdistinct : NicsDistinct applies)
    (hrules : latestRules applies nic = some rules) (hin : p.iifname = nic.ifaceName) (depth : ℕ) :
    evalChain (NftMatch.holds nft sets p) (tableAfter applies).chains (depth + 2)
        egressDispatchChain =
      if chainAccepts nft sets p (generateEgressChain nic rules) then .accept else .drop := by
  have hvm : evalChain (NftMatch.holds nft sets p) (tableAfter applies).chains (depth + 1)
      (egressChainName nic.vmId) =
        if chainAccepts nft sets p (generateEgressChain nic rules) then .accept else .drop := by
    rw [evalChain, (chains_vm hdistinct hrules).2, evalRules_egress]
  rw [evalChain, chains_egressDispatch, evalRules_byInterface hdistinct
    (exists_of_latestRules hrules) egressDispatch egressChainName fun _ => rfl, hvm]
  · simp [Rule.matches, egressDispatch, NftMatch.holds, hin]
  · rw [hvm]
    split <;> simp

end Packet

/-- A new packet that goes from the interface of one VM to that of another. -/
structure Packet.Between (p : Packet) (a b : NetworkInterface) : Prop where
  iifname : p.iifname = a.ifaceName
  oifname : p.oifname = b.ifaceName
  etherType : p.etherType = .ipv4
  ctState : p.ctState = .new

/-- **One end decides.** The table asks the rules for traffic to the receiver, and those for traffic
from the sender only when the packet leaves through the loopback interface. -/
theorem forwards_eq (nft : AddressReading) {applies : List SgApply}
    (hdistinct : NicsDistinct applies) {a b : NetworkInterface}
    {rulesA rulesB : List SecurityGroupRule} (ha : latestRules applies a = some rulesA)
    (hb : latestRules applies b = some rulesB) {p : Packet} (hp : p.Between a b) :
    (tableAfter applies).forwards nft p =
      if b.ifaceName ≠ "lo" then
        chainAccepts nft (tableAfter applies).sets p (generateIngressChain b rulesB)
      else if a.ifaceName ≠ "lo" then
        chainAccepts nft (tableAfter applies).sets p (generateEgressChain a rulesA)
      else false := by
  have hne : applies ≠ [] := by
    rintro rfl
    simp [latestRules] at ha
  have hpolicy : ((tableAfter applies).policy forwardChain == some .accept) = false := by
    simpa using policy_forward applies
  have hto := evalChain_ingressDispatch nft (tableAfter applies).sets hdistinct hb hp.oifname 13
  have hfrom := evalChain_egressDispatch nft (tableAfter applies).sets hdistinct ha hp.iifname 13
  unfold NftTable.forwards Table.accepts jumpStackSize
  rw [evalChain, chains_forward, evalRules_forward nft _ _ hp.etherType hp.ctState hne, hto, hfrom,
    hp.oifname, hp.iifname, hpolicy]
  split_ifs <;> simp_all

/-- **Both ends of a flow.** A packet that gets through is accepted by the rules of both ends just
when the end that is not asked agrees with the one that is. -/
theorem accepted_by_both_iff (nft : AddressReading) {applies : List SgApply}
    (hdistinct : NicsDistinct applies) {a b : NetworkInterface}
    {rulesA rulesB : List SecurityGroupRule} (ha : latestRules applies a = some rulesA)
    (hb : latestRules applies b = some rulesB) {p : Packet} (hp : p.Between a b) :
    ((tableAfter applies).forwards nft p = true →
      chainAccepts nft (tableAfter applies).sets p (generateEgressChain a rulesA) = true ∧
        chainAccepts nft (tableAfter applies).sets p (generateIngressChain b rulesB) = true) ↔
      (b.ifaceName ≠ "lo" →
        chainAccepts nft (tableAfter applies).sets p (generateIngressChain b rulesB) = true →
          chainAccepts nft (tableAfter applies).sets p (generateEgressChain a rulesA) = true) ∧
      (b.ifaceName = "lo" → a.ifaceName ≠ "lo" →
        chainAccepts nft (tableAfter applies).sets p (generateEgressChain a rulesA) = true →
          chainAccepts nft (tableAfter applies).sets p (generateIngressChain b rulesB) = true) := by
  rw [forwards_eq nft hdistinct ha hb hp]
  split_ifs <;> simp_all

instance (applies : List SgApply) : Decidable (NicsDistinct applies) := by
  unfold NicsDistinct
  infer_instance

def senderNic : NetworkInterface where
  id := "nic-1"
  vmId := "vm-1"
  privateIp := .ofOctets 10 1 0 5
  mac := "02:00:0a:01:00:05"
  securityGroups := ["sg-1"]
  ifaceName := "syft-1"

def receiverNic : NetworkInterface where
  id := "nic-2"
  vmId := "vm-2"
  privateIp := .ofOctets 10 1 0 6
  mac := "02:00:0a:01:00:06"
  securityGroups := ["sg-1"]
  ifaceName := "syft-2"

def openRule (direction : Direction) (protocol : Protocol) : SecurityGroupRule where
  id := "rule-1"
  sgId := "sg-1"
  direction := direction
  protocol := protocol
  portRange := none
  source := .cidr "0.0.0.0/0"
  priority := 100
  description := ""
  createdAt := 0

def sshPacket : Packet where
  iifname := "syft-1"
  oifname := "syft-2"
  etherType := .ipv4
  ctState := .new
  transport := .tcp
  dport := 22
  saddr := .ofOctets 10 1 0 5
  daddr := .ofOctets 10 1 0 6

/-- Scripts for both VMs: the receiver takes TCP, the sender has the given rules. -/
def twoVms (rules : List SecurityGroupRule) : List SgApply :=
  [⟨senderNic, rules, []⟩, ⟨receiverNic, [openRule .ingress .tcp], []⟩]

theorem accepted_by_both_two_vms :
    NicsDistinct (twoVms []) ∧ latestRules (twoVms []) senderNic = some [] ∧
      latestRules (twoVms []) receiverNic = some [openRule .ingress .tcp] ∧
      (tableAfter (twoVms [])).forwards .strict sshPacket = true ∧
      chainAccepts .strict (tableAfter (twoVms [])).sets sshPacket
        (generateEgressChain senderNic []) = true := by
  have hdistinct : NicsDistinct (twoVms []) := by decide +kernel
  have hforwards : (tableAfter (twoVms [])).forwards .strict sshPacket = true := by decide +kernel
  have hboth := (accepted_by_both_iff .strict hdistinct (a := senderNic) (b := receiverNic)
    (p := sshPacket) rfl rfl ⟨rfl, rfl, rfl, rfl⟩).mpr
      ⟨by decide +kernel, by decide +kernel⟩ hforwards
  exact ⟨hdistinct, rfl, rfl, hforwards, hboth.1⟩

/-- A sender that may only use UDP reaches the receiver with TCP. -/
theorem sender_rules_not_asked :
    NicsDistinct (twoVms [openRule .egress .udp]) ∧
      latestRules (twoVms [openRule .egress .udp]) senderNic = some [openRule .egress .udp] ∧
      sshPacket.Between senderNic receiverNic ∧
      (tableAfter (twoVms [openRule .egress .udp])).forwards .strict sshPacket = true ∧
      chainAccepts .strict (tableAfter (twoVms [openRule .egress .udp])).sets sshPacket
        (generateEgressChain senderNic [openRule .egress .udp]) = false :=
  ⟨by decide +kernel, rfl, ⟨rfl, rfl, rfl, rfl⟩, by decide +kernel, by decide +kernel⟩

end Overlay

end Syfrah
