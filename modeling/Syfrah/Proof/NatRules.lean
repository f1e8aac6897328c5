import Syfrah.Lib.Except
import Syfrah.Lib.Run
import Syfrah.Org.NatGateway

/-!
# Which rules a NAT gateway removes

The tag of a VPC is searched for in whole lines of the listing. There is one colon in the line of a
rule, the one of its own tag, so that the tag of another VPC is found in it just in case the name of
that VPC is the beginning of the name in the comment.
-/

namespace Syfrah

theorem Ipv4Net.notMem_display {c : Char} (hdigit : c.isDigit = false) (hdot : c ≠ '.')
    (hslash : c ≠ '/') (net : Ipv4Net) : c ∉ net.display.toList := by
  have hnumber : ∀ n : ℕ, c ∉ (toString n).toList := fun n => by
    rw [Text.toList_toString]
    exact Text.notMem_toDigits hdigit n
  simp only [Ipv4Net.display, Ipv4Addr.display, String.toList_append, List.mem_append, hnumber,
    or_false, false_or]
  simp [hdot, hslash]

namespace NatRule

variable {rule : NatRule} {v w : String}

def beforeTag (rule : NatRule) : List Char :=
  (s!"\t\tip saddr {rule.saddr.display} oifname \"{rule.oifname.name}\" masquerade comment \"").toList ++
    "nat-gw".toList

theorem toList_line (hcomment : rule.comment = natGwTag v) :
    rule.line.toList = rule.beforeTag ++ ':' :: (v.toList ++ Text.quote ::
      (" # handle ".toList ++ (toString rule.handle).toList)) := by
  delta line beforeTag natGwTag at hcomment ⊢
  simp only [hcomment, String.toList_append, toString, List.append_assoc]
  rfl

theorem colon_notMem_beforeTag : ':' ∉ rule.beforeTag := by
  have hname : ':' ∉ rule.oifname.name.toList := fun hmem => by
    simpa using List.all_eq_true.mp rule.oifname.plain ':' hmem
  have haddr := Ipv4Net.notMem_display (c := ':') (by decide) (by decide) (by decide) rule.saddr
  have htexts : ':' ∉ "\t\tip saddr ".toList ∧ ':' ∉ " oifname \"".toList ∧
      ':' ∉ "\" masquerade comment \"".toList ∧ ':' ∉ "nat-gw".toList := by decide
  simp only [beforeTag, String.toList_append, toString, List.mem_append, not_or]
  exact ⟨⟨⟨⟨⟨htexts.1, haddr⟩, htexts.2.1⟩, hname⟩, htexts.2.2.1⟩, htexts.2.2.2⟩

/-- **The tag of one VPC in the rule of another.** It is found there just in case the one name begins
with the other. -/
theorem contains_line_iff (hcomment : rule.comment = natGwTag v)
    (hv : validateName v "vpc" = .ok ()) (hw : validateName w "vpc" = .ok ()) :
    Text.contains rule.line (natGwTag w) = true ↔ w.toList <+: v.toList := by
  have htag : (natGwTag w).toList = "nat-gw".toList ++ ':' :: w.toList := by
    simp only [natGwTag, String.toList_append, toString]
    rfl
  have hrest : ':' ∉ v.toList ++ Text.quote :: (" # handle ".toList ++ (toString rule.handle).toList) := by
    have hname := notMem_of_validateName hv (c := ':') (by decide)
    have htexts : ':' ∉ " # handle ".toList ∧ ':' ≠ Text.quote := by decide
    have hdigits := Text.notMem_toDigits (c := ':') (by decide) rule.handle
    rw [Text.toList_toString]
    simp only [List.mem_append, List.mem_cons, not_or]
    exact ⟨hname, htexts.2, htexts.1, hdigits⟩
  rw [Text.contains_iff_infix, htag, toList_line hcomment,
    Text.infix_separator_iff colon_notMem_beforeTag hrest,
    Text.prefix_before_iff (notMem_of_validateName hw (by decide))]
  exact and_iff_right (List.suffix_append _ _)

theorem handle_of_line (hcomment : rule.comment = natGwTag v) (hhandle : rule.handle < 2 ^ 64) :
    Text.parseUnsigned (2 ^ 64) (Text.trim (Text.rsplitLast "# handle " rule.line)) =
      some rule.handle := by
  have hlast : Text.rsplitLast "# handle " rule.line = toString rule.handle := by
    have hafter := Text.afterLast_append (c := '#') (p := " handle ".toList)
      (a := rule.beforeTag ++ ':' :: (v.toList ++ [Text.quote, ' ']))
      (x := (toString rule.handle).toList) ?_
    · have hline : rule.line.toList = rule.beforeTag ++ ':' :: (v.toList ++ [Text.quote, ' ']) ++
          ('#' :: " handle ".toList ++ (toString rule.handle).toList) := by
        rw [toList_line hcomment]
        simp only [List.append_assoc, List.cons_append]
        rfl
      rw [Text.rsplitLast, hline, show "# handle ".toList = '#' :: " handle ".toList from rfl, hafter,
        Option.map_some, String.ofList_toList]
      rfl
    · have hdigits := Text.notMem_toDigits (c := '#') (by decide) rule.handle
      have htext : '#' ∉ " handle ".toList := by decide
      rw [Text.toList_toString, List.mem_append, not_or]
      exact ⟨htext, hdigits⟩
  rw [hlast, Text.trim_toString, Text.parseUnsigned_toString hhandle]

end NatRule

theorem natGwTag_injective : Function.Injective natGwTag := by
  intro v w h
  have hlists := congrArg String.toList h
  simp only [natGwTag, String.toList_append, toString] at hlists
  exact String.toList_inj.mp (List.append_cancel_left hlists)

namespace NatChain

structure Sound (chain : NatChain) : Prop where
  fresh : ∀ rule ∈ chain.rules, rule.handle < chain.nextHandle
  bound : chain.nextHandle ≤ 2 ^ 64
  distinct : (chain.rules.map NatRule.handle).Nodup
  tagged : ∀ rule ∈ chain.rules, ∃ v, validateName v "vpc" = .ok () ∧ rule.comment = natGwTag v

variable {chain : NatChain} {w : String}

def found (chain : NatChain) (w : String) : List NatRule :=
  chain.rules.filter fun rule => Text.contains rule.line (natGwTag w)

theorem taggedHandle_frame {line : String} (hline : ':' ∉ line.toList) :
    taggedHandle (natGwTag w) line = none := by
  have hcontains : Text.contains line (natGwTag w) ≠ true := by
    rw [ne_eq, Text.contains_iff_infix]
    intro hinside
    refine hline (hinside.subset ?_)
    simp only [natGwTag, String.toList_append, toString]
    exact List.mem_append_left _ (by decide)
  rw [taggedHandle, if_neg hcontains]

theorem handles_listing (h : chain.Sound) :
    chain.listing.filterMap (taggedHandle (natGwTag w)) = (chain.found w).map NatRule.handle := by
  have hrules : (chain.rules.map NatRule.line).filterMap (taggedHandle (natGwTag w)) =
      (chain.found w).map NatRule.handle := by
    rw [List.filterMap_map, found, ← List.filterMap_eq_map, List.filterMap_filter]
    refine List.filterMap_congr fun rule hmem => ?_
    obtain ⟨v, -, hcomment⟩ := h.tagged rule hmem
    rw [Function.comp_apply, taggedHandle,
      NatRule.handle_of_line hcomment ((h.fresh rule hmem).trans_le h.bound)]
    rfl
  have hframe : ∀ lines : List String, (∀ line ∈ lines, ':' ∉ line.toList) →
      lines.filterMap (taggedHandle (natGwTag w)) = [] := fun lines hlines =>
    List.filterMap_eq_nil_iff.mpr fun line hmem => taggedHandle_frame (hlines line hmem)
  rw [listing, List.filterMap_append, List.filterMap_append, hrules, hframe _ (by decide),
    hframe _ (by decide), List.nil_append, List.append_nil]

theorem foldlM_deleteRule (chain : NatChain) {handles : List ℕ} (hnodup : handles.Nodup)
    (hknown : ∀ handle ∈ handles, handle ∈ chain.rules.map NatRule.handle) :
    (handles.map NatCommand.deleteRule).foldlM (fun st (cmd : NatCommand) => cmd.exec st) (some chain) =
      .ok (some { chain with rules := chain.rules.filter fun rule => !handles.contains rule.handle }) := by
  induction handles generalizing chain with
  | nil => simp [pure, Except.pure]
  | cons handle handles ih =>
      obtain ⟨hnew, hnodup⟩ := List.nodup_cons.mp hnodup
      obtain ⟨hfirst, hrest⟩ := List.forall_mem_cons.mp hknown
      have hany : (chain.rules.any fun rule => rule.handle == handle) = true := by
        obtain ⟨rule, hmem, hhandle⟩ := List.mem_map.mp hfirst
        exact List.any_eq_true.mpr ⟨rule, hmem, by simp [hhandle]⟩
      have hstep : (NatCommand.deleteRule handle).exec (some chain) = .ok (some { chain with
          rules := chain.rules.filter fun rule => rule.handle != handle }) := by
        rw [NatCommand.exec, if_pos hany]
      rw [List.map_cons, List.foldlM_cons, hstep]
      refine (ih _ hnodup ?_).trans ?_
      · -- the other handles are still there
        intro other hother
        obtain ⟨rule, hmem, rfl⟩ := List.mem_map.mp (hrest other hother)
        have hne : rule.handle ≠ handle := fun heq => hnew (heq ▸ hother)
        exact List.mem_map.mpr ⟨rule, List.mem_filter.mpr ⟨hmem, by simpa using hne⟩, rfl⟩
      · rw [List.filter_filter]
        refine congrArg (fun rules => Except.ok (some { chain with rules := rules }))
          (List.filter_congr fun rule _ => ?_)
        rw [List.contains_cons, Bool.not_or, Bool.and_comm]
        rfl

/-- **What is removed** are the rules with the tag anywhere in their line. -/
theorem removeNatGwNftables_eq (h : chain.Sound) :
    removeNatGwNftables w (some chain) = .ok (some { chain with
      rules := chain.rules.filter fun rule => !Text.contains rule.line (natGwTag w) }) := by
  have hfound : (chain.found w).map NatRule.handle |>.Nodup :=
    h.distinct.sublist ((List.filter_sublist).map _)
  have hrest : (chain.rules.filter fun rule =>
      !((chain.found w).map NatRule.handle).contains rule.handle) =
      chain.rules.filter fun rule => !Text.contains rule.line (natGwTag w) := by
    refine List.filter_congr fun rule hmem => congrArg _ ?_
    rw [Bool.eq_iff_iff, List.contains_iff_mem, List.mem_map]
    constructor
    · rintro ⟨other, hother, hhandle⟩
      obtain ⟨hmem', htag⟩ := List.mem_filter.mp hother
      exact List.inj_on_of_nodup_map h.distinct hmem' hmem hhandle ▸ htag
    · exact fun htag => ⟨rule, List.mem_filter.mpr ⟨hmem, htag⟩, rfl⟩
  have hdelete := foldlM_deleteRule chain hfound fun handle hmem =>
    (List.filter_sublist.map _).subset hmem
  rw [hrest] at hdelete
  rw [removeNatGwNftables, handles_listing h]
  split
  · rename_i hempty
    have hnone : chain.found w = [] := by simpa using hempty
    rw [List.filter_eq_self.mpr fun rule hmem => by simpa using List.filter_eq_nil_iff.mp hnone rule hmem]
  · rw [applyNftRuleset, hdelete]
    rfl

theorem Sound.append (h : chain.Sound) {net : Ipv4Net} {oifname : IfName} {v : String}
    (hv : validateName v "vpc" = .ok ()) (hlt : chain.nextHandle < 2 ^ 64) :
    Sound ⟨chain.rules ++ [⟨net, oifname, natGwTag v, chain.nextHandle⟩], chain.nextHandle + 1⟩ where
  fresh := by
    simp only [List.forall_mem_append, List.forall_mem_singleton]
    exact ⟨fun rule hmem => (h.fresh rule hmem).trans (Nat.lt_succ_self _), Nat.lt_succ_self _⟩
  bound := hlt
  distinct := by
    rw [List.map_append, List.map_singleton, ← List.concat_eq_append, List.nodup_concat]
    refine ⟨fun hmem => ?_, h.distinct⟩
    obtain ⟨rule, hrule, hhandle⟩ := List.mem_map.mp hmem
    exact (h.fresh rule hrule).ne hhandle
  tagged := by
    simp only [List.forall_mem_append, List.forall_mem_singleton]
    exact ⟨h.tagged, v, hv, rfl⟩

theorem Sound.filter (h : chain.Sound) (keep : NatRule → Bool) :
    Sound { chain with rules := chain.rules.filter keep } where
  fresh rule hmem := h.fresh rule (List.mem_of_mem_filter hmem)
  bound := h.bound
  distinct := h.distinct.sublist (List.filter_sublist.map _)
  tagged rule hmem := h.tagged rule (List.mem_of_mem_filter hmem)

end NatChain

/-! ### Runs -/

/-- A call for a gateway, with the interface that is found at the time. -/
inductive NatCall
  | apply (publicIface : Option IfName) (vpcName : String) (subnetCidrs : List String)
  | remove (vpcName : String)

namespace NatCall

def vpcName : NatCall → String
  | apply _ vpcName _ => vpcName
  | remove vpcName => vpcName

def perform : NatCall → Option NatChain → Except String (Option NatChain)
  | apply publicIface vpcName subnetCidrs => applyNatGwNftables publicIface vpcName subnetCidrs
  | remove vpcName => removeNatGwNftables vpcName

/-- A call that fails leaves the firewall as it was. -/
def run (call : NatCall) (st : Option NatChain) : Except String Unit × Option NatChain :=
  match call.perform st with
  | .ok st' => (.ok (), st')
  | .error e => (.error e, st)

end NatCall

def SoundNat (st : Option NatChain) : Prop := ∀ chain ∈ st, chain.Sound

def NatCommand.Tags (cmd : NatCommand) : Prop :=
  ∀ saddr oifname comment, cmd = .addRule saddr oifname comment →
    ∃ v, validateName v "vpc" = .ok () ∧ comment = natGwTag v

theorem soundNat_exec {cmd : NatCommand} {st st' : Option NatChain} (h : SoundNat st)
    (hcmd : cmd.Tags) (hexec : cmd.exec st = .ok st') : SoundNat st' := by
  cases st with
  | none =>
      cases cmd with
      | addTable =>
          cases hexec
          exact h
      | addChain =>
          cases hexec
          rintro _ ⟨⟩
          exact ⟨nofun, by decide, .nil, nofun⟩
      | addRule saddr oifname comment => cases hexec
      | deleteRule handle => cases hexec
  | some chain =>
      have hchain := h chain rfl
      cases cmd with
      | addTable | addChain =>
          cases hexec
          exact h
      | addRule saddr oifname comment =>
          obtain ⟨v, hv, rfl⟩ := hcmd saddr oifname comment rfl
          rw [NatCommand.exec] at hexec
          split at hexec
          · cases hexec
          · obtain ⟨-, hexec⟩ := ite_error_eq_ok.mp hexec
            obtain ⟨hlt, hexec⟩ := ite_error_eq_ok.mp hexec
            cases hexec
            rintro _ ⟨⟩
            exact hchain.append hv (Nat.lt_of_not_le hlt)
      | deleteRule handle =>
          rw [NatCommand.exec] at hexec
          split at hexec
          · cases hexec
            rintro _ ⟨⟩
            exact hchain.filter _
          · cases hexec

theorem soundNat_applyNftRuleset {ruleset : List NatCommand} {st st' : Option NatChain}
    (h : SoundNat st) (htags : ∀ cmd ∈ ruleset, cmd.Tags)
    (hrun : applyNftRuleset ruleset st = .ok st') : SoundNat st' := by
  rw [applyNftRuleset, except_mapError_eq_ok] at hrun
  induction ruleset generalizing st with
  | nil =>
      cases hrun
      exact h
  | cons cmd ruleset ih =>
      obtain ⟨hfirst, hrest⟩ := List.forall_mem_cons.mp htags
      rw [List.foldlM_cons] at hrun
      obtain ⟨mid, hmid, hrun⟩ := except_bind_eq_ok.mp hrun
      exact ih (soundNat_exec h hfirst hmid) hrest hrun

theorem soundNat_run {call : NatCall} (hname : validateName call.vpcName "vpc" = .ok ())
    {st : Option NatChain} (h : SoundNat st) : SoundNat (call.run st).2 := by
  rw [NatCall.run]
  cases hperform : call.perform st with
  | error e => exact h
  | ok st' =>
      cases call with
      | apply publicIface vpcName subnetCidrs =>
          cases publicIface with
          | none => cases hperform
          | some iface =>
              refine soundNat_applyNftRuleset h ?_ hperform
              rintro cmd hmem saddr oifname comment rfl
              simp only [List.cons_append, List.nil_append, List.mem_cons, reduceCtorEq, false_or,
                List.mem_map, NatCommand.addRule.injEq] at hmem
              obtain ⟨cidr, -, -, -, rfl⟩ := hmem
              exact ⟨vpcName, hname, rfl⟩
      | remove vpcName =>
          cases st with
          | none =>
              cases hperform
              exact h
          | some chain =>
              have hchain := h chain rfl
              obtain rfl := Except.ok.inj
                (hperform.symm.trans (NatChain.removeNatGwNftables_eq hchain))
              rintro _ ⟨⟩
              exact hchain.filter _

def NatChain.without (w : String) (chain : NatChain) : NatChain :=
  { chain with rules := chain.rules.filter fun rule => rule.comment != natGwTag w }

/-- **A gateway removes its own rules only if no other name begins with its name.** After any calls
for VPCs with valid names, the removal for a VPC deletes its rules and leaves all others just in case
the chain has no rule of another VPC whose name begins with that of the first. -/
theorem removeNatGwNftables_exact_iff (calls : List NatCall) (w : String)
    (hcalls : ∀ call ∈ calls, validateName call.vpcName "vpc" = .ok ())
    (hw : validateName w "vpc" = .ok ()) :
    removeNatGwNftables w (reached NatCall.run calls none) =
        .ok ((reached NatCall.run calls none).map (NatChain.without w)) ↔
      ∀ chain ∈ reached NatCall.run calls none, ∀ v, Text.startsWith v w = true → v ≠ w →
        ∀ rule ∈ chain.rules, rule.comment ≠ natGwTag v := by
  have hsound : SoundNat (reached NatCall.run calls none) :=
    invariant_reached (I := SoundNat) (C := fun e => validateName e.action.vpcName "vpc" = .ok ()) nofun
      (fun _ _ h hname => soundNat_run hname h) fun e he => hcalls e.action (action_mem_of_mem_trace he)
  cases hst : reached NatCall.run calls none with
  | none => exact iff_of_true rfl nofun
  | some chain =>
      have hchain : chain.Sound := hsound chain hst
      have hline : ∀ rule ∈ chain.rules, ∀ v, rule.comment = natGwTag v →
          (Text.contains rule.line (natGwTag w) = true ↔ Text.startsWith v w = true) := by
        intro rule hmem v hcomment
        obtain ⟨v', hv, hcomment'⟩ := hchain.tagged rule hmem
        obtain rfl := natGwTag_injective (hcomment.symm.trans hcomment')
        rw [NatRule.contains_line_iff hcomment hv hw, Text.startsWith, List.isPrefixOf_iff_prefix]
      rw [NatChain.removeNatGwNftables_eq hchain, Option.map_some, Except.ok.injEq, Option.some.injEq,
        NatChain.without, NatChain.mk.injEq, and_iff_left rfl]
      constructor
      · rintro h _ ⟨⟩ v hstarts hne rule hmem hcomment
        have hkept : rule ∈ chain.rules.filter fun rule => rule.comment != natGwTag w := by
          refine List.mem_filter.mpr ⟨hmem, ?_⟩
          rw [hcomment, bne_iff_ne]
          exact fun htag => hne (natGwTag_injective htag)
        rw [← h] at hkept
        have hcontains := (hline rule hmem v hcomment).mpr hstarts
        simp [hcontains] at hkept
      · intro h
        refine List.filter_congr fun rule hmem => ?_
        obtain ⟨v, -, hcomment⟩ := hchain.tagged rule hmem
        by_cases hvw : v = w
        · subst hvw
          have hself : Text.startsWith v v = true := List.isPrefixOf_iff_prefix.mpr List.prefix_rfl
          simp [(hline rule hmem v hcomment).mpr hself, hcomment]
        · have hstarts : ¬ Text.startsWith v w = true := fun hstarts =>
            h chain rfl v hstarts hvw rule hmem hcomment
          have htag : natGwTag v ≠ natGwTag w := fun htag => hvw (natGwTag_injective htag)
          rw [← hline rule hmem v hcomment, Bool.not_eq_true] at hstarts
          rw [hstarts, hcomment, Bool.not_false, eq_comm, bne_iff_ne]
          exact htag

/-- Two VPCs get a gateway each on the interface `eth0`. -/
def twoGateways (v w : String) : List NatCall :=
  [.apply (some ⟨"eth0", by decide⟩) v ["10.1.0.0/24"],
    .apply (some ⟨"eth0", by decide⟩) w ["10.2.0.0/24"]]

theorem removeNatGwNftables_exact_of_other_name :
    (∀ chain ∈ reached NatCall.run (twoGateways "prod" "eu-prod") none, ∀ v,
      Text.startsWith v "prod" = true → v ≠ "prod" →
        ∀ rule ∈ chain.rules, rule.comment ≠ natGwTag v) ∧
    removeNatGwNftables "prod" (reached NatCall.run (twoGateways "prod" "eu-prod") none) =
      .ok ((reached NatCall.run (twoGateways "prod" "eu-prod") none).map (NatChain.without "prod")) := by
  have hcond : ∀ chain ∈ reached NatCall.run (twoGateways "prod" "eu-prod") none, ∀ v,
      Text.startsWith v "prod" = true → v ≠ "prod" →
        ∀ rule ∈ chain.rules, rule.comment ≠ natGwTag v := by
    have hcomments : ∀ chain ∈ reached NatCall.run (twoGateways "prod" "eu-prod") none,
        ∀ rule ∈ chain.rules, rule.comment = natGwTag "prod" ∨ rule.comment = natGwTag "eu-prod" := by
      decide
    intro chain hchain v hstarts hne rule hmem hcomment
    rcases hcomments chain hchain rule hmem with hprod | heu
    · exact hne (natGwTag_injective (hcomment.symm.trans hprod))
    · obtain rfl := natGwTag_injective (hcomment.symm.trans heu)
      exact absurd hstarts (by decide)
  exact ⟨hcond, (removeNatGwNftables_exact_iff (twoGateways "prod" "eu-prod") "prod" (by decide)
    (by decide)).mpr hcond⟩

/-- The gateway of `prod` takes the rules of `prod-eu` with it. -/
theorem removeNatGwNftables_takes_longer_name :
    (reached NatCall.run (twoGateways "prod" "prod-eu") none).any (fun chain =>
      chain.rules.any fun rule => rule.comment == natGwTag "prod-eu") = true ∧
    (reached NatCall.run (twoGateways "prod" "prod-eu" ++ [.remove "prod"]) none).any
      (fun chain => chain.rules.isEmpty) = true := by
  decide +kernel

end Syfrah
