import Syfrah.Fabric.RaftHandler
import Syfrah.Lib.Ipv4Text
import Syfrah.Org.Api
import Syfrah.Proof.Ensures

/-!
# What a new firewall rule lets through

A request for a rule names the traffic it is for. On its way to the store the request becomes a
command and the command a rule, and each time a field may be lost. The traffic of the stored rule is
compared with the traffic of the request.
-/

namespace Syfrah

open Replica OrgApi Tx

/-! ### Traffic -/

/-- Traffic of a VM as rules see it; the protocol is `all` for one that has no rules of its own. -/
structure Traffic where
  direction : Direction
  protocol : Protocol
  port : Fin (2 ^ 16)
  remote : Ipv4Addr
  /-- The security groups that the remote end is a member of. -/
  groups : List SecurityGroupId

def PortRange.Covers (pr : PortRange) (port : ℕ) : Prop := pr.fromPort ≤ port ∧ port ≤ pr.toPort

def RuleSource.Covers : RuleSource → Traffic → Prop
  | .cidr text, t => text = "0.0.0.0/0" ∨ cidrContains text t.remote.display = true
  | .securityGroup sg, t => sg ∈ t.groups

structure SecurityGroupRule.Covers (rule : SecurityGroupRule) (t : Traffic) : Prop where
  direction : rule.direction = t.direction
  protocol : rule.protocol = .all ∨ rule.protocol = t.protocol
  port : ∀ pr ∈ rule.portRange, pr.Covers t.port
  source : rule.source.Covers t

structure RuleRequest where
  sg : String
  direction : String
  protocol : String
  port : Option String := none
  source : Option String := none
  sourceSg : Option String := none
  description : String := ""
  priority : ℕ := 100

namespace RuleRequest

def toOrgRequest (q : RuleRequest) : OrgRequest :=
  .sgAddRule q.sg q.direction q.protocol q.port q.source q.sourceSg q.description q.priority

/-- The traffic that a request is for. A source group is looked up by its name, and a field that is
not given does not restrict the traffic. -/
structure Covers (q : RuleRequest) (db : OrgDb) (t : Traffic) : Prop where
  direction : Handle.direction q.direction = some t.direction
  protocol : ∃ proto, Handle.protocol q.protocol = some proto ∧
    (proto = .all ∨ proto = t.protocol)
  port : ∀ p ∈ q.port, ∃ pr, parsePortRange p = .ok pr ∧ pr.Covers t.port
  source : ∀ cidr ∈ q.source, RuleSource.Covers (.cidr cidr) t
  sourceSg : ∀ name ∈ q.sourceSg, ∃ sg, OrgStore.findSgByName db name = some sg ∧ sg.id ∈ t.groups

/-! ### The stored rule -/

def sourceText (q : RuleRequest) : String := q.source.getD "0.0.0.0/0"

/-- The rule that the command makes of the request. -/
def rule (q : RuleRequest) (sg : SecurityGroup) (dir : Direction) (proto : Protocol) :
    SecurityGroupRule where
  id := Handle.ruleId sg.id dir proto (q.port.bind Handle.portRange) q.sourceText
  sgId := sg.id
  direction := dir
  protocol := proto
  portRange := q.port.bind Handle.portRange
  source := .cidr q.sourceText
  priority := 100
  description := none

structure Accepted (q : RuleRequest) (sm : RedbStateMachine) (db : SgRuleDb) (sg : SecurityGroup)
    (dir : Direction) (proto : Protocol) : Prop where
  store : sm.sgRuleStore = some db
  group : OrgStore.findSgByName sm.orgStore q.sg = some sg
  direction : Handle.direction q.direction = some dir
  protocol : Handle.protocol q.protocol = some proto
  valid : SgRuleStore.validate (q.rule sg dir proto) = .ok ()
  fresh : db.get .sgRules (q.rule sg dir proto).id = none

end RuleRequest

/-- The stored rules, when there is a store for them. -/
def Replica.rules (r : Replica) : Option (Table SecurityGroupRule) :=
  r.sm.tableOf .sgRule SgRuleTable.sgRules

theorem addRule_spec (rule : SecurityGroupRule) (s : SgRuleDb × Ambient) :
    Ensures (SgRuleStore.addRule rule) s fun result t =>
      match result with
      | .ok _ => SgRuleStore.validate rule = .ok () ∧ s.1.get .sgRules rule.id = none ∧
          t.1.table .sgRules = (s.1.table .sgRules).insert rule.id rule
      | .error _ => (SgRuleStore.validate rule = .ok () → s.1.get .sgRules rule.id ≠ none) ∧
          t = s := by
  unfold SgRuleStore.addRule
  cases hvalid : SgRuleStore.validate rule with
  | error e => exact ⟨nofun, rfl⟩
  | ok u =>
      refine .bind_ok rfl (.read (.rejectIf (fun hexists => ⟨fun _ hnone => ?_, rfl⟩)
        fun hnew => ?_))
      · simp [hnone] at hexists
      · exact ⟨rfl, by simpa using hnew, s.1.table_set_self ..⟩

theorem addSgRule_spec (q : RuleRequest) (r : Replica) :
    Ensures (Handle.addSgRule q.sg q.direction q.protocol q.port q.sourceText) r fun result t =>
      match result with
      | .ok response => response = .ok ∧ ∃ db sg dir proto, q.Accepted r.sm db sg dir proto ∧
          t.rules = some ((db.table .sgRules).insert (q.rule sg dir proto).id (q.rule sg dir proto))
      | .error _ => (∀ db sg dir proto, ¬ q.Accepted r.sm db sg dir proto) ∧ t.rules = r.rules := by
  unfold Handle.addSgRule
  cases hstore : r.sm.sgRuleStore with
  | none =>
      have hrun : sgRule (pure ()) r = (.error "SG rule store not available in state machine", r) := by
        simp [sgRule, onStore, sgRuleLens, hstore]
      unfold Ensures
      rw [bind_apply_error hrun]
      exact ⟨fun _ _ _ _ h => by simp [h.store] at hstore, rfl⟩
  | some db =>
      have hset : sgRuleLens.set (some db) r.sm = r.sm := by rw [← hstore]; rfl
      have hrun : sgRule (pure ()) r = (.ok (), r) := by
        unfold sgRule onStore
        rw [show sgRuleLens.get r.sm = some db from hstore]
        exact congrArg (fun sm => (Except.ok (), { r with sm := sm })) hset
      refine .bind_ok hrun (.read (.orThrow ?_ fun sg hsg => .orThrow ?_ fun dir hdir =>
        .orThrow ?_ fun proto hproto => ?_))
      · exact fun hnone => ⟨fun _ _ _ _ h => (by cases hnone.symm.trans h.group), rfl⟩
      · exact fun hnone => ⟨fun _ _ _ _ h => (by cases hnone.symm.trans h.direction), rfl⟩
      · exact fun hnone => ⟨fun _ _ _ _ h => (by cases hnone.symm.trans h.protocol), rfl⟩
      · refine .onStore (l := sgRuleLens) (fun hnone => by cases hnone.symm.trans hstore)
          (fun db' _ => addRule_spec (q.rule sg dir proto) (db', r.ambient)) ?_ ?_
        · rintro db' ⟨⟩ t hdb ⟨hvalid, hfresh, htable⟩
          exact ⟨rfl, db', sg, dir, proto, ⟨hdb, hsg, hdir, hproto, hvalid, hfresh⟩,
            congrArg some htable⟩
        · rintro db' e t hdb ⟨hreject, rfl⟩
          refine ⟨fun db sg dir proto h => ?_, ?_⟩
          · obtain rfl : db' = db := Option.some.inj (hdb.symm.trans h.store)
            obtain rfl := Option.some.inj (hsg.symm.trans h.group)
            obtain rfl := Option.some.inj (hdir.symm.trans h.direction)
            obtain rfl := Option.some.inj (hproto.symm.trans h.protocol)
            exact hreject h.valid h.fresh
          · unfold rules RedbStateMachine.tableOf RedbStateMachine.store
            exact congrArg (Option.map _) hdb.symm

/-! ### Ports -/

theorem portRange_of_parsePortRange {p : String} {pr : PortRange} (h : parsePortRange p = .ok pr) :
    Handle.portRange p = some pr ∧ pr.fromPort ≤ pr.toPort ∧ pr.toPort < 2 ^ 16 := by
  unfold parsePortRange at h
  unfold Handle.portRange
  cases hsplit : Text.splitOnce '-' p with
  | some parts =>
      rw [hsplit] at h
      dsimp only at h ⊢
      split at h
      · rename_i fromPort toPort hlow hhigh
        split at h
        · cases h
        · rename_i hle
          cases h
          simp only [hlow, hhigh, Option.getD_some]
          exact ⟨trivial, Nat.le_of_not_lt hle, Text.lt_of_parseUnsigned hhigh⟩
      · cases h
  | none =>
      rw [hsplit] at h
      dsimp only at h ⊢
      cases hport : Text.parseUnsigned (2 ^ 16) p with
      | some port =>
          rw [hport] at h
          cases h
          exact ⟨rfl, le_rfl, Text.lt_of_parseUnsigned hport⟩
      | none =>
          rw [hport] at h
          cases h

namespace RuleRequest

/-- The port text, if there is one, is a port or a range. -/
def PortReadable (q : RuleRequest) : Prop := ∀ p ∈ q.port, ∃ pr, parsePortRange p = .ok pr

/-- No source group is named, or the source text is there and already matches nothing. -/
def SourceCarried (q : RuleRequest) : Prop :=
  q.sourceSg = none ∨ ∃ cidr ∈ q.source, ∀ t, ¬ RuleSource.Covers (.cidr cidr) t

variable {q : RuleRequest} {sm : RedbStateMachine} {db : SgRuleDb} {sg : SecurityGroup}
  {dir : Direction} {proto : Protocol}

theorem port_iff (hport : q.PortReadable) (port : ℕ) :
    (∀ pr ∈ (q.rule sg dir proto).portRange, pr.Covers port) ↔
      ∀ p ∈ q.port, ∃ pr, parsePortRange p = .ok pr ∧ pr.Covers port := by
  cases hp : q.port with
  | none => simp [rule, hp]
  | some p =>
      obtain ⟨pr, hpr⟩ := hport p hp
      simp [rule, hp, hpr, (portRange_of_parsePortRange hpr).1]

theorem source_iff (t : Traffic) :
    (q.rule sg dir proto).source.Covers t ↔
      ∀ cidr ∈ q.source, RuleSource.Covers (.cidr cidr) t := by
  cases hsource : q.source with
  | none => simp [rule, sourceText, hsource, RuleSource.Covers]
  | some cidr => simp [rule, sourceText, hsource]

theorem Accepted.covers_iff (h : q.Accepted sm db sg dir proto) (hport : q.PortReadable)
    (hsource : q.SourceCarried) (t : Traffic) :
    (q.rule sg dir proto).Covers t ↔ q.Covers sm.orgStore t := by
  constructor
  · rintro ⟨hdir, hproto, hports, hcidr⟩
    refine ⟨hdir ▸ h.direction, ⟨proto, h.protocol, hproto⟩, (port_iff hport _).mp hports,
      (source_iff t).mp hcidr, ?_⟩
    rintro name hname
    obtain hnone | ⟨cidr, hcidrs, hnothing⟩ := hsource
    · simp [hnone] at hname
    · exact absurd ((source_iff t).mp hcidr cidr hcidrs) (hnothing t)
  · rintro ⟨hdir, ⟨proto', hproto', hall⟩, hports, hcidr, -⟩
    obtain rfl := Option.some.inj (h.protocol.symm.trans hproto')
    exact ⟨Option.some.inj (h.direction.symm.trans hdir), hall, (port_iff hport _).mpr hports,
      (source_iff t).mpr hcidr⟩

theorem exists_covers (hport : q.PortReadable) {remote : Ipv4Addr}
    (hsource : ∀ cidr ∈ q.source, ∀ t : Traffic, t.remote = remote →
      RuleSource.Covers (.cidr cidr) t) :
    ∃ t, (q.rule sg dir proto).Covers t ∧ t.groups = [] := by
  have hports : ∃ port : Fin (2 ^ 16), ∀ pr ∈ (q.rule sg dir proto).portRange, pr.Covers port := by
    cases hp : q.port with
    | none => exact ⟨0, by simp [rule, hp]⟩
    | some p =>
        obtain ⟨pr, hpr⟩ := hport p hp
        obtain ⟨hrange, hle, hlt⟩ := portRange_of_parsePortRange hpr
        exact ⟨⟨pr.toPort, hlt⟩, by simp [rule, hp, hrange, PortRange.Covers, hle]⟩
  obtain ⟨port, hports⟩ := hports
  exact ⟨⟨dir, proto, port, remote, []⟩, ⟨rfl, .inr rfl, hports,
    (source_iff _).mpr fun cidr hcidr => hsource cidr hcidr _ rfl⟩, rfl⟩

/-! ### From the request to the rule -/

/-- A request is stored as one rule for its traffic if it is accepted at all, and not accepted if its
port text cannot be read. -/
def Faithful (q : RuleRequest) (r : Replica) : Prop :=
  ∃ c, toRaftCommand q.toOrgRequest = some c ∧
    ((applyCommand (.single c) r).1.isError = false →
      ∃ table rule, r.rules = some table ∧
        (applyCommand (.single c) r).2.rules = some (table.insert rule.id rule) ∧
        ∀ t, rule.Covers t ↔ q.Covers r.sm.orgStore t) ∧
    (¬ q.PortReadable → (applyCommand (.single c) r).1.isError = true ∧
      (applyCommand (.single c) r).2.rules = r.rules)

/-- The request is refused for one of its other fields, or nothing of it is lost. -/
def Carried (q : RuleRequest) (sm : RedbStateMachine) : Prop :=
  (∀ db sg dir proto, ¬ q.Accepted sm db sg dir proto) ∨ q.PortReadable ∧ q.SourceCarried

theorem Accepted.rules {r : Replica} (h : q.Accepted r.sm db sg dir proto) :
    r.rules = some (db.table .sgRules) := by
  unfold Replica.rules RedbStateMachine.tableOf RedbStateMachine.store
  exact congrArg (Option.map _) h.store

theorem sourceCarried_of_covers {orgDb : OrgDb} (hport : q.PortReadable)
    (hcovers : ∀ t, (q.rule sg dir proto).Covers t ↔ q.Covers orgDb t) : q.SourceCarried := by
  by_contra hlost
  simp only [SourceCarried, not_or, not_exists, not_and, not_forall, not_not] at hlost
  obtain ⟨hgroup, hreach⟩ := hlost
  obtain ⟨name, hname⟩ := Option.ne_none_iff_exists'.mp hgroup
  have hremote : ∃ remote, ∀ cidr ∈ q.source, ∀ t : Traffic, t.remote = remote →
      RuleSource.Covers (.cidr cidr) t := by
    cases hsource : q.source with
    | none => exact ⟨0, by simp⟩
    | some cidr =>
        obtain ⟨t, ht⟩ := hreach cidr hsource
        refine ⟨t.remote, ?_⟩
        rintro _ ⟨⟩ t' ht'
        simpa only [RuleSource.Covers, ht'] using ht
  obtain ⟨remote, hremote⟩ := hremote
  obtain ⟨t, ht, hnogroup⟩ : ∃ t, (q.rule sg dir proto).Covers t ∧ t.groups = [] :=
    exists_covers hport hremote
  obtain ⟨_, -, hmember⟩ := ((hcovers t).mp ht).sourceSg name hname
  simp [hnogroup] at hmember

end RuleRequest

open RuleRequest in
/-- A request becomes a rule for exactly its traffic when its port can be read and no source group is
lost on the way, and in no other accepted case. -/
theorem faithful_iff_carried (q : RuleRequest) (r : Replica) : q.Faithful r ↔ q.Carried r.sm := by
  have hcommand : toRaftCommand q.toOrgRequest =
      some (.addSgRule q.sg q.direction q.protocol q.port q.sourceText) := rfl
  have hspec := addSgRule_spec q r
  unfold Ensures at hspec
  rcases hrun : Handle.addSgRule q.sg q.direction q.protocol q.port q.sourceText r with ⟨result, t⟩
  have happly : applyCommand (.single (.addSgRule q.sg q.direction q.protocol q.port q.sourceText)) r =
      (respond result, t) := congrArg (fun p => (respond p.1, p.2)) hrun
  rw [hrun] at hspec
  simp only [Faithful, hcommand, Option.some.injEq, exists_eq_left', happly]
  cases result with
  | error msg =>
      obtain ⟨hrefused, hrules⟩ := hspec
      exact ⟨fun _ => .inl hrefused, fun _ => ⟨nofun, fun _ => ⟨rfl, hrules⟩⟩⟩
  | ok response =>
      obtain ⟨rfl, db, sg, dir, proto, haccepted, hrules⟩ := hspec
      constructor
      · rintro ⟨hstored, hunreadable⟩
        have hport : q.PortReadable := by
          by_contra hport
          exact nomatch (hunreadable hport).1
        obtain ⟨table, rule, htable, hinsert, hcovers⟩ := hstored rfl
        obtain rfl := Option.some.inj (haccepted.rules.symm.trans htable)
        -- the rule that was inserted is the one under the new identifier
        obtain rfl : q.rule sg dir proto = rule := by
          have hsame := congrArg (·[(q.rule sg dir proto).id]?)
            (Option.some.inj (hrules.symm.trans hinsert))
          rw [Std.ExtTreeMap.getElem?_insert_self, Std.ExtTreeMap.getElem?_insert] at hsame
          split at hsame
          · exact Option.some.inj hsame
          · exact nomatch hsame.trans haccepted.fresh
        exact .inr ⟨hport, sourceCarried_of_covers hport hcovers⟩
      · rintro (hrefused | ⟨hport, hsource⟩)
        · exact absurd haccepted (hrefused db sg dir proto)
        · exact ⟨fun _ => ⟨_, _, haccepted.rules, hrules, haccepted.covers_iff hport hsource⟩,
            fun hunreadable => absurd hport hunreadable⟩

/-- A port text that is no number is taken for every port. -/
theorem port_name_opens_every_port :
    ¬ ({ sg := "default", direction := "ingress", protocol := "tcp", port := some "http" } :
      RuleRequest).Faithful
        (applyLog [.single (.createOrg "acme"), .single (.createProject "web" "acme"),
          .single (.createVpc "net" "10.1.0.0/16" "acme/web" false)]
          ⟨{ orgStore := .empty, sgRuleStore := some .empty }, .steady 0⟩).2 := by
  rintro ⟨c, hc, -, hunreadable⟩
  obtain rfl := Option.some.inj hc
  have herror := (hunreadable fun h => by
    obtain ⟨pr, hpr⟩ := h "http" rfl
    cases hpr).1
  revert herror
  decide +kernel

end Syfrah
