import Mathlib.Logic.Function.Basic
import Mathlib.Data.List.Basic

/-!
# Chains of filter rules

A table has chains of rules. A rule that matches a packet accepts it, drops it or sends it to another
chain; the first rule with a verdict decides. After a `jump` to a chain that gives no verdict the
rules behind the jump are next, after a `goto` they are not. A packet that comes through a base
chain without a verdict meets the policy of that chain.
-/

namespace PacketFilter

variable {C M S E : Type}

inductive Verdict (C : Type)
  | accept
  | drop
  | jump (chain : C)
  | goto (chain : C)
deriving DecidableEq

/-- A rule: what a packet must match, and what happens to it. -/
structure Rule (C M : Type) where
  filters : List M
  verdict : Verdict C
deriving DecidableEq

/-- What a chain does with a packet; `through` is no verdict. -/
inductive Outcome
  | accept
  | drop
  | through
deriving DecidableEq

/-! ### Evaluation -/

section Eval

variable (holds : M → Bool)

/-- Whether the packet passes every filter of the rule. -/
def Rule.matches (rule : Rule C M) : Bool := rule.filters.all holds

/-- Run through rules, given what other chains do with the packet. -/
def evalRules (enter : C → Outcome) : List (Rule C M) → Outcome
  | [] => .through
  | rule :: rules =>
    if rule.matches holds then
      match rule.verdict with
      | .accept => .accept
      | .drop => .drop
      | .jump chain => match enter chain with
        | .through => evalRules enter rules
        | outcome => outcome
      | .goto chain => enter chain
    else evalRules enter rules

/-- Run through a chain, with at most the given number of chains inside each other. -/
def evalChain (chains : C → List (Rule C M)) : ℕ → C → Outcome
  | 0, _ => .through
  | depth + 1, chain => evalRules holds (evalChain chains depth) (chains chain)

variable {holds} {enter : C → Outcome} {rule : Rule C M} {rules rest : List (Rule C M)} {chain : C}

theorem evalRules_cons_of_not_matches (h : rule.matches holds = false) :
    evalRules holds enter (rule :: rules) = evalRules holds enter rules := by
  simp [evalRules, h]

theorem evalRules_accepting_append_drop (haccept : ∀ rule ∈ rules, rule.verdict = .accept) :
    evalRules holds enter (rules ++ [⟨[], .drop⟩]) =
      if rules.any (·.matches holds) then .accept else .drop := by
  induction rules with
  | nil => simp [evalRules, Rule.matches]
  | cons rule rules ih =>
      have hrest := ih fun rule hrule => haccept rule (List.mem_cons_of_mem _ hrule)
      by_cases hmatch : rule.matches holds = true
      · simp [evalRules, hmatch, haccept rule List.mem_cons_self]
      · simp [evalRules, hmatch, hrest]

theorem evalRules_jump_of_find {rule : Rule C M}
    (hfind : rules.find? (fun rule => rule.matches holds) = some rule)
    (hverdict : rule.verdict = .jump chain) (henter : enter chain ≠ .through) :
    evalRules holds enter rules = enter chain := by
  induction rules with
  | nil => cases hfind
  | cons r rules ih =>
      cases hmatch : r.matches holds with
      | true =>
          simp only [List.find?_cons, hmatch, Option.some.injEq] at hfind
          subst hfind
          simp only [evalRules, hmatch, hverdict, if_true]
      | false =>
          simp only [List.find?_cons, hmatch] at hfind
          rw [evalRules_cons_of_not_matches hmatch, ih hfind]

theorem evalRules_dispatch (henter : enter chain ≠ .through)
    (hjump : ∀ rule ∈ rules, rule.matches holds = true → rule.verdict = .jump chain)
    (hsome : ∃ rule ∈ rules, rule.matches holds = true) :
    evalRules holds enter rules = enter chain := by
  obtain ⟨rule, hfind⟩ := Option.isSome_iff_exists.mp (List.find?_isSome.mpr hsome)
  exact evalRules_jump_of_find hfind
    (hjump rule (List.mem_of_find?_eq_some hfind) (by simpa using List.find?_some hfind)) henter

end Eval

/-! ### Tables and scripts -/

inductive Policy
  | accept
  | drop
deriving DecidableEq

/-- Chains, policies of the base chains and named sets. A chain that does not exist has no rules, and
a set that does not exist no elements. -/
structure Table (C M S E : Type) where
  chains : C → List (Rule C M)
  policy : C → Option Policy
  sets : S → List E

def Table.empty : Table C M S E := ⟨fun _ => [], fun _ => none, fun _ => []⟩

def Table.accepts (t : Table C M S E) (holds : M → Bool) (depth : ℕ) (base : C) : Bool :=
  match evalChain holds t.chains depth base with
  | .accept => true
  | .drop => false
  | .through => t.policy base == some .accept

inductive Command (C M S E : Type)
  | addTable
  | addChain (chain : C)
  | addBaseChain (chain : C) (policy : Policy)
  | flushChain (chain : C)
  | addRule (chain : C) (rule : Rule C M)
  | addSet (set : S)
  | addElement (set : S) (elements : List E)

variable [DecidableEq C] [DecidableEq S]

namespace Command

def apply (t : Table C M S E) : Command C M S E → Table C M S E
  | addTable | addChain _ | addSet _ => t
  | addBaseChain chain policy => { t with policy := Function.update t.policy chain (some policy) }
  | flushChain chain => { t with chains := Function.update t.chains chain [] }
  | addRule chain rule =>
      { t with chains := Function.update t.chains chain (t.chains chain ++ [rule]) }
  | addElement set elements =>
      { t with sets := Function.update t.sets set (t.sets set ++ elements) }

/-- What a command does to the rules of one chain. -/
def onChain (chain : C) (rules : List (Rule C M)) : Command C M S E → List (Rule C M)
  | flushChain c => if c = chain then [] else rules
  | addRule c rule => if c = chain then rules ++ [rule] else rules
  | _ => rules

/-- What a command does to the elements of one set. -/
def onSet (set : S) (elements : List E) : Command C M S E → List E
  | addElement s new => if s = set then elements ++ new else elements
  | _ => elements

end Command

def Table.run (t : Table C M S E) (script : List (Command C M S E)) : Table C M S E :=
  script.foldl Command.apply t

theorem Table.chains_run (t : Table C M S E) (script : List (Command C M S E)) (chain : C) :
    (t.run script).chains chain = script.foldl (Command.onChain chain) (t.chains chain) := by
  induction script generalizing t with
  | nil => rfl
  | cons command script ih =>
      have hstep : (command.apply t).chains chain = command.onChain chain (t.chains chain) := by
        cases command with
        | flushChain c | addRule c rule =>
            by_cases hc : c = chain
            · subst hc; simp [Command.apply, Command.onChain]
            · simp [Command.apply, Command.onChain, hc, Function.update_of_ne (Ne.symm hc)]
        | _ => rfl
      exact (ih (command.apply t)).trans (congrArg (script.foldl (Command.onChain chain)) hstep)

theorem Table.sets_run (t : Table C M S E) (script : List (Command C M S E)) (set : S) :
    (t.run script).sets set = script.foldl (Command.onSet set) (t.sets set) := by
  induction script generalizing t with
  | nil => rfl
  | cons command script ih =>
      have hstep : (command.apply t).sets set = command.onSet set (t.sets set) := by
        cases command with
        | addElement s new =>
            by_cases hs : s = set
            · subst hs; simp [Command.apply, Command.onSet]
            · simp [Command.apply, Command.onSet, hs, Function.update_of_ne (Ne.symm hs)]
        | _ => rfl
      exact (ih (command.apply t)).trans (congrArg (script.foldl (Command.onSet set)) hstep)

theorem Table.policy_run_ne_accept {t : Table C M S E} {script : List (Command C M S E)} {chain : C}
    (hscript : ∀ c policy, .addBaseChain c policy ∈ script → policy = .drop)
    (ht : t.policy chain ≠ some .accept) : (t.run script).policy chain ≠ some .accept := by
  induction script generalizing t with
  | nil => exact ht
  | cons command script ih =>
      refine ih (t := command.apply t) (fun c p h => hscript c p (List.mem_cons_of_mem _ h)) ?_
      cases command with
      | addBaseChain c policy =>
          obtain rfl := hscript c policy List.mem_cons_self
          by_cases hc : chain = c
          · subst hc; simp [Command.apply]
          · simpa [Command.apply, Function.update_of_ne hc] using ht
      | _ => exact ht

omit [DecidableEq S] in
theorem foldl_onChain_addRule (chain c : C) (rules new : List (Rule C M)) :
    (new.map (Command.addRule (S := S) (E := E) c)).foldl (Command.onChain chain) rules =
      if c = chain then rules ++ new else rules := by
  induction new generalizing rules with
  | nil => simp
  | cons rule new ih =>
      rw [List.map_cons, List.foldl_cons, ih]
      by_cases hc : c = chain <;> simp [Command.onChain, hc]

end PacketFilter
