import Syfrah.Api.ApiKey
import Syfrah.Lib.Run

/-!
# The authority of API keys

A key that is past its time to live stays so, and a deleted key is gone, since new keys have new
hashes. A rotation sets the end of the grace period again, also of a key whose grace period is over,
and gives the new key none of the limits of the old one.
-/

namespace Syfrah

namespace Api

variable {env : Env}

abbrev KeyStep := Exec KeyStore KeyCall KeyReply

def KeyCall.drawn (call : KeyCall) : Option String :=
  match call.act with
  | .generate _ _ _ _ bytes | .rotate _ _ bytes => some (base58Encode bytes)
  | _ => none

def timedOut (e : ApiError) : Bool :=
  e == unauthorized "API key grace period expired" || e == unauthorized "API key expired"

variable (env) in
/-- The authority of a key ends: it is refused because its time is over, or it is deleted. -/
def Ends (raw : String) (e : KeyStep) : Prop :=
  match e.action.act with
  | .validate raw' _ => raw' = raw ∧ ∃ error, e.reply = .failed error ∧ timedOut error = true
  | .delete name => ∃ k ∈ e.before.keys, k.hash = env.sha256Hex raw ∧ k.name = name
  | _ => False

def Accepts (raw : String) (e : KeyStep) : Prop :=
  ∃ sourceIp key, e.action.act = .validate raw sourceIp ∧ e.reply = .validated key

variable (env) in
/-- No key is accepted after its authority has ended. -/
def StaysEnded (es : List KeyStep) : Prop :=
  ∀ past e rest raw, es = past ++ e :: rest → Ends env raw e → ∀ e' ∈ rest, ¬ Accepts raw e'

variable (env) in
/-- A rotation makes a key with the limits of the old one. -/
def KeepsLimits (e : KeyStep) : Prop :=
  ∀ oldName graceMinutes bytes raw key, e.action.act = .rotate oldName graceMinutes bytes →
    e.reply = .created raw key →
    ∃ old, e.before.keys.find? (fun k => k.name == oldName) = some old ∧
      key.project = old.project ∧ key.role = old.role ∧ key.allowedCidrs = old.allowedCidrs ∧
      key.ttl = old.ttl ∧ ∀ sourceIp error, checkSource env old sourceIp = .error error →
        checkSource env key sourceIp = .error error

/-- Rotations of keys that have no limits and are not past their grace period. -/
def keepsAuthority (s : KeyStore) (call : KeyCall) : Bool :=
  match call.act with
  | .rotate oldName _ _ =>
      (s.keys.find? fun k => k.name == oldName).all fun old =>
        old.graceExpiresAt.all (fun grace => s.clock + call.elapsed ≤ grace) &&
          old.allowedCidrs.isEmpty && old.ttl == 0
  | _ => true

/-! ### Raw keys -/

theorem length_base58Encode (bytes : Vector UInt8 32) : (base58Encode bytes).toList.length = 32 := by
  simp [base58Encode]

theorem encoded_of_rawKey_eq {project project' : String} {bytes bytes' : Vector UInt8 32}
    (h : rawKey project (base58Encode bytes) = rawKey project' (base58Encode bytes')) :
    base58Encode bytes = base58Encode bytes' := by
  have hlists := congrArg String.toList h
  simp only [rawKey, String.toList_append] at hlists
  have hlength : (base58Encode bytes).toList.length = (base58Encode bytes').toList.length := by
    rw [length_base58Encode, length_base58Encode]
  exact String.toList_injective (List.append_inj' hlists hlength).2

/-! ### Stored keys -/

section Lists

variable {α : Type} {p : α → Bool} {f : α → α}

theorem map_updateFirst {β : Type} {g : α → β} (hg : ∀ a, g (f a) = g a) (as : List α) :
    (updateFirst p f as).map g = as.map g := by
  induction as with
  | nil => rfl
  | cons a as ih =>
      rw [updateFirst]
      split
      · simp [hg]
      · simp [ih]

theorem mem_updateFirst {as : List α} {b : α} (h : b ∈ updateFirst p f as) :
    b ∈ as ∨ ∃ a, as.find? p = some a ∧ b = f a := by
  induction as with
  | nil => exact .inl h
  | cons a as ih =>
      rw [updateFirst] at h
      cases hp : p a with
      | true =>
          rw [hp, if_pos rfl] at h
          rcases List.mem_cons.mp h with rfl | h
          · exact .inr ⟨a, List.find?_cons_of_pos hp, rfl⟩
          · exact .inl (List.mem_cons_of_mem a h)
      | false =>
          simp only [hp, Bool.false_eq_true, if_false] at h
          rcases List.mem_cons.mp h with rfl | h
          · exact .inl List.mem_cons_self
          · rw [List.find?_cons_of_neg (by simp [hp])]
            exact (ih h).imp_left (List.mem_cons_of_mem a)

end Lists

def Expired (key : ApiKey) (now : ℕ) : Prop :=
  (∃ grace, key.graceExpiresAt = some grace ∧ grace < now) ∨
    key.ttl > 0 ∧ now > wrap64 (key.createdAt + key.ttl)

theorem Expired.mono {key : ApiKey} {now now' : ℕ} (h : Expired key now) (hle : now ≤ now') :
    Expired key now' := by
  rcases h with ⟨grace, hgrace, hlt⟩ | ⟨hpos, hlt⟩
  · exact .inl ⟨grace, hgrace, hlt.trans_le hle⟩
  · exact .inr ⟨hpos, hlt.trans_le hle⟩

theorem checkKey_timedOut_iff {key : ApiKey} {sourceIp : Option IpAddr} {now : ℕ} :
    (∃ e, checkKey env key sourceIp now = .error e ∧ timedOut e = true) ↔ Expired key now := by
  have hsource : ∀ e, checkSource env key sourceIp = .error e → timedOut e = false := by
    intro e he
    unfold checkSource at he
    split_ifs at he
    cases sourceIp with
    | none =>
        cases he
        decide
    | some ip =>
        dsimp only at he
        split_ifs at he
        cases he
        decide
  have hgrace : key.graceExpiresAt.any (fun grace => grace < now) = true ↔
      ∃ grace, key.graceExpiresAt = some grace ∧ grace < now := by
    simp [Option.any_eq_true]
  unfold checkKey Expired
  split_ifs with hover hexpired
  · exact ⟨fun _ => .inl (hgrace.mp hover), fun _ => ⟨_, rfl, by decide⟩⟩
  · exact ⟨fun _ => .inr hexpired, fun _ => ⟨_, rfl, by decide⟩⟩
  · constructor
    · rintro ⟨e, he, htimed⟩
      rw [hsource e he] at htimed
      cases htimed
    · rintro (h | h)
      · exact absurd (hgrace.mpr h) hover
      · exact absurd h hexpired

theorem not_ok_of_expired {key : ApiKey} {sourceIp : Option IpAddr} {now : ℕ}
    (h : Expired key now) : checkKey env key sourceIp now ≠ .ok () := by
  obtain ⟨e, he, -⟩ := checkKey_timedOut_iff.mpr h
  rw [he]
  nofun

/-! ### One call -/

variable (env) in
inductive KeyChange (keys : List ApiKey) (now : ℕ) : KeyAct → KeyReply → List ApiKey → Prop
  | generated {project role allowedCidrs ttl bytes key}
      (hhash : key.hash = env.sha256Hex (rawKey project (base58Encode bytes))) :
      KeyChange keys now (.generate project role allowedCidrs ttl bytes)
        (.created (rawKey project (base58Encode bytes)) key) (keys ++ [key])
  | unknown {raw sourceIp} : KeyChange keys now (.validate raw sourceIp)
      (.failed (unauthorized "invalid API key")) keys
  | refused {raw sourceIp key e} (hfound : keys.find? (fun k => k.hash == env.sha256Hex raw) = some key)
      (hcheck : checkKey env key sourceIp now = .error e) :
      KeyChange keys now (.validate raw sourceIp) (.failed e) keys
  | accepted {raw sourceIp key} (hfound : keys.find? (fun k => k.hash == env.sha256Hex raw) = some key)
      (hcheck : checkKey env key sourceIp now = .ok ()) :
      KeyChange keys now (.validate raw sourceIp) (.validated (touch sourceIp now key))
        (updateFirst (fun k => k.hash == env.sha256Hex raw) (touch sourceIp now) keys)
  | missing {oldName graceMinutes bytes} : KeyChange keys now (.rotate oldName graceMinutes bytes)
      (.failed (unauthorized "key not found")) keys
  | rotated {oldName graceMinutes bytes old}
      (hfound : keys.find? (fun k => k.name == oldName) = some old) :
      KeyChange keys now (.rotate oldName graceMinutes bytes)
        (.created (generateKey env old.project old.role bytes now).1
          (generateKey env old.project old.role bytes now).2)
        (updateFirst (fun k => k.name == oldName) (retire graceMinutes now) keys ++
          [(generateKey env old.project old.role bytes now).2])
  | deleted {name reply} : KeyChange keys now (.delete name) reply
      (keys.filter fun k => k.name != name)

theorem keyChange_step (call : KeyCall) (s : KeyStore) :
    KeyChange env s.keys (s.clock + call.elapsed) call.act (KeyStore.step env call s).1
        (KeyStore.step env call s).2.keys ∧
      (KeyStore.step env call s).2.clock = s.clock + call.elapsed := by
  obtain ⟨act, elapsed⟩ := call
  cases act with
  | generate project role allowedCidrs ttl bytes => exact ⟨.generated rfl, rfl⟩
  | validate raw sourceIp =>
      refine ⟨?_, rfl⟩
      simp only [KeyStore.step, validateKey]
      cases hfound : s.keys.find? fun k => k.hash == env.sha256Hex raw with
      | none => exact .unknown
      | some key =>
          dsimp only
          cases hcheck : checkKey env key sourceIp (s.clock + elapsed) with
          | error e => exact .refused hfound hcheck
          | ok _ => exact .accepted hfound hcheck
  | rotate oldName graceMinutes bytes =>
      refine ⟨?_, rfl⟩
      simp only [KeyStore.step, rotateKey]
      cases hfound : s.keys.find? fun k => k.name == oldName with
      | none => exact .missing
      | some old => exact .rotated hfound
  | delete name =>
      refine ⟨?_, rfl⟩
      simp only [KeyStore.step, deleteKey]
      split <;> exact .deleted

theorem KeyChange.hashes {keys keys' : List ApiKey} {now : ℕ} {call : KeyCall} {reply : KeyReply}
    (h : KeyChange env keys now call.act reply keys') :
    (keys'.map ApiKey.hash).Sublist (keys.map ApiKey.hash) ∨
      ∃ project bytes, call.drawn = some (base58Encode bytes) ∧
        keys'.map ApiKey.hash =
          keys.map ApiKey.hash ++ [env.sha256Hex (rawKey project (base58Encode bytes))] := by
  obtain ⟨act, elapsed⟩ := call
  dsimp only at h
  have hkept : ∀ (p : ApiKey → Bool) (f : ApiKey → ApiKey), (∀ k, (f k).hash = k.hash) →
      (updateFirst p f keys).map ApiKey.hash = keys.map ApiKey.hash :=
    fun _ _ hf => map_updateFirst hf keys
  cases h with
  | @generated project _ _ _ bytes _ hhash => exact .inr ⟨project, bytes, rfl, by simp [hhash]⟩
  | unknown | refused | missing => exact .inl (.refl _)
  | accepted =>
      left
      rw [hkept _ (touch _ now) fun _ => rfl]
  | @rotated _ _ bytes old =>
      refine .inr ⟨old.project, bytes, rfl, ?_⟩
      rw [List.map_append, hkept _ (retire _ now) fun _ => rfl]
      rfl
  | deleted => exact .inl (List.filter_sublist.map _)

structure Made (env : Env) (past : List KeyStep) (s : KeyStore) : Prop where
  made : ∀ h ∈ s.keys.map ApiKey.hash, ∃ project bytes,
    base58Encode bytes ∈ past.filterMap (fun e => e.action.drawn) ∧
      h = env.sha256Hex (rawKey project (base58Encode bytes))
  nodup : (s.keys.map ApiKey.hash).Nodup

variable {s : KeyStore} {call : KeyCall} {past : List KeyStep}

theorem Made.step (hsha : Function.Injective env.sha256Hex) (h : Made env past s)
    (hfresh : ∀ encoded, call.drawn = some encoded →
      encoded ∉ past.filterMap (fun e => e.action.drawn)) :
    Made env (past ++ [Exec.of (KeyStore.step env) call s]) (KeyStore.step env call s).2 := by
  have hdrawn : ∀ encoded ∈ past.filterMap (fun e => e.action.drawn), encoded ∈
      (past ++ [Exec.of (KeyStore.step env) call s]).filterMap (fun e => e.action.drawn) := by
    intro encoded hmem
    rw [List.filterMap_append]
    exact List.mem_append_left _ hmem
  have hold : ∀ h ∈ s.keys.map ApiKey.hash, ∃ project bytes, base58Encode bytes ∈
      (past ++ [Exec.of (KeyStore.step env) call s]).filterMap (fun e => e.action.drawn) ∧
        h = env.sha256Hex (rawKey project (base58Encode bytes)) := by
    intro h' hmem
    obtain ⟨project, bytes, hbytes, rfl⟩ := h.made h' hmem
    exact ⟨project, bytes, hdrawn _ hbytes, rfl⟩
  rcases (@keyChange_step env call s).1.hashes with hsub | ⟨project, bytes, hnew, heq⟩
  · exact ⟨fun h' hmem => hold h' (hsub.subset hmem), h.nodup.sublist hsub⟩
  · constructor
    · intro h' hmem
      rw [heq] at hmem
      rcases List.mem_append.mp hmem with hmem | hmem
      · exact hold h' hmem
      · refine ⟨project, bytes, ?_, List.mem_singleton.mp hmem⟩
        simp [List.filterMap_append, Exec.of, hnew]
    · rw [heq]
      refine List.nodup_append.mpr ⟨h.nodup, List.nodup_singleton _, ?_⟩
      intro h' hmem h'' hmem' hsame
      obtain ⟨project', bytes', hbytes', rfl⟩ := h.made h' hmem
      rw [List.mem_singleton.mp hmem'] at hsame
      have hencoded := encoded_of_rawKey_eq (hsha hsame)
      exact hfresh _ hnew (hencoded ▸ hbytes')

def Dead (hash : String) (s : KeyStore) : Prop :=
  ∀ k ∈ s.keys, k.hash = hash → Expired k s.clock

theorem Dead.step {hash : String} (h : Dead hash s) (hkeeps : keepsAuthority s call = true)
    (hnew : ∀ project bytes, call.drawn = some (base58Encode bytes) →
      env.sha256Hex (rawKey project (base58Encode bytes)) ≠ hash) :
    Dead hash (KeyStore.step env call s).2 := by
  obtain ⟨hchange, hclock⟩ := @keyChange_step env call s
  have hold : ∀ k ∈ s.keys, k.hash = hash → Expired k (s.clock + call.elapsed) :=
    fun k hk hhash => (h k hk hhash).mono (Nat.le_add_right _ _)
  unfold Dead
  rw [hclock]
  generalize (KeyStore.step env call s).2.keys = keys' at hchange
  generalize (KeyStore.step env call s).1 = reply at hchange
  obtain ⟨act, elapsed⟩ := call
  dsimp only at hchange hold
  cases hchange with
  | @generated project _ _ _ bytes key hhash =>
      intro k hk hk'
      rcases List.mem_append.mp hk with hk | hk
      · exact hold k hk hk'
      · rw [List.mem_singleton.mp hk, hhash] at hk'
        exact absurd hk' (hnew project bytes rfl)
  | unknown | refused | missing => exact hold
  | @accepted raw sourceIp key hfound hcheck =>
      intro k hk hk'
      rcases mem_updateFirst hk with hk | ⟨k₀, hfirst, rfl⟩
      · exact hold k hk hk'
      · exact hold k₀ (List.mem_of_find?_eq_some hfirst) hk'
  | @rotated oldName graceMinutes bytes old hfound =>
      -- the key that is put into its grace period was not past its time
      simp only [keepsAuthority, hfound, Option.all_some, Bool.and_eq_true, beq_iff_eq,
        Option.all_eq_true, decide_eq_true_eq] at hkeeps
      obtain ⟨⟨hgrace, -⟩, httl⟩ := hkeeps
      intro k hk hk'
      rcases List.mem_append.mp hk with hk | hk
      · rcases mem_updateFirst hk with hk | ⟨k₀, hfirst, rfl⟩
        · exact hold k hk hk'
        · obtain rfl : k₀ = old := Option.some.inj (hfirst.symm.trans hfound)
          rcases hold k₀ (List.mem_of_find?_eq_some hfound) hk' with ⟨grace, hsome, hlt⟩ | ⟨hpos, -⟩
          · exact absurd (hgrace grace hsome) (not_le.mpr hlt)
          · exact absurd httl hpos.ne'
      · rw [List.mem_singleton.mp hk] at hk'
        exact absurd hk' (hnew old.project bytes rfl)
  | deleted => exact fun k hk => hold k (List.mem_of_mem_filter hk)

theorem Dead.not_accepts {raw : String} (h : Dead (env.sha256Hex raw) s) :
    ¬ Accepts raw (Exec.of (KeyStore.step env) call s) := by
  rintro ⟨sourceIp, key, hact, hreply⟩
  have hchange := (@keyChange_step env call s).1
  change (KeyStore.step env call s).1 = _ at hreply
  change call.act = _ at hact
  rw [hact, hreply] at hchange
  generalize (KeyStore.step env call s).2.keys = keys' at hchange
  cases hchange with
  | @accepted _ _ k hfound hcheck =>
      have hhash : k.hash = env.sha256Hex raw := by simpa using List.find?_some hfound
      have hexpired := h k (List.mem_of_find?_eq_some hfound) hhash
      exact not_ok_of_expired (hexpired.mono (Nat.le_add_right _ _)) hcheck

theorem Made.dead_of_ends (h : Made env past s) {raw : String}
    (hends : Ends env raw (Exec.of (KeyStore.step env) call s)) :
    Dead (env.sha256Hex raw) (KeyStore.step env call s).2 ∧
      env.sha256Hex raw ∈ s.keys.map ApiKey.hash := by
  have hunique : ∀ k ∈ s.keys, ∀ k' ∈ s.keys, k.hash = k'.hash → k = k' := fun k hk k' hk' =>
    List.inj_on_of_nodup_map h.nodup hk hk'
  obtain ⟨hchange, hclock⟩ := @keyChange_step env call s
  obtain ⟨act, elapsed⟩ := call
  unfold Dead
  rw [hclock]
  simp only [Ends, Exec.of] at hends
  generalize (KeyStore.step env ⟨act, elapsed⟩ s).2.keys = keys' at hchange
  generalize (KeyStore.step env ⟨act, elapsed⟩ s).1 = reply at hchange hends
  dsimp only at hchange
  cases hchange with
  | generated | missing | rotated => exact hends.elim
  | unknown =>
      obtain ⟨-, error, herror, htimed⟩ := hends
      cases herror
      exact absurd htimed (by decide)
  | accepted =>
      obtain ⟨-, error, herror, -⟩ := hends
      cases herror
  | @refused raw' sourceIp key e hfound hcheck =>
      obtain ⟨rfl, error, herror, htimed⟩ := hends
      cases herror
      have hkey := List.mem_of_find?_eq_some hfound
      have hhash : key.hash = env.sha256Hex raw' := by simpa using List.find?_some hfound
      refine ⟨fun k hk hk' => ?_, hhash ▸ List.mem_map_of_mem hkey⟩
      rw [hunique k hk key hkey (hk'.trans hhash.symm)]
      exact checkKey_timedOut_iff.mp ⟨e, hcheck, htimed⟩
  | @deleted name _ =>
      obtain ⟨key, hkey, hhash, hname⟩ := hends
      refine ⟨fun k hk hk' => ?_, hhash ▸ List.mem_map_of_mem hkey⟩
      obtain ⟨hk, hother⟩ := List.mem_filter.mp hk
      rw [hunique k hk key hkey (hk'.trans hhash.symm), hname] at hother
      simp at hother

theorem keepsLimits_step (hkeeps : keepsAuthority s call = true) :
    KeepsLimits env (Exec.of (KeyStore.step env) call s) := by
  intro oldName graceMinutes bytes raw key hact hreply
  have hchange := (@keyChange_step env call s).1
  change (KeyStore.step env call s).1 = _ at hreply
  change call.act = _ at hact
  rw [hact, hreply] at hchange
  generalize (KeyStore.step env call s).2.keys = keys' at hchange
  cases hchange with
  | @rotated _ _ _ old hfound =>
      simp only [keepsAuthority, hact, hfound, Option.all_some, Bool.and_eq_true, beq_iff_eq,
        List.isEmpty_iff] at hkeeps
      obtain ⟨⟨-, hcidrs⟩, httl⟩ := hkeeps
      refine ⟨old, hfound, rfl, rfl, hcidrs.symm, httl.symm, fun sourceIp error herror => ?_⟩
      simp [checkSource, hcidrs] at herror

/-! ### Runs -/

abbrev draws (es : List KeyStep) : List String := es.filterMap fun e => e.action.drawn

def Fresh (past : List KeyStep) (e : KeyStep) : Prop :=
  ∀ encoded, e.action.drawn = some encoded → encoded ∉ draws past

theorem fresh_of_nodup {es : List KeyStep} (h : (draws (past ++ es)).Nodup) :
    AlongFrom Fresh past es := by
  induction es generalizing past with
  | nil => trivial
  | cons e es ih =>
      refine ⟨fun encoded hencoded hmem => ?_, ih (by simpa using h)⟩
      rw [draws, List.filterMap_append] at h
      have hagain : encoded ∈ draws (e :: es) :=
        List.mem_filterMap.mpr ⟨e, List.mem_cons_self, hencoded⟩
      exact List.disjoint_of_nodup_append h hmem hagain

theorem made_of_run (hsha : Function.Injective env.sha256Hex) {t : KeyStore} {es : List KeyStep}
    (hrun : Run (KeyStore.step env) {} es t) (hdrawn : (draws es).Nodup) : Made env es t := by
  refine hrun.invariant (I := Made env) (C := Fresh) ⟨nofun, .nil⟩ ?_ (fresh_of_nodup hdrawn)
  exact fun past s call hmade hfresh => hmade.step hsha hfresh

theorem Dead.run {project : String} {bytes : Vector UInt8 32} {t u : KeyStore} {es : List KeyStep}
    (hsha : Function.Injective env.sha256Hex) (hrun : Run (KeyStore.step env) t es u)
    (hdead : Dead (env.sha256Hex (rawKey project (base58Encode bytes))) t)
    (hkeeps : ∀ e ∈ es, keepsAuthority e.before e.action = true)
    (hfresh : base58Encode bytes ∉ draws es) :
    Dead (env.sha256Hex (rawKey project (base58Encode bytes))) u := by
  refine hrun.invariant (I := fun _ => Dead (env.sha256Hex (rawKey project (base58Encode bytes))))
    (C := fun _ e => keepsAuthority e.before e.action = true ∧
      e.action.drawn ≠ some (base58Encode bytes)) hdead ?_ (.of_forall fun e he => ?_)
  · rintro _ s call h ⟨hkeep, hother⟩
    refine h.step hkeep fun project' bytes' hdrawn hsame => hother ?_
    rw [← encoded_of_rawKey_eq (hsha hsame)]
    exact hdrawn
  · exact ⟨hkeeps e he, fun hdrawn => hfresh (List.mem_filterMap.mpr ⟨e, he, hdrawn⟩)⟩

/-- **The authority of keys does not grow.** In every run of calls from the empty store in which the
random parts of keys differ and only keys without limits and within their grace period are rotated, no
key is accepted after it was refused for its time or deleted, and every rotation makes a key with the
limits of the old one. -/
theorem authority_shrinks (hsha : Function.Injective env.sha256Hex) (calls : List KeyCall)
    (hdrawn : (calls.filterMap KeyCall.drawn).Nodup)
    (hkeeps : ∀ e ∈ trace (KeyStore.step env) calls {}, keepsAuthority e.before e.action = true) :
    StaysEnded env (trace (KeyStore.step env) calls {}) ∧
      ∀ e ∈ trace (KeyStore.step env) calls {}, KeepsLimits env e := by
  have hrun := @run_trace _ _ _ (KeyStore.step env) calls {}
  have hdrawn' : (draws (trace (KeyStore.step env) calls {})).Nodup := by
    rw [← @map_action_trace _ _ _ (KeyStore.step env) calls {}, List.filterMap_map] at hdrawn
    exact hdrawn
  generalize trace (KeyStore.step env) calls {} = es at hrun hkeeps hdrawn'
  refine ⟨?_, fun e he => ?_⟩
  · rintro past e rest raw rfl hends e' he'
    obtain ⟨t, hpast, hrest⟩ := hrun.exists_of_append
    obtain ⟨heof, hafter⟩ := hrest.of_cons
    rw [heof] at hends hafter
    rw [draws, List.filterMap_append] at hdrawn'
    have hmade := made_of_run hsha hpast (List.nodup_append.mp hdrawn').1
    obtain ⟨hdead, hmem⟩ := hmade.dead_of_ends hends
    obtain ⟨project, bytes, hbytes, hhash⟩ := hmade.made _ hmem
    -- up to the call in question the key stays dead
    obtain ⟨between, rest', rfl⟩ := List.append_of_mem he'
    obtain ⟨u, hbetween, hlast⟩ := hafter.exists_of_append
    rw [hlast.of_cons.1]
    apply Dead.not_accepts
    rw [hhash] at hdead ⊢
    refine hdead.run hsha hbetween (fun e'' he'' => hkeeps e'' ?_) fun hagain => ?_
    · exact List.mem_append_right _ (List.mem_cons_of_mem _ (List.mem_append_left _ he''))
    · refine List.disjoint_of_nodup_append hdrawn' hbytes ?_
      obtain ⟨e'', he'', hsome⟩ := List.mem_filterMap.mp hagain
      exact List.mem_filterMap.mpr
        ⟨e'', List.mem_cons_of_mem _ (List.mem_append_left _ he''), hsome⟩
  · obtain ⟨past, rest, rfl⟩ := List.append_of_mem he
    obtain ⟨t, -, hrest⟩ := hrun.exists_of_append
    obtain ⟨call, rfl⟩ : ∃ call, e = Exec.of (KeyStore.step env) call t := ⟨_, hrest.of_cons.1⟩
    exact keepsLimits_step (hkeeps _ he)

/-- Texts as their own hashes, and no IPv6 addresses. -/
def plainEnv : Env := ⟨id, fun _ => none⟩

/-- A key is made, rotated, used in its grace period and after it, and deleted. -/
def orderlyCalls : List KeyCall :=
  [⟨.generate "p" .admin [] 0 (.replicate 32 0), 100⟩,
    ⟨.rotate "p-11111111" 5 (.replicate 32 1), 0⟩,
    ⟨.validate (rawKey "p" (base58Encode (.replicate 32 0))) none, 60⟩,
    ⟨.validate (rawKey "p" (base58Encode (.replicate 32 0))) none, 600⟩,
    ⟨.delete "p-11111111", 0⟩]

theorem authority_shrinks_orderly :
    (∀ e ∈ trace (KeyStore.step plainEnv) orderlyCalls {},
      keepsAuthority e.before e.action = true) ∧
    StaysEnded plainEnv (trace (KeyStore.step plainEnv) orderlyCalls {}) := by
  have hkeeps : ∀ e ∈ trace (KeyStore.step plainEnv) orderlyCalls {},
      keepsAuthority e.before e.action = true := by decide +kernel
  have hdrawn : (orderlyCalls.filterMap KeyCall.drawn).Nodup := by decide +kernel
  exact ⟨hkeeps, (authority_shrinks Function.injective_id orderlyCalls hdrawn hkeeps).1⟩

/-- The same key is rotated again after its grace period, and used. -/
def revivingCalls : List KeyCall :=
  [⟨.generate "p" .admin [] 0 (.replicate 32 0), 100⟩,
    ⟨.rotate "p-11111111" 5 (.replicate 32 1), 0⟩,
    ⟨.validate (rawKey "p" (base58Encode (.replicate 32 0))) none, 660⟩,
    ⟨.rotate "p-11111111" 5 (.replicate 32 2), 0⟩,
    ⟨.validate (rawKey "p" (base58Encode (.replicate 32 0))) none, 60⟩]

/-- A key with an allowlist and a time to live is rotated. -/
def unlimitingCalls : List KeyCall :=
  [⟨.generate "p" .admin ["10.0.0.0/8"] 3600 (.replicate 32 0), 100⟩,
    ⟨.rotate "p-11111111" 5 (.replicate 32 1), 0⟩]

/-- A key is accepted that was refused because its grace period was over; and the key that replaces a
limited one has no limits. -/
theorem authority_grows :
    ¬ StaysEnded plainEnv (trace (KeyStore.step plainEnv) revivingCalls {}) ∧
    ¬ ∀ e ∈ trace (KeyStore.step plainEnv) unlimitingCalls {}, KeepsLimits plainEnv e := by
  constructor
  · intro hstays
    let after (n : ℕ) : KeyStore := reached (KeyStore.step plainEnv) (revivingCalls.take n) {}
    let call (n : ℕ) : KeyCall := revivingCalls.getD n ⟨.delete "", 0⟩
    let e (n : ℕ) : KeyStep := Exec.of (KeyStore.step plainEnv) (call n) (after n)
    have hends : Ends plainEnv (rawKey "p" (base58Encode (.replicate 32 0))) (e 2) :=
      ⟨rfl, unauthorized "API key grace period expired", by decide +kernel, by decide +kernel⟩
    have haccepted : (match (e 4).reply with | .validated _ => true | _ => false) = true := by
      decide +kernel
    refine hstays [e 0, e 1] (e 2) [e 3, e 4] _ rfl hends (e 4) (by simp) ?_
    split at haccepted
    · rename_i key hreply
      exact ⟨none, key, rfl, hreply⟩
    · cases haccepted
  · intro hkeeps
    let e : KeyStep := Exec.of (KeyStore.step plainEnv) ⟨.rotate "p-11111111" 5 (.replicate 32 1), 0⟩
      (reached (KeyStore.step plainEnv) (unlimitingCalls.take 1) {})
    obtain ⟨old, hold, -, -, -, httl, -⟩ := hkeeps e (List.mem_cons_of_mem _ List.mem_cons_self)
      "p-11111111" 5 (.replicate 32 1) _ _ rfl rfl
    have hlimited : (e.before.keys.find? fun k => k.name == "p-11111111").map (·.ttl) =
        some 3600 := by decide +kernel
    rw [hold, Option.map_some, ← httl] at hlimited
    exact absurd hlimited (by decide)

end Api

end Syfrah
