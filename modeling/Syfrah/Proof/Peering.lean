import Syfrah.Fabric.Peering
import Syfrah.Lib.Run
import Syfrah.Lib.Slots
import Syfrah.Lib.TreeMap

/-!
# Who gets the mesh secret

A connection is promised the secret when a response with it has been made and not yet been written. The
invariant says why it was promised, and that the entries of the map stand for the requests of their
connections.
-/

namespace Syfrah

namespace Mesh

variable {Key Digest : Type}

/-! ### The property -/

/-- The entry shows the request: its name, key and endpoint. -/
def JoinRequestInfo.Shows (info : JoinRequestInfo) (req : JoinRequest Key Digest) : Prop :=
  info.nodeName = req.nodeName ∧ info.wgPublicKey = req.wgPublicKey ∧ info.endpoint = req.endpoint

instance (info : JoinRequestInfo) (req : JoinRequest Key Digest) : Decidable (info.Shows req) :=
  inferInstanceAs (Decidable (_ ∧ _))

/-- The operator was shown the request under the id that they accepted. -/
def Approval.Covers (a : Approval) (req : JoinRequest Key Digest) : Prop :=
  ∃ info ∈ a.listing, info.requestId = a.requestId ∧ info.Shows req

namespace Peering

def Approves (s : Peering Key Digest) (req : JoinRequest Key Digest) : Prop :=
  ∃ a ∈ s.approvals, a.Covers req

/-- The secret was written only while peering was active, and only for the PIN of that time or with the
operator's approval. -/
def SecretKept (s : Peering Key Digest) : Prop :=
  ∀ w ∈ s.written, w.response.meshSecret.isSome = true →
    w.active = true ∧ ((∃ pin, w.request.pin = some pin ∧ w.pin = some pin) ∨ s.Approves w.request)

instance (s : Peering Key Digest) : Decidable s.SecretKept :=
  inferInstanceAs (Decidable (∀ w ∈ s.written, _ → _ ∧ (_ ∨ ∃ a ∈ s.approvals, ∃ info ∈ a.listing, _)))

end Peering

/-! ### The condition -/

namespace Connection

def request : Connection Key Digest → Option (JoinRequest Key Digest)
  | .validated _ req => some req
  | .delayed req => some req
  | .queueing req => some req
  | .waiting req _ => some req
  | .orphaned req => some req
  | .expired req => some req
  | .answering req _ _ => some req
  | .closed => none

def response : Connection Key Digest → Option JoinResponse
  | .waiting _ answer => answer
  | .answering _ response _ => some response
  | _ => none

def promised (c : Connection Key Digest) : Bool := c.response.any (·.meshSecret.isSome)

end Connection

/-- A right PIN is presented only while peering is active; peering stops only when no accepted response
waits to be written; the operator accepts only while peering is active, and only an id under which they
were last shown the request that is stored there. -/
def PeeringAct.orderly (s : Peering Key Digest) : PeeringAct Key Digest → Bool
  | .advance i _ _ _ =>
    match s.connections[i]?, s.autoAccept with
    | some (.validated _ req), some config => req.pin != some config.pin || s.active
    | _, _ => true
  | .peeringStop => s.connections.all fun c => !c.promised
  | .peeringAccept requestId _ =>
    match s.pending[requestId]? with
    | some e => s.active && s.listing.any fun info => info.requestId = requestId &&
        info.nodeName = e.info.nodeName && info.wgPublicKey = e.info.wgPublicKey &&
        info.endpoint = e.info.endpoint
    | none => true
  | _ => true

/-! ### The invariant -/

namespace Peering

variable {s s' : Peering Key Digest} {i : ℕ} {old new c : Connection Key Digest}
  {req : JoinRequest Key Digest}

structure Entitled (s : Peering Key Digest) (c : Connection Key Digest)
    (req : JoinRequest Key Digest) : Prop where
  active : s.active = true
  reason : c.guards = true ∧ (∃ config, s.autoAccept = some config ∧ req.pin = some config.pin) ∨
    s.Approves req

structure Vetted (s : Peering Key Digest) : Prop where
  entitled : ∀ (i : ℕ) c req, s.connections[i]? = some c → c.request = some req →
    c.promised = true → s.Entitled c req
  bound : ∀ (id : String) e, s.pending[id]? = some e → e.connection < s.connections.length
  shown : ∀ (id : String) e c req, s.pending[id]? = some e → s.connections[e.connection]? = some c →
    c.request = some req → e.info.Shows req
  kept : s.SecretKept

theorem Approves.mono (h : s.Approves req) (hsub : s.approvals ⊆ s'.approvals) : s'.Approves req := by
  obtain ⟨a, ha, hcovers⟩ := h
  exact ⟨a, hsub ha, hcovers⟩

theorem SecretKept.mono (h : s.SecretKept) (hsub : s.approvals ⊆ s'.approvals)
    (hwritten : s'.written = s.written) : s'.SecretKept := by
  intro w hw hsecret
  obtain ⟨hactive, hreason⟩ := h w (hwritten ▸ hw) hsecret
  exact ⟨hactive, hreason.imp_right fun happroves => happroves.mono hsub⟩

theorem vetted_start : (Peering.start : Peering Key Digest).Vetted where
  entitled _ _ _ h := by simp [start] at h
  bound _ _ h := by simp [start] at h
  shown _ _ _ _ h := by simp [start] at h
  kept _ h := by simp [start] at h

structure Steady (s s' : Peering Key Digest) : Prop where
  active : s'.active = s.active
  autoAccept : s'.autoAccept = s.autoAccept
  approvals : s.approvals ⊆ s'.approvals
  written : s'.written = s.written

theorem Entitled.steady (h : s.Entitled c req) (hs : Steady s s') : s'.Entitled c req where
  active := hs.active.trans h.active
  reason := h.reason.imp (fun ⟨hguards, config, hauto, hpin⟩ =>
    ⟨hguards, config, hs.autoAccept.trans hauto, hpin⟩) fun happroves => happroves.mono hs.approvals

namespace Vetted

/-- **One connection goes on.** Its request stays, a new entry of the map is its own, and if it is
promised the secret there is a reason. -/
theorem move (h : s.Vetted) (hs : Steady s s') (hi : s.connections[i]? = some old)
    (hconnections : s'.connections = s.connections.set i new)
    (hrequest : ∀ req, new.request = some req → old.request = some req)
    (hpromised : ∀ req, new.request = some req → new.promised = true → s'.Entitled new req)
    (hpending : ∀ (id : String) e, s'.pending[id]? = some e → s.pending[id]? = some e ∨
      e.connection = i ∧ ∀ req, old.request = some req → e.info.Shows req) : s'.Vetted where
  entitled j c req hj hreq hprom := by
    rw [hconnections] at hj
    rcases of_getElem?_set hj with ⟨-, rfl⟩ | ⟨-, hold⟩
    · exact hpromised req hreq hprom
    · exact (h.entitled j c req hold hreq hprom).steady hs
  bound id e he := by
    rw [hconnections, List.length_set]
    rcases hpending id e he with hold | ⟨rfl, -⟩
    · exact h.bound id e hold
    · exact (List.getElem?_eq_some_iff.mp hi).1
  shown id e c req he hc hreq := by
    rw [hconnections] at hc
    rcases of_getElem?_set hc with ⟨heq, rfl⟩ | ⟨hne, hc⟩
    · rcases hpending id e he with hold | ⟨-, hown⟩
      · exact h.shown id e old req hold (heq ▸ hi) (hrequest req hreq)
      · exact hown req (hrequest req hreq)
    · rcases hpending id e he with hold | ⟨heq, -⟩
      · exact h.shown id e c req hold hc hreq
      · exact absurd heq hne
  kept := h.kept.mono hs.approvals hs.written

theorem drop (h : s.Vetted) (hs : Steady s s') (hconnections : s'.connections = s.connections)
    (hpending : ∀ (id : String) e, s'.pending[id]? = some e → s.pending[id]? = some e) : s'.Vetted where
  entitled j c req hj hreq hprom :=
    (h.entitled j c req (hconnections ▸ hj) hreq hprom).steady hs
  bound id e he := hconnections ▸ h.bound id e (hpending id e he)
  shown id e c req he hc hreq := h.shown id e c req (hpending id e he) (hconnections ▸ hc) hreq
  kept := h.kept.mono hs.approvals hs.written

theorem set (h : s.Vetted) (hs : Steady s s') (hi : s.connections[i]? = some old)
    (hconnections : s'.connections = s.connections.set i new)
    (hrequest : ∀ req, new.request = some req → old.request = some req)
    (hunpromised : new.promised = false)
    (hpending : ∀ (id : String) e, s'.pending[id]? = some e → s.pending[id]? = some e) :
    s'.Vetted :=
  h.move hs hi hconnections hrequest
    (fun _ _ hpromised => absurd hpromised (by simp [hunpromised]))
    fun id e he => .inl (hpending id e he)

theorem connect (h : s.Vetted) (hnew : new.promised = false) :
    { s with connections := s.connections ++ [new] }.Vetted where
  entitled j c req hj hreq hprom := by
    rcases of_getElem?_concat hj with hold | ⟨-, rfl⟩
    · exact (h.entitled j c req hold hreq hprom).steady ⟨rfl, rfl, fun _ => id, rfl⟩
    · exact absurd hprom (by simp [hnew])
  bound id e he := by
    have hlt := h.bound id e he
    simp only [List.length_append, List.length_singleton]
    omega
  shown id e c req he hc hreq := by
    rcases of_getElem?_concat hc with hold | ⟨hlast, -⟩
    · exact h.shown id e c req he hold hreq
    · exact absurd hlast (h.bound id e he).ne
  kept := h.kept

theorem checkPin {daemon : Daemon Digest} (h : s.Vetted) {peer : SocketAddr}
    (hi : s.connections[i]? = some (.validated peer req))
    (hactive : ∀ config, s.autoAccept = some config → req.pin = some config.pin → s.active = true)
    (now peerCount : ℕ) (stored : List PeerRecord) :
    (s.checkPin daemon i peer req now peerCount stored).Vetted := by
  unfold Peering.checkPin
  split
  · next pin config hpin hauto =>
    dsimp only
    split
    · exact h.set ⟨rfl, rfl, fun _ => id, rfl⟩ hi rfl (fun _ => id) rfl fun _ _ => id
    · split
      · next hmatch =>
        split
        · exact h.set ⟨rfl, rfl, fun _ => id, rfl⟩ hi rfl (fun _ => id) rfl fun _ _ => id
        · split
          · next response _ _ =>
            refine h.move ⟨rfl, rfl, fun _ => id, rfl⟩ hi rfl (fun _ => id) ?_ fun _ _ => .inl
            rintro _ hreq -
            cases hreq
            have hsame : req.pin = some config.pin := hpin.trans (congrArg some hmatch.symm)
            exact ⟨hactive config hauto hsame, .inl ⟨rfl, config, hauto, hsame⟩⟩
          · exact h.set ⟨rfl, rfl, fun _ => id, rfl⟩ hi rfl nofun rfl fun _ _ => id
      · exact h.set ⟨rfl, rfl, fun _ => id, rfl⟩ hi rfl (fun _ => id) rfl fun _ _ => id
  · exact h.set ⟨rfl, rfl, fun _ => id, rfl⟩ hi rfl (fun _ => id) rfl fun _ _ => id

theorem enqueue {daemon : Daemon Digest} (h : s.Vetted)
    (hi : s.connections[i]? = some (.queueing req)) (now : ℕ) :
    (s.enqueue daemon i req now).Vetted := by
  unfold Peering.enqueue
  extract_lets pending
  have hpending : ∀ (id : String) e, pending[id]? = some e → s.pending[id]? = some e := by
    intro id e he
    simp only [pending] at he
    split at he
    · exact (Std.ExtTreeMap.of_getElem?_erase he).2
    · exact he
  split
  · exact h.set ⟨rfl, rfl, fun _ => id, rfl⟩ hi rfl nofun rfl hpending
  · refine h.move ⟨rfl, rfl, fun _ => id, rfl⟩ hi rfl (fun _ => id)
      (fun _ _ hprom => nomatch hprom) fun id e he => ?_
    rcases Std.ExtTreeMap.of_getElem?_insert he with ⟨-, rfl⟩ | ⟨-, hold⟩
    · refine .inr ⟨rfl, ?_⟩
      rintro _ hreq
      cases hreq
      exact ⟨rfl, rfl, rfl⟩
    · exact .inl (hpending id e hold)

theorem write (h : s.Vetted) {response : JoinResponse} {guarded : Bool}
    (hi : s.connections[i]? = some (.answering req response guarded)) :
    { s.setConnection i .closed with
      written := ⟨req, response, s.active, s.autoAccept.map AutoAcceptConfig.pin⟩ ::
        s.written }.Vetted where
  entitled j c req' hj hreq hprom := by
    rcases of_getElem?_set hj with ⟨-, rfl⟩ | ⟨-, hold⟩
    · cases hreq
    · obtain ⟨hactive, hreason⟩ := h.entitled j c req' hold hreq hprom
      exact ⟨hactive, hreason⟩
  bound id e he := by
    have hlt := h.bound id e he
    simpa [setConnection] using hlt
  shown id e c req' he hc hreq := by
    rcases of_getElem?_set hc with ⟨-, rfl⟩ | ⟨-, hold⟩
    · cases hreq
    · exact h.shown id e c req' he hold hreq
  kept := by
    refine List.forall_mem_cons.mpr ⟨fun hsecret => ?_, h.kept⟩
    obtain ⟨hactive, hreason⟩ := h.entitled i _ req hi rfl hsecret
    refine ⟨hactive, hreason.imp_left ?_⟩
    rintro ⟨-, config, hauto, hpin⟩
    exact ⟨config.pin, hpin, by simp [hauto]⟩

theorem advance {daemon : Daemon Digest} (h : s.Vetted) (now peerCount : ℕ)
    (stored : List PeerRecord)
    (hact : (PeeringAct.advance i now peerCount stored).orderly s = true) :
    (s.advance daemon i now peerCount stored).Vetted := by
  have herase (id : String) : ∀ (k : String) e, (s.pending.erase id)[k]? = some e →
      s.pending[k]? = some e := fun k e he => (Std.ExtTreeMap.of_getElem?_erase he).2
  unfold Peering.advance
  split
  · next peer req hi =>
    refine h.checkPin hi (fun config hauto hpin => ?_) now peerCount stored
    simpa [PeeringAct.orderly, hi, hauto, hpin] using hact
  · next req hi => exact h.set ⟨rfl, rfl, fun _ => id, rfl⟩ hi rfl (fun _ => id) rfl fun _ _ => id
  · next req hi => exact h.enqueue hi now
  · next req answer hi =>
    refine h.move ⟨rfl, rfl, fun _ => id, rfl⟩ hi rfl (fun _ => id) ?_ fun _ _ => .inl
    -- the answer was made by the operator, as a waiting connection does not hold the configuration
    intro _ hreq hprom
    obtain ⟨hactive, hreason⟩ := h.entitled i _ _ hi hreq hprom
    exact ⟨hactive, .inr (hreason.resolve_left fun hguards => nomatch hguards.1)⟩
  · next req hi =>
    split
    · exact h
    · exact h.set ⟨rfl, rfl, fun _ => id, rfl⟩ hi rfl (fun _ => id) rfl fun _ _ => id
  · next req hi =>
    exact h.set ⟨rfl, rfl, fun _ => id, rfl⟩ hi rfl nofun rfl (herase req.requestId)
  · next req hi =>
    exact h.set ⟨rfl, rfl, fun _ => id, rfl⟩ hi rfl (fun _ => id) rfl (herase req.requestId)
  · next req response guarded hi => exact h.write hi
  · exact h
  · exact h

theorem connections_answer (requestId : String) (e : PendingJoin) (response : JoinResponse) :
    (s.answer requestId e response).connections = s.connections ∨
      ∃ req, s.connections[e.connection]? = some (.waiting req none) ∧
        (s.answer requestId e response).connections =
          s.connections.set e.connection (.waiting req (some response)) := by
  unfold Peering.answer
  dsimp only
  split
  · next req hwaiting => exact .inr ⟨req, hwaiting, rfl⟩
  · exact .inl rfl

theorem answer (h : s.Vetted) {requestId : String} {e : PendingJoin} {response : JoinResponse}
    {approvals : List Approval} (hsub : s.approvals ⊆ approvals)
    (hentitled : ∀ req, s.connections[e.connection]? = some (.waiting req none) →
      response.meshSecret.isSome = true →
      { s with approvals := approvals }.Entitled (.waiting req (some response)) req) :
    { s.answer requestId e response with approvals := approvals }.Vetted := by
  have herase : ∀ (k : String) e', (s.pending.erase requestId)[k]? = some e' →
      s.pending[k]? = some e' := fun k e' he => (Std.ExtTreeMap.of_getElem?_erase he).2
  rcases connections_answer (s := s) requestId e response with hsame | ⟨req, hwaiting, hset⟩
  · exact h.drop ⟨rfl, rfl, hsub, rfl⟩ hsame herase
  · refine h.move ⟨rfl, rfl, hsub, rfl⟩ hwaiting hset (fun _ => id) ?_
      fun k e' he => .inl (herase k e' he)
    rintro _ hreq hprom
    cases hreq
    obtain ⟨hactive, hreason⟩ := hentitled req hwaiting hprom
    exact ⟨hactive, hreason⟩

theorem advanceCommand (h : s.Vetted) (j : ℕ) : (s.advanceCommand j).Vetted := by
  have hfree {auto : Option AutoAcceptConfig} {commands : List Command}
      (hguards : ¬s.connections.any Connection.guards = true) :
      { s with autoAccept := auto, commands := commands }.Vetted := by
    refine ⟨fun i c req hi hreq hprom => ?_, h.bound, h.shown, h.kept⟩
    obtain ⟨hactive, hreason⟩ := h.entitled i c req hi hreq hprom
    refine ⟨hactive, .inr (hreason.resolve_left fun hheld => hguards ?_)⟩
    exact List.any_eq_true.mpr ⟨c, List.mem_of_getElem? hi, hheld.1⟩
  unfold Peering.advanceCommand
  split
  · split
    · exact h
    · next hguards => exact hfree hguards
  · refine ⟨fun i c req hi hreq hprom => ?_, h.bound, h.shown, h.kept⟩
    exact ⟨rfl, (h.entitled i c req hi hreq hprom).reason⟩
  · split
    · exact h
    · next hguards => exact hfree hguards
  · exact h

variable [DecidableEq Key] [DecidableEq Digest]

theorem step {daemon : Daemon Digest} (h : s.Vetted) {act : PeeringAct Key Digest}
    (hact : act.orderly s = true) : (Peering.step daemon act s).2.Vetted := by
  cases act with
  | connect peer req now =>
      simp only [Peering.step]
      split
      · exact h
      · split
        · exact h.connect rfl
        · exact h.connect rfl
  | advance i now peerCount stored => exact h.advance now peerCount stored hact
  | timeout i =>
      simp only [Peering.step]
      split
      · next req hi =>
        exact h.set ⟨rfl, rfl, fun _ => id, rfl⟩ hi rfl (fun _ => id) rfl fun _ _ => id
      · exact h
  | hangUp i =>
      simp only [Peering.step]
      split
      · next hi => exact h.set ⟨rfl, rfl, fun _ => id, rfl⟩ hi rfl nofun rfl fun _ _ => id
      · exact h
  | peeringStart pin state =>
      cases pin with
      | none => exact h.drop ⟨rfl, rfl, fun _ => id, rfl⟩ rfl fun _ _ => id
      | some pin =>
          cases state with
          | none => exact h
          | some state => exact h.drop ⟨rfl, rfl, fun _ => id, rfl⟩ rfl fun _ _ => id
  | peeringStop =>
      refine ⟨fun i c req hi hreq hprom => ?_, h.bound, h.shown, h.kept⟩
      have hnone := List.all_eq_true.mp hact c (List.mem_of_getElem? hi)
      exact absurd hprom (by simpa using hnone)
  | peeringList => exact h.drop ⟨rfl, rfl, fun _ => id, rfl⟩ rfl fun _ _ => id
  | peeringAccept requestId state =>
      simp only [Peering.step]
      split
      · next state e he =>
        refine h.answer (List.subset_cons_self _ _) fun req hwaiting _ => ?_
        simp only [PeeringAct.orderly, he, Bool.and_eq_true, List.any_eq_true,
          decide_eq_true_eq] at hact
        obtain ⟨hactive, info, hinfo, ⟨⟨hid, hname⟩, hkey⟩, hendpoint⟩ := hact
        obtain ⟨hname', hkey', hendpoint'⟩ := h.shown requestId e _ req he hwaiting rfl
        refine ⟨hactive, .inr ⟨⟨requestId, s.listing⟩, List.mem_cons_self, info, hinfo, hid, ?_⟩⟩
        exact ⟨hname.trans hname', hkey.trans hkey', hendpoint.trans hendpoint'⟩
      · exact h
  | peeringReject requestId reason =>
      simp only [Peering.step]
      split
      · next e he =>
        exact h.answer (fun _ => id) fun _ _ hsecret => absurd hsecret (by simp [JoinResponse.rejection])
      · exact h
  | command j => exact h.advanceCommand j

end Vetted

variable [DecidableEq Key] [DecidableEq Digest]

/-- **The mesh secret goes only to approved joiners**, in every run in which PINs are presented and ids
are accepted while peering is active, and the operator accepts what they were last shown. -/
theorem secretKept_of_orderly (daemon : Daemon Digest) (acts : List (PeeringAct Key Digest))
    (hacts : ∀ e ∈ trace (Peering.step daemon) acts .start, e.action.orderly e.before = true) :
    (reached (Peering.step daemon) acts .start).SecretKept :=
  (invariant_reached (I := Vetted) vetted_start (fun _ _ h hact => h.step hact) hacts).kept

def plainDaemon : Daemon (List UInt8) where
  sha := id
  sha256 _ := Vector.replicate 32 0
  myRecord := ⟨"leader", "leader-key", ⟨"192.0.2.1", 51820, host_one⟩, Vector.replicate 8 0, 0,
    .active, none, none⟩
  maxPeers := 10
  maxPendingJoins := 10

/-- A signed request with an id, a name and a key. -/
def joinOf (requestId nodeName wgPublicKey : String) : JoinRequest ℕ (List UInt8) :=
  signJoinRequest id 0 1 ⟨requestId, nodeName, wgPublicKey, ⟨"192.0.2.7", 51820, host_seven⟩, 51820,
    none, none, none, 0, .empty⟩

def meshState : NodeState := ⟨"mesh", "secret", Vector.replicate 8 0, []⟩

def arrives (i : ℕ) (req : JoinRequest ℕ (List UInt8)) : List (PeeringAct ℕ (List UInt8)) :=
  [.connect ⟨"192.0.2.9", 40000, host_nine⟩ req 0, .advance i 0 0 [], .advance i 0 0 []]

def aliceKey : String := "AAAAAAAAAAAAAAAAAAAAAAAAAAAAAAAAAAAAAAAAAAA="

def malloryKey : String := "BBBBBBBBBBBBBBBBBBBBBBBBBBBBBBBBBBBBBBBBBBA="

/-- The operator lists the requests and accepts one. -/
def acceptedJoin : List (PeeringAct ℕ (List UInt8)) :=
  arrives 0 (joinOf "r1" "alice" aliceKey) ++
    [.peeringList, .peeringAccept "r1" (some meshState), .advance 0 0 0 [], .advance 0 0 0 []]

theorem secretKept_acceptedJoin :
    (reached (Peering.step plainDaemon) acceptedJoin .start).written.length = 1 ∧
      (reached (Peering.step plainDaemon) acceptedJoin .start).SecretKept :=
  ⟨by decide +kernel, secretKept_of_orderly plainDaemon acceptedJoin (by decide +kernel)⟩

/-- The operator is shown alice's request; another request with the same id takes its place before the
operator accepts the id, and gets the secret. -/
def replacedJoin : List (PeeringAct ℕ (List UInt8)) :=
  arrives 0 (joinOf "r1" "alice" aliceKey) ++ [.peeringList] ++
    arrives 1 (joinOf "r1" "mallory" malloryKey) ++
    [.peeringAccept "r1" (some meshState), .advance 1 0 0 [], .advance 1 0 0 []]

theorem secret_for_unshown_request :
    ¬(reached (Peering.step plainDaemon) replacedJoin .start).SecretKept := by
  decide +kernel

end Peering

end Mesh

end Syfrah
