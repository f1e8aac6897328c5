import Syfrah.Api.RateLimit
import Syfrah.Lib.Run

/-!
# What a rejected request costs

A call that the aggregate bucket rejects changes nothing but the instant of the last refill. A call
that the bucket of its key rejects has already taken a token of the aggregate bucket, and other keys
miss it. So calls can be left out of a run without a trace as long as no call finds the bucket of its
key empty while the aggregate bucket is not.
-/

namespace Syfrah

namespace Api

namespace TokenBucket

variable {bucket : TokenBucket} {now later : ℚ}

theorem refill_of_le (h : now ≤ bucket.lastRefill) : bucket.refill now = bucket := by
  rw [refill, max_eq_right (sub_nonpos.mpr h), if_neg (lt_irrefl 0)]

theorem refill_of_lt (h : bucket.lastRefill < now) :
    bucket.refill now = { bucket with
      tokens := min (bucket.tokens + (now - bucket.lastRefill) * bucket.rate) bucket.capacity,
      lastRefill := now } := by
  have hpos := sub_pos.mpr h
  rw [refill, max_eq_left hpos.le, if_pos hpos]

theorem min_min_add {a c g : ℚ} (hg : 0 ≤ g) : min (min a c + g) c = min (a + g) c := by
  rcases le_total a c with h | h
  · rw [min_eq_left h]
  · have hc : c ≤ c + g := le_add_of_nonneg_right hg
    have ha : c ≤ a + g := hc.trans (add_le_add_left h g)
    rw [min_eq_right h, min_eq_right hc, min_eq_right ha]

/-- A refill on the way to a later one is not seen. -/
theorem refill_refill (hrate : 0 ≤ bucket.rate) (h : now ≤ later) :
    (bucket.refill now).refill later = bucket.refill later := by
  rcases le_or_gt now bucket.lastRefill with hle | hlt
  · rw [refill_of_le hle]
  · rcases h.eq_or_lt with rfl | hlater
    · rw [refill_of_lt hlt, refill_of_le le_rfl]
    · rw [refill_of_lt (hlt.trans hlater), refill_of_lt hlt, refill_of_lt hlater]
      have hgain : 0 ≤ (later - now) * bucket.rate := mul_nonneg (sub_nonneg.mpr h) hrate
      congr 1
      refine (min_min_add hgain).trans ?_
      congr 1
      ring

theorem rate_refill (bucket : TokenBucket) (now : ℚ) : (bucket.refill now).rate = bucket.rate := by
  rcases le_or_gt now bucket.lastRefill with hle | hlt
  · rw [refill_of_le hle]
  · rw [refill_of_lt hlt]

theorem tryConsume_eq (bucket : TokenBucket) (now : ℚ) :
    (1 ≤ (bucket.refill now).tokens ∧ bucket.tryConsume now =
      (.ok (), { bucket.refill now with tokens := (bucket.refill now).tokens - 1 })) ∨
    ((bucket.refill now).tokens < 1 ∧ ∃ retryMs, bucket.tryConsume now = (.error retryMs, bucket.refill now)) := by
  rcases le_or_gt 1 (bucket.refill now).tokens with h | h
  · exact .inl ⟨h, if_pos h⟩
  · exact .inr ⟨h, _, if_neg (not_le.mpr h)⟩

end TokenBucket

structure Call where
  keyName : String
  now : ℚ

namespace RateLimiter

/-- A call marked with whether it stays in the sequence. -/
def step (call : Call × Bool) (limiter : RateLimiter) : Except RateLimitRejection Unit × RateLimiter :=
  limiter.checkAt call.1.keyName call.1.now

/-- The aggregate bucket is empty at the call, or the bucket of its key is not. -/
def Spares (limiter : RateLimiter) (call : Call) : Prop :=
  (limiter.aggregate.refill call.now).tokens < 1 ∨
    1 ≤ ((limiter.bucket call.keyName call.now).refill call.now).tokens

variable {limiter : RateLimiter} {aggregate : TokenBucket} {call : Call × Bool} {calls : List (Call × Bool)}

theorem step_congr (h : aggregate.refill call.1.now = limiter.aggregate.refill call.1.now) :
    step call { limiter with aggregate } = step call limiter := by
  have hconsume : aggregate.tryConsume call.1.now = limiter.aggregate.tryConsume call.1.now := by
    rw [TokenBucket.tryConsume, TokenBucket.tryConsume, h]
  simp only [step, checkAt, hconsume]
  rfl

/-- **Where a call is rejected**: by the aggregate bucket, which it only refills, if it is spared. -/
theorem step_of_rejected (hspares : limiter.Spares call.1) {e : RateLimitRejection}
    (h : (step call limiter).1 = .error e) :
    (step call limiter).2 = { limiter with aggregate := limiter.aggregate.refill call.1.now } := by
  rw [step, checkAt] at h ⊢
  rcases limiter.aggregate.tryConsume_eq call.1.now with ⟨htokens, heq⟩ | ⟨-, retryMs, heq⟩
  · have hkey := hspares.resolve_left (not_lt.mpr htokens)
    rcases (limiter.bucket call.1.keyName call.1.now).tryConsume_eq call.1.now with ⟨-, hok⟩ | ⟨hlt, -⟩
    · simp [heq, hok] at h
    · exact absurd hkey (not_le.mpr hlt)
  · rw [heq]

theorem aggregate_rate_step (call : Call × Bool) (limiter : RateLimiter) :
    (step call limiter).2.aggregate.rate = limiter.aggregate.rate := by
  have hrefill := limiter.aggregate.rate_refill call.1.now
  rw [step, checkAt]
  rcases limiter.aggregate.tryConsume_eq call.1.now with ⟨-, heq⟩ | ⟨-, retryMs, heq⟩ <;> rw [heq]
  · rcases (limiter.bucket call.1.keyName call.1.now).tryConsume_eq call.1.now with ⟨-, hok⟩ | ⟨-, e, hok⟩ <;>
      rw [hok] <;> exact hrefill
  · exact hrefill

/-- The run without the calls that are taken out keeps up with the whole run, up to refills of the
aggregate bucket that later ones cover. -/
theorem replies_filter (hrate : 0 ≤ limiter.aggregate.rate) (hsorted : calls.Pairwise (·.1.now ≤ ·.1.now))
    (hspares : ∀ e ∈ trace step calls limiter, e.before.Spares e.action.1)
    (hout : ∀ e ∈ trace step calls limiter, e.action.2 = false → ∃ r, e.reply = .error r)
    (hagree : ∀ c ∈ calls, aggregate.refill c.1.now = limiter.aggregate.refill c.1.now) :
    (trace step (calls.filter (·.2)) { limiter with aggregate }).map (·.reply) =
      ((trace step calls limiter).filter (·.action.2)).map (·.reply) := by
  induction calls generalizing limiter aggregate with
  | nil => rfl
  | cons call calls ih =>
      obtain ⟨hfirst, hsorted⟩ := List.pairwise_cons.mp hsorted
      obtain ⟨hspare, hspares⟩ := List.forall_mem_cons.mp hspares
      obtain ⟨hgone, hout⟩ := List.forall_mem_cons.mp hout
      obtain ⟨hnow, hagree⟩ := List.forall_mem_cons.mp hagree
      have hrate' := (aggregate_rate_step call limiter).symm ▸ hrate
      rcases hkeep : call.2 with _ | _
      · obtain ⟨r, hr⟩ := hgone hkeep
        have hafter := step_of_rejected hspare hr
        change (step call limiter).2 = _ at hafter
        rw [hafter] at hspares hout hrate'
        rw [List.filter_cons_of_neg (by simp [hkeep]), trace, List.filter_cons_of_neg (by simp [Exec.of, hkeep]),
          hafter]
        refine ih hrate' hsorted hspares hout fun c hc => ?_
        rw [hagree c hc]
        exact (TokenBucket.refill_refill hrate (hfirst c hc)).symm
      · rw [List.filter_cons_of_pos (by simp [hkeep]), trace, trace,
          List.filter_cons_of_pos (by simp [Exec.of, hkeep]), List.map_cons, List.map_cons]
        simp only [Exec.of, step_congr hnow]
        rw [← ih hrate' hsorted hspares hout fun _ _ => rfl]

theorem tryConsume_succ (capacity tokens : ℕ) (rate now : ℚ) :
    TokenBucket.tryConsume ⟨capacity, (tokens + 1 : ℕ), rate, now⟩ now = (.ok (), ⟨capacity, tokens, rate, now⟩) := by
  have hle : (1 : ℚ) ≤ (tokens + 1 : ℕ) := by exact_mod_cast Nat.le_add_left 1 tokens
  rw [TokenBucket.tryConsume, TokenBucket.refill_of_le le_rfl, if_pos hle, Nat.cast_succ, add_sub_cancel_right]

theorem tryConsume_zero (capacity : ℕ) (rate now : ℚ) :
    ∃ retryMs, TokenBucket.tryConsume ⟨capacity, (0 : ℕ), rate, now⟩ now = (.error retryMs, ⟨capacity, (0 : ℕ), rate, now⟩) := by
  rw [TokenBucket.tryConsume, TokenBucket.refill_of_le le_rfl, if_neg (by norm_num)]
  exact ⟨_, rfl⟩

/-- At instant 0, some tokens are left to all keys and to the key `ci`, and the key `web` is unused. -/
structure Drained (limiter : RateLimiter) (all ci : ℕ) : Prop where
  aggregate : limiter.aggregate = ⟨2000, all, 1000, 0⟩
  ci : limiter.bucket "ci" 0 = ⟨200, ci, 100, 0⟩
  web : limiter.bucket "web" 0 = ⟨200, (199 + 1 : ℕ), 100, 0⟩

theorem drained_new : Drained (.new 0) 2000 200 := ⟨by rfl, by rfl, by rfl⟩

theorem bucket_insert (limiter : RateLimiter) (aggregate kept : TokenBucket) :
    let next := { limiter with aggregate, buckets := limiter.buckets.insert "ci" kept }
    next.bucket "ci" 0 = kept ∧ next.bucket "web" 0 = limiter.bucket "web" 0 := by
  refine ⟨?_, ?_⟩
  · rw [bucket, Std.ExtTreeMap.getElem?_insert_self, Option.getD_some]
  · rw [bucket, Std.ExtTreeMap.getElem?_insert, if_neg (by decide)]
    rfl

theorem Drained.accepts {limiter : RateLimiter} {all ci : ℕ} (h : limiter.Drained (all + 1) (ci + 1))
    (kept : Bool) : Drained (step (⟨"ci", 0⟩, kept) limiter).2 all ci := by
  rw [step, checkAt, h.aggregate, tryConsume_succ, h.ci, tryConsume_succ]
  exact ⟨rfl, (bucket_insert ..).1, (bucket_insert ..).2.trans h.web⟩

theorem Drained.rejects {limiter : RateLimiter} {all : ℕ} (h : limiter.Drained (all + 1) 0) (kept : Bool) :
    (∃ r, (step (⟨"ci", 0⟩, kept) limiter).1 = .error r) ∧ Drained (step (⟨"ci", 0⟩, kept) limiter).2 all 0 := by
  obtain ⟨retryMs, hzero⟩ := tryConsume_zero 200 100 0
  rw [step, checkAt, h.aggregate, tryConsume_succ, h.ci, hzero]
  exact ⟨⟨_, rfl⟩, rfl, (bucket_insert ..).1, (bucket_insert ..).2.trans h.web⟩

theorem Drained.accepts_replicate {limiter : RateLimiter} {all ci n : ℕ} (h : limiter.Drained (all + n) (ci + n)) :
    Drained (reached step (List.replicate n (⟨"ci", 0⟩, true)) limiter) all ci := by
  induction n generalizing limiter with
  | zero => exact h
  | succ n ih => exact ih (h.accepts true)

theorem Drained.rejects_replicate {limiter : RateLimiter} {all n : ℕ} (h : limiter.Drained (all + n) 0) :
    (∀ e ∈ trace step (List.replicate n (⟨"ci", 0⟩, false)) limiter, ∃ r, e.reply = .error r) ∧
      Drained (reached step (List.replicate n (⟨"ci", 0⟩, false)) limiter) all 0 := by
  induction n generalizing limiter with
  | zero => exact ⟨by simp [trace], h⟩
  | succ n ih =>
      obtain ⟨hreply, hnext⟩ := h.rejects false
      obtain ⟨hreplies, hdrained⟩ := ih hnext
      exact ⟨List.forall_mem_cons.mpr ⟨hreply, hreplies⟩, hdrained⟩

theorem Drained.web_of_pos {limiter : RateLimiter} {all ci : ℕ} (h : limiter.Drained (all + 1) ci) :
    (step (⟨"web", 0⟩, true) limiter).1 = .ok () := by
  rw [step, checkAt, h.aggregate, tryConsume_succ, h.web, tryConsume_succ]

theorem Drained.web_of_zero {limiter : RateLimiter} {ci : ℕ} (h : limiter.Drained 0 ci) :
    (step (⟨"web", 0⟩, true) limiter).1 ≠ .ok () := by
  obtain ⟨retryMs, hzero⟩ := tryConsume_zero 2000 1000 0
  rw [step, checkAt, h.aggregate, hzero]
  exact fun heq => nomatch heq

/-- Calls of one key, some accepted and some not, and a call of another key. -/
def flood (accepted rejected : ℕ) : List (Call × Bool) :=
  (List.replicate accepted (⟨"ci", 0⟩, true) ++ List.replicate rejected (⟨"ci", 0⟩, false)) ++
    [(⟨"web", 0⟩, true)]

theorem filter_flood (accepted rejected : ℕ) :
    (flood accepted rejected).filter (·.2) = List.replicate accepted (⟨"ci", 0⟩, true) ++ [(⟨"web", 0⟩, true)] := by
  simp [flood, List.filter_append]

theorem Drained.flood_differs {limiter : RateLimiter} {accepted rejected : ℕ}
    (h : limiter.Drained (rejected + 1 + accepted) (0 + accepted)) :
    (flood accepted (rejected + 1)).Pairwise (·.1.now ≤ ·.1.now) ∧
      (∀ e ∈ trace step (flood accepted (rejected + 1)) limiter,
        e.action.2 = false → ∃ r, e.reply = .error r) ∧
      (trace step ((flood accepted (rejected + 1)).filter (·.2)) limiter).map (·.reply) ≠
        ((trace step (flood accepted (rejected + 1)) limiter).filter (·.action.2)).map (·.reply) := by
  have haccepted := h.accepts_replicate
  rw [← Nat.zero_add (rejected + 1)] at haccepted
  obtain ⟨hrejected, hdrained⟩ := haccepted.rejects_replicate
  refine ⟨List.pairwise_of_forall_mem_list fun c hc d hd => ?_, ?_, fun heq => ?_⟩
  · have hzero : ∀ c ∈ flood accepted (rejected + 1), c.1.now = 0 := by simp [flood, or_imp, forall_and]
    rw [hzero c hc, hzero d hd]
  · rw [flood, trace_append, trace_append]
    intro e he hgone
    rcases List.mem_append.mp he with he | he
    · rcases List.mem_append.mp he with he | he
      · have hkept := List.eq_of_mem_replicate (action_mem_of_mem_trace he)
        rw [hkept] at hgone
        cases hgone
      · exact hrejected e he
    · cases List.mem_singleton.mp he
      cases hgone
  · rw [filter_flood, flood, trace_append, trace_append, List.filter_append, List.map_append,
      List.map_append, reached_append] at heq
    have hlast := List.singleton_inj.mp (List.append_inj_right' heq rfl)
    rw [Nat.zero_add] at haccepted
    exact hdrained.web_of_zero (hlast.symm.trans haccepted.web_of_pos)

end RateLimiter

end Api

end Syfrah
