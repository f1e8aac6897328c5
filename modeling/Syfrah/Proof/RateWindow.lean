import Syfrah.Lib.Budget
import Syfrah.Lib.Text
import Syfrah.Proof.RateLimit

/-!
# How many requests pass the rate limiter

Both kinds of buckets are budgets: what a bucket holds after a refill grows at most at its rate, never
exceeds its capacity, and goes down by one with each request that it lets pass.
-/

namespace Syfrah

namespace Api

namespace TokenBucket

variable {capacity : ℕ} {rate now later : ℚ} {b : TokenBucket}

/-- A bucket of a capacity and rate that was not refilled after `now`. -/
structure Sound (capacity : ℕ) (rate : ℚ) (b : TokenBucket) (now : ℚ) : Prop where
  capacity_eq : b.capacity = capacity
  rate_eq : b.rate = rate
  tokens_nonneg : 0 ≤ b.tokens
  tokens_le : b.tokens ≤ capacity
  lastRefill_le : b.lastRefill ≤ now

theorem sound_newAt (capacity : ℕ) (rate now : ℚ) : Sound capacity rate (newAt rate capacity now) now :=
  ⟨rfl, rfl, Nat.cast_nonneg capacity, le_rfl, le_rfl⟩

theorem refill_newAt (capacity : ℕ) (rate now : ℚ) :
    (newAt rate capacity now).refill now = newAt rate capacity now := refill_of_le le_rfl

namespace Sound

variable (h : Sound capacity rate b now)
include h

theorem mono (hlater : now ≤ later) : Sound capacity rate b later :=
  { h with lastRefill_le := h.lastRefill_le.trans hlater }

theorem tokens_refill : (b.refill now).tokens = min (b.tokens + (now - b.lastRefill) * rate) capacity := by
  rcases h.lastRefill_le.lt_or_eq with hlt | heq
  · rw [refill_of_lt hlt, h.rate_eq, h.capacity_eq]
  · rw [refill_of_le heq.ge, heq, sub_self, zero_mul, add_zero, min_eq_left h.tokens_le]

theorem lastRefill_refill : (b.refill now).lastRefill = now := by
  rcases h.lastRefill_le.lt_or_eq with hlt | heq
  · rw [refill_of_lt hlt]
  · rw [refill_of_le heq.ge, heq]

theorem refill (hrate : 0 ≤ rate) : Sound capacity rate (b.refill now) now where
  capacity_eq := by
    rcases le_or_gt now b.lastRefill with hle | hlt
    · rw [refill_of_le hle, h.capacity_eq]
    · rw [refill_of_lt hlt, h.capacity_eq]
  rate_eq := (rate_refill b now).trans h.rate_eq
  tokens_nonneg := by
    have hgain := mul_nonneg (sub_nonneg.mpr h.lastRefill_le) hrate
    rw [h.tokens_refill]
    exact le_min (add_nonneg h.tokens_nonneg hgain) (Nat.cast_nonneg capacity)
  tokens_le := by
    rw [h.tokens_refill]
    exact min_le_right _ _
  lastRefill_le := h.lastRefill_refill.le

theorem tokens_refill_le (hrate : 0 ≤ rate) (hlater : now ≤ later) :
    (b.refill later).tokens ≤ (b.refill now).tokens + rate * (later - now) := by
  have hgain : 0 ≤ rate * (later - now) := mul_nonneg hrate (sub_nonneg.mpr hlater)
  rw [(h.mono hlater).tokens_refill, h.tokens_refill]
  rcases le_total (b.tokens + (now - b.lastRefill) * rate) capacity with hle | hge
  · rw [min_eq_left hle]
    refine (min_le_left _ _).trans (le_of_eq ?_)
    ring
  · rw [min_eq_right hge]
    exact (min_le_right _ _).trans (le_add_of_nonneg_right hgain)

/-- A request takes a token if it passes, and nothing else. -/
theorem tryConsume (hrate : 0 ≤ rate) : Sound capacity rate (b.tryConsume now).2 now ∧
    ((b.tryConsume now).2.refill now).tokens + (if (b.tryConsume now).1.isOk then 1 else 0) =
      (b.refill now).tokens := by
  have hfull := h.refill hrate
  rcases tryConsume_eq b now with ⟨hle, heq⟩ | ⟨-, retryMs, heq⟩
  · have htaken : Sound capacity rate { b.refill now with tokens := (b.refill now).tokens - 1 } now :=
      { hfull with
        tokens_nonneg := sub_nonneg.mpr hle
        tokens_le := (sub_le_self _ zero_le_one).trans hfull.tokens_le }
    rw [heq]
    refine ⟨htaken, ?_⟩
    have hsame : TokenBucket.refill { b.refill now with tokens := (b.refill now).tokens - 1 } now =
        { b.refill now with tokens := (b.refill now).tokens - 1 } := refill_of_le h.lastRefill_refill.ge
    exact (congrArg (·.tokens + 1) hsame).trans (sub_add_cancel ..)
  · rw [heq]
    refine ⟨hfull, ?_⟩
    rw [refill_of_le h.lastRefill_refill.ge, if_neg (by simp [Except.isOk, Except.toBool]), add_zero]

/-- After the time that a rejection gives there is a token. -/
theorem tryConsume_later (hrate : 0 < rate) (hcapacity : 1 ≤ capacity) {retryMs : ℕ}
    (hreject : (b.tryConsume now).1 = .error retryMs) (hlater : now + retryMs / 1000 ≤ later) :
    ((b.tryConsume now).2.tryConsume later).1 = .ok () := by
  have hnow : now ≤ later := (le_add_of_nonneg_right (by positivity)).trans hlater
  have hfull := h.refill hrate.le
  rcases le_or_gt 1 (b.refill now).tokens with hle | hlt
  · rw [TokenBucket.tryConsume, if_pos hle] at hreject
    cases hreject
  · have heq : b.tryConsume now =
        (.error (max ⌈(1 - (b.refill now).tokens) / (b.refill now).rate * 1000⌉₊ 1), b.refill now) :=
      if_neg (not_le.mpr hlt)
    rw [heq] at hreject ⊢
    have hwait : (1 - (b.refill now).tokens) / rate * 1000 ≤ retryMs := by
      have hceil := Nat.le_ceil ((1 - (b.refill now).tokens) / rate * 1000)
      cases hreject
      rw [hfull.rate_eq]
      exact hceil.trans (by exact_mod_cast le_max_left _ _)
    have hgain : 1 ≤ (b.refill now).tokens + (later - now) * rate := by
      have htime : (1 - (b.refill now).tokens) / rate ≤ later - now := by linarith
      have hmul := (div_le_iff₀ hrate).mp htime
      linarith
    have htoken : 1 ≤ ((b.refill now).refill later).tokens := by
      rw [(hfull.mono hnow).tokens_refill, h.lastRefill_refill]
      exact le_min hgain (by exact_mod_cast hcapacity)
    rw [TokenBucket.tryConsume, if_pos htoken]

end Sound

end TokenBucket

namespace RateLimiter

variable {s : RateLimiter} {now later : ℚ} {key other : String}

def check (call : Call) (s : RateLimiter) : Except RateLimitRejection Unit × RateLimiter :=
  s.checkAt call.keyName call.now

theorem aggregateRate_nonneg : 0 ≤ defaultAggregateRatePerSec := by norm_num [defaultAggregateRatePerSec]

theorem rate_nonneg : 0 ≤ defaultRatePerSec := by norm_num [defaultRatePerSec]

theorem aggregate_checkAt (s : RateLimiter) (key : String) (now : ℚ) :
    (s.checkAt key now).2.aggregate = (s.aggregate.tryConsume now).2 := by
  rw [checkAt]
  rcases s.aggregate.tryConsume_eq now with ⟨-, heq⟩ | ⟨-, retryMs, heq⟩
  · rcases (s.bucket key now).tryConsume_eq now with ⟨-, hkey⟩ | ⟨-, e, hkey⟩ <;> rw [heq, hkey]
  · rw [heq]

/-- The bucket of the key is asked if the aggregate bucket lets the call pass. -/
theorem checkAt_eq (s : RateLimiter) (key : String) (now : ℚ) :
    (s.checkAt key now).1.isOk =
        ((s.aggregate.tryConsume now).1.isOk && ((s.bucket key now).tryConsume now).1.isOk) ∧
      (s.checkAt key now).2.buckets = if (s.aggregate.tryConsume now).1.isOk then
        s.buckets.insert key ((s.bucket key now).tryConsume now).2 else s.buckets := by
  rw [checkAt]
  rcases s.aggregate.tryConsume_eq now with ⟨-, heq⟩ | ⟨-, retryMs, heq⟩
  · rcases (s.bucket key now).tryConsume_eq now with ⟨-, hkey⟩ | ⟨-, e, hkey⟩ <;> rw [heq, hkey] <;>
      exact ⟨rfl, rfl⟩
  · rw [heq]
    exact ⟨rfl, rfl⟩

theorem perKey_checkAt (s : RateLimiter) (key : String) (now : ℚ) :
    (s.checkAt key now).2.perKeyRate = s.perKeyRate ∧ (s.checkAt key now).2.perKeyBurst = s.perKeyBurst := by
  rw [checkAt]
  split
  · exact ⟨rfl, rfl⟩
  · split <;> exact ⟨rfl, rfl⟩

theorem bucket_checkAt (s : RateLimiter) (key other : String) (now : ℚ) :
    (s.checkAt key now).2.bucket other now =
      if key = other ∧ (s.aggregate.tryConsume now).1.isOk = true then ((s.bucket key now).tryConsume now).2
      else s.bucket other now := by
  rw [bucket, (checkAt_eq ..).2, (perKey_checkAt ..).1, (perKey_checkAt ..).2]
  cases (s.aggregate.tryConsume now).1.isOk with
  | false => simp [bucket]
  | true =>
      rw [if_pos rfl, Std.ExtTreeMap.getElem?_insert]
      by_cases heq : key = other
      · subst heq
        simp
      · simp [heq, bucket]

/-- A limiter with the rates and bursts of the source. -/
structure Sound (s : RateLimiter) (now : ℚ) : Prop where
  aggregate : s.aggregate.Sound defaultAggregateBurst defaultAggregateRatePerSec now
  perKeyRate : s.perKeyRate = defaultRatePerSec
  perKeyBurst : s.perKeyBurst = defaultBurst
  buckets : ∀ (key : String) b, s.buckets[key]? = some b → b.Sound defaultBurst defaultRatePerSec now

theorem sound_new (start : ℚ) : Sound (.new start) start :=
  ⟨TokenBucket.sound_newAt .., rfl, rfl, fun key b h => by simp [new] at h⟩

namespace Sound

theorem mono (h : s.Sound now) (hlater : now ≤ later) : s.Sound later :=
  ⟨h.aggregate.mono hlater, h.perKeyRate, h.perKeyBurst, fun key b hb => (h.buckets key b hb).mono hlater⟩

theorem bucket (h : s.Sound now) (key : String) : (s.bucket key now).Sound defaultBurst defaultRatePerSec now := by
  rw [RateLimiter.bucket]
  cases hb : s.buckets[key]? with
  | none =>
      rw [Option.getD_none, h.perKeyRate, h.perKeyBurst]
      exact TokenBucket.sound_newAt ..
  | some b => exact h.buckets key b hb

/-- A bucket that is not there yet is full. -/
theorem available_later (h : s.Sound now) (key : String) (hlater : now ≤ later) :
    ((s.bucket key later).refill later).tokens ≤
      ((s.bucket key now).refill now).tokens + defaultRatePerSec * (later - now) := by
  cases hb : s.buckets[key]? with
  | none =>
      have hgain : 0 ≤ defaultRatePerSec * (later - now) := mul_nonneg rate_nonneg (sub_nonneg.mpr hlater)
      simp only [RateLimiter.bucket, hb, Option.getD_none]
      rw [TokenBucket.refill_newAt, TokenBucket.refill_newAt]
      exact le_add_of_nonneg_right hgain
  | some b =>
      simp only [RateLimiter.bucket, hb, Option.getD_some]
      exact (h.buckets key b hb).tokens_refill_le rate_nonneg hlater

end Sound

section Budgets

theorem Sound.check {call : Call} (h : s.Sound call.now) : (check call s).2.Sound call.now := by
  have hbucket := (h.bucket call.keyName).tryConsume rate_nonneg
  refine ⟨?_, ?_, ?_, fun key b hb => ?_⟩
  · rw [RateLimiter.check, aggregate_checkAt]
    exact (h.aggregate.tryConsume aggregateRate_nonneg).1
  · rw [RateLimiter.check, (perKey_checkAt ..).1, h.perKeyRate]
  · rw [RateLimiter.check, (perKey_checkAt ..).2, h.perKeyBurst]
  · rw [RateLimiter.check, (checkAt_eq ..).2] at hb
    split at hb
    · rw [Std.ExtTreeMap.getElem?_insert] at hb
      split at hb
      · cases hb
        exact hbucket.1
      · exact h.buckets key b hb
    · exact h.buckets key b hb

/-- The bucket of all keys as a budget. -/
def aggregateBudget : Budget check Call.now (fun e => e.reply.isOk) defaultAggregateBurst
    defaultAggregateRatePerSec where
  Valid := Sound
  available s now := (s.aggregate.refill now).tokens
  available_nonneg h := (h.aggregate.refill aggregateRate_nonneg).tokens_nonneg
  available_le h := (h.aggregate.refill aggregateRate_nonneg).tokens_le
  valid_mono h hlater := h.mono hlater
  available_later h hlater := h.aggregate.tokens_refill_le aggregateRate_nonneg hlater
  valid_step h := h.check
  available_step := by
    intro s call h
    have htaken := (h.aggregate.tryConsume aggregateRate_nonneg).2
    simp only [Exec.of, check, aggregate_checkAt, (checkAt_eq ..).1]
    rw [← htaken]
    refine add_le_add le_rfl ?_
    -- a call that the bucket of its key rejects has its token taken as well
    cases (s.aggregate.tryConsume call.now).1.isOk <;>
      cases ((s.bucket call.keyName call.now).tryConsume call.now).1.isOk <;> simp

/-- The bucket of a key as a budget. -/
def keyBudget (key : String) : Budget check Call.now (fun e => e.action.keyName == key && e.reply.isOk)
    defaultBurst defaultRatePerSec where
  Valid := Sound
  available s now := ((s.bucket key now).refill now).tokens
  available_nonneg h := ((h.bucket key).refill rate_nonneg).tokens_nonneg
  available_le h := ((h.bucket key).refill rate_nonneg).tokens_le
  valid_mono h hlater := h.mono hlater
  available_later h hlater := h.available_later key hlater
  valid_step h := h.check
  available_step := by
    intro s call h
    simp only [Exec.of, check, bucket_checkAt, (checkAt_eq ..).1]
    by_cases hkey : call.keyName = key
    · subst hkey
      have htaken := ((h.bucket call.keyName).tryConsume rate_nonneg).2
      cases (s.aggregate.tryConsume call.now).1.isOk with
      | false => simp
      | true => simpa using htaken.le
    · simp [hkey]

end Budgets

section Retry

def aggregateMessage : String := "aggregate rate limit exceeded"

def keyMessage (key : String) : String := "rate limit exceeded for key '" ++ (key ++ "'")

theorem keyMessage_ne (key : String) : keyMessage key ≠ aggregateMessage := by
  intro h
  have hfirst : Text.startsWith (keyMessage key) "rate limit exceeded for key '" = true :=
    Text.startsWith_append "rate limit exceeded for key '" (key ++ "'")
  rw [h] at hfirst
  exact absurd hfirst (by decide +kernel)

/-- Which bucket rejected a call. -/
theorem rejected_cases {r : RateLimitRejection} (h : (s.checkAt key now).1 = .error r) :
    ((s.aggregate.tryConsume now).1 = .error r.retryAfterMs ∧ r.message = aggregateMessage) ∨
      (s.aggregate.tryConsume now).1 = .ok () ∧
        ((s.bucket key now).tryConsume now).1 = .error r.retryAfterMs ∧ r.message = keyMessage key := by
  rw [checkAt] at h
  rcases s.aggregate.tryConsume_eq now with ⟨-, heq⟩ | ⟨-, retryMs, heq⟩
  · rw [heq] at h ⊢
    rcases (s.bucket key now).tryConsume_eq now with ⟨-, hkey⟩ | ⟨-, e, hkey⟩
    · rw [hkey] at h
      cases h
    · rw [hkey] at h ⊢
      cases h
      exact .inr ⟨rfl, rfl, String.append_assoc⟩
  · rw [heq] at h ⊢
    cases h
    exact .inl ⟨rfl, rfl⟩

theorem Sound.retried (h : s.Sound now) {r again : RateLimitRejection} (hreject : (s.checkAt key now).1 = .error r)
    (hlater : now + r.retryAfterMs / 1000 ≤ later)
    (hagain : ((s.checkAt key now).2.checkAt key later).1 = .error again) : again.message ≠ r.message := by
  rcases rejected_cases hreject with ⟨haggregate, hmessage⟩ | ⟨haggregate, hbucket, hmessage⟩ <;>
    rcases rejected_cases hagain with ⟨haggregate', hmessage'⟩ | ⟨-, hbucket', hmessage'⟩
  · have hok := h.aggregate.tryConsume_later (by norm_num [defaultAggregateRatePerSec])
      (by norm_num [defaultAggregateBurst]) haggregate hlater
    rw [aggregate_checkAt, hok] at haggregate'
    cases haggregate'
  · rw [hmessage, hmessage']
    exact keyMessage_ne key
  · rw [hmessage, hmessage']
    exact (keyMessage_ne key).symm
  · have hok := (h.bucket key).tryConsume_later (by norm_num [defaultRatePerSec])
      (by norm_num [defaultBurst]) hbucket hlater
    have hkept : (s.checkAt key now).2.bucket key later = ((s.bucket key now).tryConsume now).2 := by
      rw [RateLimiter.bucket, (checkAt_eq ..).2, haggregate]
      simp [Except.isOk, Except.toBool]
    rw [hkept, hok] at hbucket'
    cases hbucket'

end Retry

/-- **The rate limits hold.** In every stretch of time, calls of one key and all calls pass at most as often
as the burst and the rate allow; and a rejected call that is repeated after the time it was given is not
rejected by the same bucket. -/
theorem rate_limited (start : ℚ) (calls : List Call) (hsorted : calls.Pairwise (·.now ≤ ·.now))
    (hstart : ∀ call ∈ calls, start ≤ call.now) :
    (∀ (key : String) (first length : ℚ), 0 ≤ length →
      ((trace check calls (.new start)).countP fun e => (e.action.keyName == key && e.reply.isOk) &&
        decide (first ≤ e.action.now ∧ e.action.now ≤ first + length) : ℚ) ≤
          defaultBurst + defaultRatePerSec * length) ∧
    (∀ first length : ℚ, 0 ≤ length →
      ((trace check calls (.new start)).countP fun e => e.reply.isOk &&
        decide (first ≤ e.action.now ∧ e.action.now ≤ first + length) : ℚ) ≤
          defaultAggregateBurst + defaultAggregateRatePerSec * length) ∧
    ∀ e ∈ trace check calls (.new start), ∀ rejection, e.reply = .error rejection →
      ∀ later, e.action.now + rejection.retryAfterMs / 1000 ≤ later →
        ∀ again, (e.after.checkAt e.action.keyName later).1 = .error again →
          again.message ≠ rejection.message := by
  refine ⟨fun key first length hlength => ?_, fun first length hlength => ?_, ?_⟩
  · exact (keyBudget key).spent_le rate_nonneg hlength (by positivity) (sound_new start) hsorted hstart
  · exact aggregateBudget.spent_le aggregateRate_nonneg hlength (by positivity) (sound_new start) hsorted hstart
  · intro e he rejection hreject later hlater again hagain
    obtain ⟨hsound, heq⟩ := aggregateBudget.valid_before (sound_new start) hsorted hstart e he
    rw [heq] at hreject hagain
    exact hsound.retried hreject hlater hagain

theorem rate_limited_call :
    ((trace check [⟨"ci", 0⟩] (.new 0)).countP fun e => (e.action.keyName == "ci" && e.reply.isOk) &&
      decide ((0 : ℚ) ≤ e.action.now ∧ e.action.now ≤ 0 + 1) : ℚ) ≤ defaultBurst + defaultRatePerSec * 1 :=
  (rate_limited 0 [⟨"ci", 0⟩] (by simp) (by simp)).1 "ci" 0 1 (by norm_num)

end RateLimiter

end Api

end Syfrah
