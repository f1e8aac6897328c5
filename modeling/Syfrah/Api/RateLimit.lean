import Mathlib.Algebra.Order.Floor.Semiring
import Mathlib.Data.Rat.Floor
import Std.Data.ExtTreeMap

/-!
# The rate limiter of the API

One token bucket per API key and one for all keys together. Token counts and instants are rationals.
-/

namespace Syfrah

namespace Api

/-- Tokens refill at `rate` per second, up to `capacity`. -/
structure TokenBucket where
  capacity : ℕ
  tokens : ℚ
  rate : ℚ
  lastRefill : ℚ

namespace TokenBucket

def newAt (rate : ℚ) (capacity : ℕ) (now : ℚ) : TokenBucket :=
  { capacity, tokens := capacity, rate, lastRefill := now }

def refill (bucket : TokenBucket) (now : ℚ) : TokenBucket :=
  -- `duration_since` saturates at zero
  let elapsed := max (now - bucket.lastRefill) 0
  if 0 < elapsed then
    { bucket with tokens := min (bucket.tokens + elapsed * bucket.rate) bucket.capacity, lastRefill := now }
  else bucket

/-- Take one token; the error says after how many milliseconds there is one. -/
def tryConsume (bucket : TokenBucket) (now : ℚ) : Except ℕ Unit × TokenBucket :=
  let bucket := bucket.refill now
  if 1 ≤ bucket.tokens then (.ok (), { bucket with tokens := bucket.tokens - 1 })
  else (.error (max ⌈(1 - bucket.tokens) / bucket.rate * 1000⌉₊ 1), bucket)

end TokenBucket

structure RateLimitRejection where
  code : String
  message : String
  retryAfterMs : ℕ
deriving DecidableEq

structure RateLimiter where
  buckets : Std.ExtTreeMap String TokenBucket
  aggregate : TokenBucket
  perKeyRate : ℚ
  perKeyBurst : ℕ

namespace RateLimiter

def defaultRatePerSec : ℚ := 100

def defaultBurst : ℕ := 200

def defaultAggregateRatePerSec : ℚ := 1000

def defaultAggregateBurst : ℕ := 2000

def new (now : ℚ) : RateLimiter where
  buckets := ∅
  aggregate := .newAt defaultAggregateRatePerSec defaultAggregateBurst now
  perKeyRate := defaultRatePerSec
  perKeyBurst := defaultBurst

/-- The bucket of a key, which starts full. -/
def bucket (limiter : RateLimiter) (keyName : String) (now : ℚ) : TokenBucket :=
  limiter.buckets[keyName]?.getD (.newAt limiter.perKeyRate limiter.perKeyBurst now)

/-- The token of the aggregate bucket is taken before the bucket of the key is asked. -/
def checkAt (limiter : RateLimiter) (keyName : String) (now : ℚ) :
    Except RateLimitRejection Unit × RateLimiter :=
  match limiter.aggregate.tryConsume now with
  | (.error retryMs, aggregate) =>
    (.error ⟨"RESOURCE_EXHAUSTED", "aggregate rate limit exceeded", retryMs⟩, { limiter with aggregate })
  | (.ok (), aggregate) =>
    match (limiter.bucket keyName now).tryConsume now with
    | (.error retryMs, bucket) =>
      (.error ⟨"RESOURCE_EXHAUSTED", s!"rate limit exceeded for key '{keyName}'", retryMs⟩,
        { limiter with aggregate, buckets := limiter.buckets.insert keyName bucket })
    | (.ok (), bucket) =>
      (.ok (), { limiter with aggregate, buckets := limiter.buckets.insert keyName bucket })

end RateLimiter

end Api

end Syfrah
