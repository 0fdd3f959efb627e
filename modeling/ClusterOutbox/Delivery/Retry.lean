import ClusterOutbox.Time.Duration

namespace ClusterOutbox

/-- How often a request is tried, and how long to wait between attempts. -/
structure RetryPolicy where
  /-- Attempts in all; there is always one. -/
  attempts : UInt32
  base : Duration
  /-- The most that chance adds to a delay. -/
  maxJitter : Duration

namespace RetryPolicy

/-- Three attempts, one second and at most one second of jitter. -/
def standard : RetryPolicy := ⟨3, .ofSeconds 1, .ofSeconds 1⟩

/-- The most nanoseconds of jitter that are drawn: a number of 64 bits. -/
def jitterLimit (p : RetryPolicy) : Nat := min p.maxJitter.nanos 18446744073709551615

/-- The delay after an attempt, counted from zero: the base doubles with each attempt, sixteen times
at most, and the jitter drawn is added. There is no delay where the sum is no duration. -/
def backoff (p : RetryPolicy) (attempt drawn : Nat) : Option Duration :=
  (Duration.ofNanos? drawn).bind fun jitter =>
    (p.base.saturatingMul (1 <<< min attempt 16)).add? jitter

end RetryPolicy

end ClusterOutbox
