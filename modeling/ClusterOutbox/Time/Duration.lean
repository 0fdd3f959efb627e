namespace ClusterOutbox

/-- A length of time, in nanoseconds, of fewer than 2^64 seconds. -/
structure Duration where
  nanos : Nat
  nanos_le : nanos ≤ 18446744073709551615999999999
deriving DecidableEq

namespace Duration

def zero : Duration := ⟨0, by decide⟩

instance : Inhabited Duration := ⟨zero⟩

/-- The longest duration. -/
def longest : Duration := ⟨18446744073709551615999999999, by decide⟩

def ofNanos? (n : Nat) : Option Duration :=
  if h : n ≤ 18446744073709551615999999999 then some ⟨n, h⟩ else none

def ofSeconds (s : UInt64) : Duration :=
  ⟨s.toNat * 1000000000, by have := s.toNat_lt; omega⟩

def ofMillis (ms : UInt64) : Duration :=
  ⟨ms.toNat * 1000000, by have := ms.toNat_lt; omega⟩

/-- Seconds and remaining nanoseconds, where the whole fits. -/
def ofParts? (seconds nanos : Nat) : Option Duration :=
  ofNanos? (seconds * 1000000000 + nanos)

def seconds (d : Duration) : Nat := d.nanos / 1000000000

def subsecNanos (d : Duration) : Nat := d.nanos % 1000000000

/-- The product, or the longest duration where the product would exceed it. -/
def saturatingMul (d : Duration) (k : Nat) : Duration :=
  (ofNanos? (d.nanos * k)).getD longest

/-- The sum, where it is a duration. -/
def add? (d e : Duration) : Option Duration :=
  ofNanos? (d.nanos + e.nanos)

/-- The nanoseconds as a signed length of time, where they are at most 2^63 - 1 milliseconds. -/
def signed? (d : Duration) : Option Int :=
  if d.nanos ≤ 9223372036854775807000000 then some d.nanos else none

/-- The length in seconds as a floating-point number: whole seconds plus the fraction. -/
def toSeconds (d : Duration) : Float :=
  d.seconds.toUInt64.toFloat + d.subsecNanos.toUInt64.toFloat / 1000000000.0

theorem saturatingMul_nanos (d : Duration) (k : Nat) :
    (d.saturatingMul k).nanos = min (d.nanos * k) longest.nanos := by
  unfold saturatingMul ofNanos?
  split
  next h => simp [longest, Nat.min_eq_left h]
  next h => simp only [longest, Option.getD_none]; omega

end Duration

end ClusterOutbox
