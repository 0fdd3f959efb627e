import ClusterOutbox.Time.Instant

namespace ClusterOutbox

/-- A time of the calendar as seconds since the epoch and nanoseconds within that second; the
nanoseconds go past one second only in a leap second, which ends a minute, as it does in every text of
a time. Calendars that take nanoseconds past any second have times that are left out here. -/
structure Stamp where
  seconds : Int
  nanos : Nat
  first_le : -8334601228800 ≤ seconds
  le_last : seconds ≤ 8210266876799
  nanos_lt : nanos < 2000000000
  leap_ends_minute : 1000000000 ≤ nanos → seconds % 60 = 59
deriving DecidableEq

namespace Stamp

def epoch : Stamp := ⟨0, 0, by decide, by decide, by decide, by decide⟩

instance : Inhabited Stamp := ⟨epoch⟩

def ofParts? (seconds : Int) (nanos : Nat) : Option Stamp :=
  if h : (-8334601228800 ≤ seconds ∧ seconds ≤ 8210266876799) ∧
      nanos < 2000000000 ∧ (1000000000 ≤ nanos → seconds % 60 = 59) then
    some ⟨seconds, nanos, h.1.1, h.1.2, h.2.1, h.2.2⟩
  else none

/-- Earlier seconds first; within a second, a leap second comes after the rest. -/
instance : LT Stamp :=
  ⟨fun a b => a.seconds < b.seconds ∨ a.seconds = b.seconds ∧ a.nanos < b.nanos⟩

instance (a b : Stamp) : Decidable (a < b) :=
  inferInstanceAs (Decidable (a.seconds < b.seconds ∨ a.seconds = b.seconds ∧ a.nanos < b.nanos))

/-- The later of two times. -/
def later (a b : Stamp) : Stamp := if a < b then b else a

def micros (t : Stamp) : Int := t.seconds * 1000000 + t.nanos / 1000

def millis (t : Stamp) : Int := t.seconds * 1000 + t.nanos / 1000000

/-- The time a number of microseconds after the epoch, where the calendar has it. -/
def ofMicros? (m : Int) : Option Stamp :=
  ofParts? (m / 1000000) ((m % 1000000).toNat * 1000)

theorem micros_ofMicros? {m : Int} {t : Stamp} (h : ofMicros? m = some t) : t.micros = m := by
  unfold ofMicros? ofParts? at h
  split at h
  · cases h
    simp only [micros]
    omega
  · simp at h

end Stamp

/-- The calendar time of a clock reading. -/
def Instant.stamp (t : Instant) : Stamp :=
  ⟨t.nanos / 1000000000, (t.nanos % 1000000000).toNat,
    by have := t.first_le; omega, by have := t.le_last; omega, by omega, by omega⟩

/-- The clock reading of a calendar time, unless it lies in a leap second. -/
def Stamp.instant? (t : Stamp) : Option Instant :=
  if h : t.nanos < 1000000000 then
    some ⟨t.seconds * 1000000000 + t.nanos,
      by have := t.first_le; omega, by have := t.le_last; omega⟩
  else none

end ClusterOutbox
