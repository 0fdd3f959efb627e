import ClusterOutbox.Time.Duration

namespace ClusterOutbox

/-- A reading of the clock, in nanoseconds since the epoch, within the years the calendar covers.
Readings inside a leap second are left out: no clock of an operating system tells them. -/
structure Instant where
  nanos : Int
  first_le : -8334601228800000000000 ≤ nanos
  le_last : nanos ≤ 8210266876799999999999
deriving DecidableEq

namespace Instant

def epoch : Instant := ⟨0, by decide, by decide⟩

instance : Inhabited Instant := ⟨epoch⟩

/-- The first instant of the calendar. -/
def first : Instant := ⟨-8334601228800000000000, by decide, by decide⟩

def ofNanos? (n : Int) : Option Instant :=
  if h : -8334601228800000000000 ≤ n ∧ n ≤ 8210266876799999999999 then some ⟨n, h.1, h.2⟩ else none

instance : LE Instant := ⟨fun a b => a.nanos ≤ b.nanos⟩

instance : LT Instant := ⟨fun a b => a.nanos < b.nanos⟩

instance (a b : Instant) : Decidable (a ≤ b) := inferInstanceAs (Decidable (a.nanos ≤ b.nanos))

instance (a b : Instant) : Decidable (a < b) := inferInstanceAs (Decidable (a.nanos < b.nanos))

/-- Whole microseconds since the epoch, rounded down. -/
def micros (t : Instant) : Int := t.nanos / 1000

/-- The instant at the precision of the store: the last whole microsecond. -/
def floorMicros (t : Instant) : Instant :=
  ⟨t.nanos / 1000 * 1000, by have := t.first_le; omega, by have := t.le_last; omega⟩

/-- Moves the clock by a signed number of nanoseconds, where the result is on the calendar. -/
def advance? (t : Instant) (by_ : Int) : Option Instant :=
  ofNanos? (t.nanos + by_)

/-- The instant a duration earlier, or the first one where that lies before the calendar or the
duration is no signed length of time. -/
def back (t : Instant) (d : Duration) : Instant :=
  (d.signed?.bind fun n => ofNanos? (t.nanos - n)).getD first

/-- A duration that is no signed length of time leads before the calendar. -/
theorem back_eq (t : Instant) (d : Duration) :
    t.back d = (ofNanos? (t.nanos - d.nanos)).getD first := by
  have hlast := t.le_last
  unfold back Duration.signed?
  split
  next => rfl
  next hlong =>
    have hbefore : ofNanos? (t.nanos - d.nanos) = none := by
      unfold ofNanos?
      rw [dif_neg (by omega)]
    rw [hbefore]
    rfl

theorem micros_floorMicros (t : Instant) : t.floorMicros.micros = t.micros := by
  simp only [micros, floorMicros]; omega

theorem micros_mono {a b : Instant} (h : a ≤ b) : a.micros ≤ b.micros := by
  have h' : a.nanos ≤ b.nanos := h
  simp only [micros]; omega

end Instant

end ClusterOutbox
