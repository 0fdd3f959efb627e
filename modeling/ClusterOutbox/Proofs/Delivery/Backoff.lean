import ClusterOutbox.Proofs.Delivery.Retries

namespace ClusterOutbox

theorem Duration.ofNanos?_eq_none_iff {n : Nat} :
    Duration.ofNanos? n = none ↔ Duration.longest.nanos < n := by
  unfold Duration.ofNanos?
  split
  next h => simpa [Duration.longest] using h
  next h => simpa [Duration.longest] using h

namespace RetryPolicy

variable {p : RetryPolicy}

theorem leastDelay_mono {attempt later : Nat} (h : attempt ≤ later) :
    p.leastDelay attempt ≤ p.leastDelay later := by
  have hpow : Nat.pow 2 (min (attempt - 1) 16) ≤ Nat.pow 2 (min (later - 1) 16) :=
    Nat.pow_le_pow_right (by decide) (by omega)
  have hscaled := Nat.mul_le_mul_left p.base.nanos hpow
  unfold leastDelay
  omega

/-- What is waited after an attempt, counted from zero, where `least` is the delay without chance. -/
structure Waits (p : RetryPolicy) (attempt drawn least : Nat) : Prop where
  overflows_iff : p.backoff attempt drawn = none ↔ Duration.longest.nanos < least + drawn
  window : ∀ delay, p.backoff attempt drawn = some delay → delay.nanos = least + drawn ∧
    least ≤ delay.nanos ∧ delay.nanos ≤ least + p.maxJitter.nanos
  earlier : ∀ delay, p.backoff attempt drawn = some delay → ∀ earlier ≤ attempt,
    ∃ before, p.backoff earlier drawn = some before ∧ before.nanos ≤ delay.nanos

/-- A delay is the base doubled with each attempt, sixteen times at most and no longer than any
duration, and what is drawn. There is none exactly where that sum is no duration. -/
theorem backoff_exact {attempt drawn : Nat} (hdrawn : drawn ≤ p.jitterLimit) :
    p.Waits attempt drawn
      (min (p.base.nanos * Nat.pow 2 (min attempt 16)) Duration.longest.nanos) := by
  change p.Waits attempt drawn (p.leastDelay (attempt + 1))
  have hjitter : drawn ≤ p.maxJitter.nanos := Nat.le_trans hdrawn (Nat.min_le_left _ _)
  refine ⟨?_, ?_, ?_⟩
  all_goals rw [backoff_eq hdrawn]
  · exact Duration.ofNanos?_eq_none_iff
  · intro delay h
    have hsum := Duration.nanos_of_ofNanos? h
    omega
  · intro delay h earlier hearlier
    have hsum := Duration.nanos_of_ofNanos? h
    have hmono : p.leastDelay (earlier + 1) ≤ p.leastDelay (attempt + 1) :=
      leastDelay_mono (Nat.add_le_add_right hearlier 1)
    rw [backoff_eq hdrawn]
    cases hbefore : Duration.ofNanos? (p.leastDelay (earlier + 1) + drawn) with
    | none =>
      have hlong := Duration.ofNanos?_eq_none_iff.mp hbefore
      have hfits := delay.nanos_le
      simp only [Duration.longest] at hlong
      omega
    | some before =>
      have hshort := Duration.nanos_of_ofNanos? hbefore
      exact ⟨before, rfl, by omega⟩

theorem backoff_exact_standard :
    500 ≤ standard.jitterLimit ∧
    (standard.backoff 2 500).map Duration.nanos = some 4000000500 ∧
    standard.Waits 2 500 4000000000 := by
  have hdrawn : 500 ≤ standard.jitterLimit := by decide
  exact ⟨hdrawn, by decide, backoff_exact hdrawn⟩

/-- The longest duration to wait, and one nanosecond of chance. -/
def patient : RetryPolicy := ⟨3, .longest, ⟨1, by decide⟩⟩

/-- Chance alone can make the first delay too long to be one. -/
theorem patient_overflows : 1 ≤ patient.jitterLimit ∧ patient.backoff 0 1 = none := by
  decide

end RetryPolicy

end ClusterOutbox
