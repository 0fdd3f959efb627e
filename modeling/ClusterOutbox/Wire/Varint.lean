namespace ClusterOutbox.Varint

/-- A number in groups of seven bits, the least significant first; every byte but the last has its
top bit set. -/
def write (n : Nat) : List UInt8 :=
  if n < 128 then [n.toUInt8] else (n % 128 + 128).toUInt8 :: write (n / 128)
termination_by n
decreasing_by omega

/-- Reads a number of at most `width` bytes; only one bit of the last possible byte may be set. -/
def readWithin : Nat → List UInt8 → Option (Nat × List UInt8)
  | 0, _ => none
  | _, [] => none
  | width + 1, b :: rest =>
    if b < 128 then
      if width = 0 ∧ 2 ≤ b then none else some (b.toNat, rest)
    else
      match readWithin width rest with
      | some (n, rest) => some (b.toNat - 128 + 128 * n, rest)
      | none => none

/-- Reads a number below 2^64, and gives the bytes after it. -/
def read (bs : List UInt8) : Option (Nat × List UInt8) := readWithin 10 bs

theorem readWithin_shorter {width : Nat} {bs rest : List UInt8} {n : Nat}
    (h : readWithin width bs = some (n, rest)) : rest.length < bs.length := by
  induction width generalizing bs rest n with
  | zero => simp [readWithin] at h
  | succ width ih =>
    cases bs with
    | nil => simp [readWithin] at h
    | cons b bs =>
      unfold readWithin at h
      split at h
      · split at h
        · simp at h
        · simp only [Option.some.injEq, Prod.mk.injEq] at h
          simp [← h.2]
      · split at h
        next hr =>
          simp only [Option.some.injEq, Prod.mk.injEq] at h
          have := ih hr
          rw [List.length_cons, ← h.2]
          omega
        · simp at h

theorem read_shorter {bs rest : List UInt8} {n : Nat} (h : read bs = some (n, rest)) :
    rest.length < bs.length := readWithin_shorter h

end ClusterOutbox.Varint
