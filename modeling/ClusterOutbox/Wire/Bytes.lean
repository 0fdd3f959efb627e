namespace ClusterOutbox

/-- The lowest `width` bytes of a number, the least significant first. -/
def lowBytes : Nat → Nat → List UInt8
  | 0, _ => []
  | width + 1, n => n.toUInt8 :: lowBytes width (n / 256)

/-- The number whose bytes these are, the least significant first. -/
def ofLowBytes : List UInt8 → Nat
  | [] => 0
  | b :: rest => b.toNat + 256 * ofLowBytes rest

/-- The first `n` bytes and those after them, where there are so many. -/
def splitBytes? (n : Nat) (bs : List UInt8) : Option (List UInt8 × List UInt8) :=
  if n ≤ bs.length then some (bs.take n, bs.drop n) else none

theorem length_lowBytes (width n : Nat) : (lowBytes width n).length = width := by
  induction width generalizing n with
  | zero => rfl
  | succ width ih => rw [lowBytes, List.length_cons, ih]

theorem ofLowBytes_lowBytes {width n : Nat} (h : n < 1 <<< (8 * width)) :
    ofLowBytes (lowBytes width n) = n := by
  induction width generalizing n with
  | zero =>
    rw [Nat.mul_zero] at h
    have : n < 1 := h
    rw [lowBytes, ofLowBytes]
    omega
  | succ width ih =>
    have hs : 1 <<< (8 * (width + 1)) = 256 * 1 <<< (8 * width) := by
      rw [Nat.mul_add, Nat.shiftLeft_add, Nat.shiftLeft_eq, Nat.mul_comm]
    rw [hs] at h
    have hd : n / 256 < 1 <<< (8 * width) := by omega
    rw [lowBytes, ofLowBytes, ih hd, Nat.toUInt8_eq, UInt8.toNat_ofNat']
    omega

theorem splitBytes?_append (bs rest : List UInt8) :
    splitBytes? bs.length (bs ++ rest) = some (bs, rest) := by
  simp [splitBytes?]

theorem splitBytes?_shorter {n : Nat} {bs b rest : List UInt8}
    (h : splitBytes? n bs = some (b, rest)) : rest.length ≤ bs.length := by
  unfold splitBytes? at h
  split at h
  · simp only [Option.some.injEq, Prod.mk.injEq] at h
    simp [← h.2]
  · simp at h

end ClusterOutbox
