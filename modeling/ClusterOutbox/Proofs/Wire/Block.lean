import ClusterOutbox.Proofs.Wire.Field
import ClusterOutbox.Wire.Snappy

namespace ClusterOutbox

namespace Snappy

theorem readElement_short {n : Nat} (hn : n < 60) {bs : List UInt8} (hlen : bs.length = n + 1) :
    readElement ((n * 4).toUInt8 :: bs) = some (.literal bs, []) := by
  have htag : (n * 4).toUInt8.toNat = n * 4 := Varint.toNat_toUInt8 (by omega)
  have hsplit : splitBytes? (n + 1) bs = some (bs, []) := by
    simpa [hlen] using splitBytes?_append bs []
  simp only [readElement, htag, show n * 4 % 4 = 0 by omega, show n * 4 / 4 = n by omega, hn,
    if_true, hsplit, Option.map_some]

theorem readElement_long {width n : Nat} (hpos : 0 < width) (hwidth : width ≤ 4)
    (hn : n < 1 <<< (8 * width)) {bs : List UInt8} (hlen : bs.length = n + 1) :
    readElement (((59 + width) * 4).toUInt8 :: (lowBytes width n ++ bs)) =
      some (.literal bs, []) := by
  have htag : ((59 + width) * 4).toUInt8.toNat = (59 + width) * 4 :=
    Varint.toNat_toUInt8 (by omega)
  have hlow : splitBytes? width (lowBytes width n ++ bs) = some (lowBytes width n, bs) := by
    simpa [length_lowBytes] using splitBytes?_append (lowBytes width n) bs
  have hsplit : splitBytes? (n + 1) bs = some (bs, []) := by
    simpa [hlen] using splitBytes?_append bs []
  simp only [readElement, htag, show (59 + width) * 4 % 4 = 0 by omega,
    show (59 + width) * 4 / 4 = 59 + width by omega, show ¬ 59 + width < 60 by omega, if_false,
    show 59 + width - 59 = width by omega, hlow, ofLowBytes_lowBytes hn, bind, Option.bind, hsplit,
    Option.map_some]

theorem readElement_writeLiteral {bs : List UInt8} (hne : bs ≠ []) (hlen : bs.length < 4294967296) :
    readElement (writeLiteral bs) = some (.literal bs, []) := by
  have hpos : 0 < bs.length := List.length_pos_iff.mpr hne
  have hsame : bs.length = bs.length - 1 + 1 := by omega
  unfold writeLiteral
  dsimp only
  by_cases h60 : bs.length - 1 < 60
  · rw [if_pos h60]
    exact readElement_short h60 hsame
  · rw [if_neg h60]
    by_cases h1 : bs.length - 1 < 256
    · rw [if_pos h1]
      exact readElement_long (by omega) (by omega) h1 hsame
    · rw [if_neg h1]
      by_cases h2 : bs.length - 1 < 65536
      · rw [if_pos h2]
        exact readElement_long (by omega) (by omega) h2 hsame
      · rw [if_neg h2]
        by_cases h3 : bs.length - 1 < 16777216
        · rw [if_pos h3]
          exact readElement_long (by omega) (by omega) h3 hsame
        · rw [if_neg h3]
          have h4 : bs.length - 1 < 1 <<< (8 * 4) := by
            change bs.length - 1 < 4294967296
            omega
          exact readElement_long (by omega) (by omega) h4 hsame

theorem readElements_writeLiteral {bs : List UInt8} (hne : bs ≠ [])
    (hlen : bs.length < 4294967296) :
    readElements (writeLiteral bs).length (writeLiteral bs) [] = some bs.reverse := by
  have hread := readElement_writeLiteral hne hlen
  cases h : writeLiteral bs with
  | nil => simp [h, readElement] at hread
  | cons tag rest =>
    rw [h] at hread
    rw [List.length_cons, readElements, hread]
    · cases rest.length <;> simp [readElements]
    · simp

theorem length_of_compress? {bs block : List UInt8} (h : compress? bs = some block) :
    bs.length < 4294967296 := by
  unfold compress? at h
  split at h
  · simp at h
  · next hroom =>
    rw [maxLength] at hroom
    omega

theorem compress?_eq_none {bs : List UInt8} :
    compress? bs = none ↔ 4294967295 < maxLength bs.length := by
  simp [compress?]

/-- A block gives back the bytes it was made of. -/
theorem decompress?_compress? {bs block : List UInt8} (h : compress? bs = some block) :
    decompress? block = some bs := by
  have hlen := length_of_compress? h
  unfold compress? at h
  split at h
  · simp at h
  · obtain rfl := Option.some.inj h
    have hread := Varint.read_write (n := bs.length) (by omega)
      (if bs = [] then [] else writeLiteral bs)
    unfold decompress?
    rw [hread]
    by_cases hne : bs = []
    · subst hne
      rfl
    · simp [if_neg hne, readElements_writeLiteral hne hlen]

end Snappy

end ClusterOutbox
