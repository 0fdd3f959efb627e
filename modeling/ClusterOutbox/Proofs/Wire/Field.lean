import ClusterOutbox.Wire.Field
import Mathlib.Algebra.Group.Nat.Defs

namespace ClusterOutbox

namespace Varint

theorem toNat_toUInt8 {n : Nat} (h : n < 256) : n.toUInt8.toNat = n := by
  simp [Nat.mod_eq_of_lt h]

theorem readWithin_write {width n : Nat} (h : n < 2 * 128 ^ width) (rest : List UInt8) :
    readWithin (width + 1) (write n ++ rest) = some (n, rest) := by
  induction width generalizing n with
  | zero =>
    have hn : n < 2 := by simpa using h
    have hbyte : n.toUInt8.toNat = n := toNat_toUInt8 (by omega)
    have hlow : n.toUInt8 < 128 := UInt8.lt_iff_toNat_lt.mpr (by rw [hbyte]; change n < 128; omega)
    have hlast : ¬ (2 : UInt8) ≤ n.toUInt8 := by
      rw [UInt8.le_iff_toNat_le, hbyte]
      change ¬ 2 ≤ n
      omega
    rw [write, if_pos (show n < 128 by omega), List.singleton_append, readWithin, if_pos hlow,
      if_neg (fun hw => hlast hw.2), hbyte]
  | succ width ih =>
    rw [write]
    by_cases hn : n < 128
    · have hbyte : n.toUInt8.toNat = n := toNat_toUInt8 (by omega)
      have hlow : n.toUInt8 < 128 := UInt8.lt_iff_toNat_lt.mpr (by rw [hbyte]; exact hn)
      rw [if_pos hn, List.singleton_append, readWithin, if_pos hlow, if_neg (by omega), hbyte]
    · have hbyte : (n % 128 + 128).toUInt8.toNat = n % 128 + 128 := toNat_toUInt8 (by omega)
      have hhigh : ¬ (n % 128 + 128).toUInt8 < 128 := by
        rw [UInt8.lt_iff_toNat_lt, hbyte]
        change ¬ n % 128 + 128 < 128
        omega
      have hdiv : n / 128 < 2 * 128 ^ width := by
        rw [Nat.pow_succ] at h
        omega
      rw [if_neg hn, List.cons_append, readWithin, if_neg hhigh, ih hdiv, hbyte]
      simp only [Option.some.injEq, Prod.mk.injEq, and_true]
      omega

theorem read_write {n : Nat} (h : n < 18446744073709551616) (rest : List UInt8) :
    read (write n ++ rest) = some (n, rest) :=
  readWithin_write (by simpa using h) rest

end Varint

namespace Wire

/-- Whether a field can be read back: its number is one that messages may use, and what it holds has
the length that its form says. -/
def Field.Fits (f : Field) : Prop :=
  (0 < f.number ∧ f.number < 536870912) ∧
    match f.payload with
    | .varint n => n < 18446744073709551616
    | .fixed64 bytes => bytes.length = 8
    | .bytes content => content.length < 18446744073709551616
    | .fixed32 bytes => bytes.length = 4
    | .group => False

theorem splitBytes?_of_length {n : Nat} {bs : List UInt8} (h : bs.length = n) (rest : List UInt8) :
    splitBytes? n (bs ++ rest) = some (bs, rest) := h ▸ splitBytes?_append bs rest

theorem readToken_writeKey {number form : Nat} (hpos : 0 < number) (hle : number < 536870912)
    (hform : form < 8) (bs : List UInt8) :
    readToken (writeKey number form ++ bs) = readPayload number form bs := by
  have hread := Varint.read_write (n := number * 8 + form) (by omega) bs
  unfold readToken
  rw [writeKey, hread]
  simp only
  rw [if_neg (by omega), show (number * 8 + form) / 8 = number by omega,
    show (number * 8 + form) % 8 = form by omega]

theorem readToken_write {f : Field} (h : f.Fits) (rest : List UInt8) :
    readToken (f.write ++ rest) = some (.field f, rest) := by
  obtain ⟨number, payload⟩ := f
  obtain ⟨⟨hpos, hle⟩, hfits⟩ := h
  cases payload with
  | varint n =>
    rw [Field.write, List.append_assoc, readToken_writeKey hpos hle (by omega), readPayload,
      Varint.read_write hfits]
    rfl
  | fixed64 bytes =>
    rw [Field.write, List.append_assoc, readToken_writeKey hpos hle (by omega), readPayload,
      splitBytes?_of_length hfits]
    rfl
  | bytes content =>
    rw [Field.write, List.append_assoc, List.append_assoc, readToken_writeKey hpos hle (by omega),
      readPayload, Varint.read_write hfits]
    simp only [splitBytes?_append, Option.map_some]
  | fixed32 bytes =>
    rw [Field.write, List.append_assoc, readToken_writeKey hpos hle (by omega), readPayload,
      splitBytes?_of_length hfits]
    rfl
  | group => exact hfits.elim

theorem readFields_cons {f : Field} (h : f.Fits) {limit : Nat} (hlimit : 0 < limit)
    (rest : List UInt8) :
    readFields limit [] (f.write ++ rest) = (readFields limit [] rest).map (f :: ·) := by
  have hread := readToken_write h rest
  have hne : f.write ++ rest ≠ [] := by
    intro hnil
    have := readToken_shorter hread
    rw [hnil] at this
    simp at this
  rw [readFields, if_neg hne]
  split
  next hnone => simp [hread] at hnone
  next hend => simp [hread] at hend
  next hstart => simp [hread] at hstart
  next g rest' hfield =>
    rw [hread, Option.some.injEq, Prod.mk.injEq, Token.field.injEq] at hfield
    obtain ⟨rfl, rfl⟩ := hfield
    rw [List.length_nil, if_pos hlimit]
    rfl

theorem readFields_writeFields {fs : List Field} (h : ∀ f ∈ fs, f.Fits) {limit : Nat}
    (hlimit : 0 < limit) : readFields limit [] (writeFields fs) = some fs := by
  induction fs with
  | nil =>
    rw [writeFields, List.flatMap_nil, readFields, if_pos rfl, if_pos rfl]
  | cons f fs ih =>
    have hrest := ih fun g hg => h g (List.mem_cons_of_mem f hg)
    rw [writeFields] at hrest ⊢
    rw [List.flatMap_cons, readFields_cons (h f List.mem_cons_self) hlimit, hrest, Option.map_some]

end Wire

end ClusterOutbox
