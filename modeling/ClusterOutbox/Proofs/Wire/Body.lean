import ClusterOutbox.Delivery.Flush
import ClusterOutbox.Proofs.Wire.Block
import ClusterOutbox.Proofs.Wire.Request

namespace ClusterOutbox

theorem length_utf8Bytes (s : String) : (utf8Bytes s).length = s.utf8ByteSize := rfl

theorem Sample.plain_eq (x : Sample) :
    x.plain = if x.value = 0x8000000000000000 then { x with value := 0 } else x := by
  obtain ⟨value, timestamp⟩ := x
  unfold Sample.plain Wire.isZero
  by_cases hpositive : value = 0
  · subst hpositive
    rfl
  · by_cases hnegative : value = 0x8000000000000000 <;> simp [hpositive, hnegative]

theorem Varint.length_write (n : Nat) : (write n).length = Wire.varintLength n := by
  fun_induction write n with
  | case1 n hn => rw [Wire.varintLength, if_pos hn, List.length_singleton]
  | case2 n hn ih => rw [Wire.varintLength, if_neg hn, List.length_cons, ih]

namespace Wire

theorem length_writeKey {number form : Nat} (h : number * 8 + form < 128) :
    (writeKey number form).length = 1 := by
  rw [writeKey, Varint.length_write, varintLength, if_pos h]

theorem length_write_bytes {number : Nat} (h : number < 8) (content : List UInt8) :
    (Field.write ⟨number, .bytes content⟩).length = nestedLength content.length := by
  have hkey : (writeKey number 2).length = 1 := length_writeKey (by omega)
  simp only [Field.write, List.length_append, hkey, Varint.length_write, nestedLength]

theorem length_write_fixed64 {number : Nat} (h : number < 8) (n : Nat) :
    (Field.write ⟨number, .fixed64 (lowBytes 8 n)⟩).length = 9 := by
  have hkey : (writeKey number 1).length = 1 := length_writeKey (by omega)
  simp only [Field.write, List.length_append, hkey, length_lowBytes]

theorem length_write_varint {number : Nat} (h : number < 8) (n : Nat) :
    (Field.write ⟨number, .varint n⟩).length = 1 + varintLength n := by
  have hkey : (writeKey number 0).length = 1 := length_writeKey (by omega)
  simp only [Field.write, List.length_append, hkey, Varint.length_write]

theorem writeFields_append (fs gs : List Field) :
    writeFields (fs ++ gs) = writeFields fs ++ writeFields gs := List.flatMap_append

theorem writeFields_singleton (f : Field) : writeFields [f] = f.write := List.append_nil _

/-- Messages in fields of one number take the room of their contents, their lengths and their
keys. -/
theorem length_writeFields_map {α : Type} {number : Nat} (h : number < 8)
    {content : α → List UInt8} {size : α → Nat} (hsize : ∀ a, (content a).length = size a)
    (as : List α) :
    (writeFields (as.map fun a => ⟨number, .bytes (content a)⟩)).length =
      as.foldr (fun a n => nestedLength (size a) + n) 0 := by
  induction as with
  | nil => rfl
  | cons a as ih =>
    have hwrite := length_write_bytes h (content a)
    rw [writeFields] at ih ⊢
    rw [List.map_cons, List.flatMap_cons, List.length_append, hwrite, hsize, ih, List.foldr_cons]

theorem length_textField {number : Nat} (h : number < 8) (s : String) :
    (writeFields (textField number s)).length = textLength s := by
  unfold textField textLength
  by_cases hs : s = ""
  · rw [if_pos hs, if_pos hs]
    rfl
  · rw [if_neg hs, if_neg hs, writeFields_singleton, length_write_bytes h, length_utf8Bytes]

theorem length_labelFields (l : Label) :
    (writeFields (labelFields l)).length = labelLength l := by
  rw [labelFields, writeFields_append, List.length_append, length_textField (by omega),
    length_textField (by omega), labelLength]

theorem length_sampleFields (x : Sample) :
    (writeFields (sampleFields x)).length = sampleLength x := by
  rw [sampleFields, writeFields_append, List.length_append, sampleLength]
  congr 1
  · by_cases hzero : isZero x.value
    · rw [if_pos hzero, if_pos hzero]
      rfl
    · rw [if_neg hzero, if_neg hzero, writeFields_singleton, length_write_fixed64 (by omega)]
  · by_cases htime : x.timestamp = 0
    · rw [if_pos htime, if_pos htime]
      rfl
    · rw [if_neg htime, if_neg htime, writeFields_singleton, length_write_varint (by omega)]

theorem length_seriesFields (s : Series) :
    (writeFields (seriesFields s)).length = seriesLength s := by
  rw [seriesFields, writeFields_append, List.length_append,
    length_writeFields_map (by omega) length_labelFields,
    length_writeFields_map (by omega) length_sampleFields, seriesLength]

/-- The length of a request is known before it is written. -/
theorem length_writeRequest (series : List Series) :
    (writeRequest series).length = requestLength series :=
  length_writeFields_map (by omega) length_seriesFields series

end Wire

namespace Flush

/-- A body decompresses to as many bytes as its series were reckoned to take, and these say the
series again, in their order and bit by bit, but that a zero has lost its minus sign. -/
theorem body_reads_back {series : List Series} {body : List UInt8} (h : body? series = some body) :
    ∃ raw, Snappy.decompress? body = some raw ∧ raw.length = Wire.requestLength series ∧
      Wire.readRequest raw = some (series.map fun s =>
        { s with samples := s.samples.map fun x =>
            if x.value = 0x8000000000000000 then { x with value := 0 } else x }) := by
  have hlen := Snappy.length_of_compress? h
  have hread : Wire.readRequest (Wire.writeRequest series) = some (series.map Series.plain) :=
    Wire.readRequest_writeRequest (by omega)
  have hplain : Sample.plain = fun x =>
      if x.value = 0x8000000000000000 then { x with value := 0 } else x := funext Sample.plain_eq
  refine ⟨Wire.writeRequest series, Snappy.decompress?_compress? h, ?_, ?_⟩
  · exact Wire.length_writeRequest series
  · rw [hread, ← hplain]
    rfl

/-- A label without a name, samples that are minus zero before the epoch and no number at it, and a
series of nothing. -/
def unusual : List Series :=
  [⟨[⟨"__name__", "up"⟩, ⟨"", "é"⟩], [⟨0x8000000000000000, -1⟩, ⟨0x7ff0000000000001, 0⟩]⟩, ⟨[], []⟩]

def unusualBody : List UInt8 :=
  [50, 196, 10, 46, 10, 14, 10, 8, 95, 95, 110, 97, 109, 101, 95, 95, 18, 2, 117, 112, 10, 4, 18, 2,
    195, 169, 18, 11, 16, 255, 255, 255, 255, 255, 255, 255, 255, 255, 1, 18, 9, 9, 1, 0, 0, 0, 0, 0,
    240, 127, 10, 0]

theorem body_reads_back_unusual :
    body? unusual = some unusualBody ∧
      ∃ raw, Snappy.decompress? unusualBody = some raw ∧ raw.length = Wire.requestLength unusual ∧
        Wire.readRequest raw = some
          [⟨[⟨"__name__", "up"⟩, ⟨"", "é"⟩], [⟨0, -1⟩, ⟨0x7ff0000000000001, 0⟩]⟩, ⟨[], []⟩] :=
  have h : body? unusual = some unusualBody := by decide +kernel
  ⟨h, body_reads_back h⟩

end Flush

end ClusterOutbox
