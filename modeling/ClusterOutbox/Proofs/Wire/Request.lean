import ClusterOutbox.Proofs.Wire.Field
import ClusterOutbox.Wire.Series

namespace ClusterOutbox

theorem ofUtf8?_utf8Bytes (s : String) : ofUtf8? (utf8Bytes s) = some s := by
  unfold ofUtf8? utf8Bytes String.fromUTF8?
  rw [dif_pos (show ByteArray.IsValidUTF8 ⟨s.toUTF8.data.toList.toArray⟩ from s.isValidUTF8)]
  rfl

/-- A sample as it comes back: the two zeros are written alike. -/
def Sample.plain (x : Sample) : Sample := if Wire.isZero x.value then { x with value := 0 } else x

def Series.plain (s : Series) : Series := { s with samples := s.samples.map Sample.plain }

namespace Wire

theorem length_content_le {fs : List Field} {number : Nat} {content : List UInt8}
    (h : (⟨number, .bytes content⟩ : Field) ∈ fs) : content.length ≤ (writeFields fs).length := by
  induction fs with
  | nil => simp at h
  | cons f fs ih =>
    rw [writeFields, List.flatMap_cons, List.length_append]
    rcases List.mem_cons.mp h with rfl | hmem
    · rw [Field.write, List.length_append]
      omega
    · have := ih hmem
      rw [writeFields] at this
      omega

theorem fits_bytes {fs : List Field} {number : Nat} {content : List UInt8}
    (hmem : (⟨number, .bytes content⟩ : Field) ∈ fs) (hpos : 0 < number) (hle : number < 536870912)
    (hlen : (writeFields fs).length < 18446744073709551616) :
    (⟨number, .bytes content⟩ : Field).Fits :=
  ⟨⟨hpos, hle⟩, Nat.lt_of_le_of_lt (length_content_le hmem) hlen⟩

theorem readMessage_writeFields {α : Type} {level : Nat} (hlevel : level < nestingLimit) (blank : α)
    (merge : α → Field → Option α) {fs : List Field} (h : ∀ f ∈ fs, f.Fits) :
    readMessage level blank merge (writeFields fs) = fs.foldlM merge blank := by
  rw [readMessage, readFields_writeFields h (by omega)]

theorem mem_textField {number : Nat} {s : String} {f : Field} (h : f ∈ textField number s) :
    f = ⟨number, .bytes (utf8Bytes s)⟩ := by
  unfold textField at h
  split at h
  · simp at h
  · exact List.mem_singleton.mp h

theorem readMessage_labelFields (l : Label)
    (hlen : (writeFields (labelFields l)).length < 18446744073709551616) :
    readMessage 2 ⟨"", ""⟩ mergeLabel (writeFields (labelFields l)) = some l := by
  have hfits : ∀ f ∈ labelFields l, f.Fits := by
    intro f hf
    rcases List.mem_append.mp hf with hname | hvalue
    · obtain rfl := mem_textField hname
      exact fits_bytes hf (by omega) (by omega) hlen
    · obtain rfl := mem_textField hvalue
      exact fits_bytes hf (by omega) (by omega) hlen
  rw [readMessage_writeFields (by decide) _ _ hfits]
  obtain ⟨name, value⟩ := l
  by_cases hname : name = "" <;> by_cases hvalue : value = "" <;>
    simp [labelFields, textField, hname, hvalue, mergeLabel, ofUtf8?_utf8Bytes]

theorem readMessage_sampleFields (x : Sample) :
    readMessage 2 ⟨0, 0⟩ mergeSample (writeFields (sampleFields x)) = some x.plain := by
  have hvalue : x.value.toNat < 1 <<< (8 * 8) := x.value.toNat_lt
  have hfits : ∀ f ∈ sampleFields x, f.Fits := by
    intro f hf
    rcases List.mem_append.mp hf with hf | hf
    · split at hf
      · simp at hf
      · obtain rfl := List.mem_singleton.mp hf
        exact ⟨⟨Nat.one_pos, show 1 < 536870912 by decide⟩, length_lowBytes 8 _⟩
    · split at hf
      · simp at hf
      · obtain rfl := List.mem_singleton.mp hf
        exact ⟨⟨Nat.two_pos, show 2 < 536870912 by decide⟩, x.timestamp.toUInt64.toNat_lt⟩
  rw [readMessage_writeFields (by decide) _ _ hfits]
  obtain ⟨value, timestamp⟩ := x
  by_cases hzero : isZero value <;> by_cases htime : timestamp = 0 <;>
    simp [sampleFields, hzero, htime, mergeSample, Sample.plain, ofLowBytes_lowBytes hvalue]

theorem foldlM_mergeSeries_labels (labels : List Label) (s : Series)
    (hlen : ∀ l ∈ labels, (writeFields (labelFields l)).length < 18446744073709551616) :
    (labels.map fun l => (⟨1, .bytes (writeFields (labelFields l))⟩ : Field)).foldlM mergeSeries s =
      some { s with labels := s.labels ++ labels } := by
  induction labels generalizing s with
  | nil => simp
  | cons l labels ih =>
    have hread := readMessage_labelFields l (hlen l List.mem_cons_self)
    have hrest := ih { s with labels := s.labels ++ [l] }
      fun l' hl' => hlen l' (List.mem_cons_of_mem l hl')
    simp [mergeSeries, hread, hrest]

theorem foldlM_mergeSeries_samples (samples : List Sample) (s : Series) :
    (samples.map fun x => (⟨2, .bytes (writeFields (sampleFields x))⟩ : Field)).foldlM mergeSeries
      s = some { s with samples := s.samples ++ samples.map Sample.plain } := by
  induction samples generalizing s with
  | nil => simp
  | cons x samples ih =>
    have hrest := ih { s with samples := s.samples ++ [x.plain] }
    simp [mergeSeries, readMessage_sampleFields x, hrest]

theorem readMessage_seriesFields (s : Series)
    (hlen : (writeFields (seriesFields s)).length < 18446744073709551616) :
    readMessage 1 ⟨[], []⟩ mergeSeries (writeFields (seriesFields s)) = some s.plain := by
  have hfits : ∀ f ∈ seriesFields s, f.Fits := by
    intro f hf
    rcases List.mem_append.mp hf with hlabel | hsample
    · obtain ⟨l, _, rfl⟩ := List.mem_map.mp hlabel
      exact fits_bytes hf (by omega) (by omega) hlen
    · obtain ⟨x, _, rfl⟩ := List.mem_map.mp hsample
      exact fits_bytes hf (by omega) (by omega) hlen
  have hlabels : ∀ l ∈ s.labels, (writeFields (labelFields l)).length < 18446744073709551616 := by
    intro l hl
    exact (hfits _ (List.mem_append_left _ (List.mem_map_of_mem hl))).2
  rw [readMessage_writeFields (by decide) _ _ hfits, seriesFields, List.foldlM_append,
    foldlM_mergeSeries_labels s.labels _ hlabels]
  simp [foldlM_mergeSeries_samples, Series.plain]

theorem foldlM_mergeRequest (series before : List Series)
    (hlen : ∀ s ∈ series, (writeFields (seriesFields s)).length < 18446744073709551616) :
    (series.map fun s => (⟨1, .bytes (writeFields (seriesFields s))⟩ : Field)).foldlM mergeRequest
      before = some (before ++ series.map Series.plain) := by
  induction series generalizing before with
  | nil => simp
  | cons s series ih =>
    have hread := readMessage_seriesFields s (hlen s List.mem_cons_self)
    have hrest := ih (before ++ [s.plain]) fun s' hs' => hlen s' (List.mem_cons_of_mem s hs')
    simp [mergeRequest, hread, hrest]

/-- A request reads back as the series written, but for the sign of a zero. -/
theorem readRequest_writeRequest {series : List Series}
    (hlen : (writeRequest series).length < 18446744073709551616) :
    readRequest (writeRequest series) = some (series.map Series.plain) := by
  have hfits : ∀ f ∈ series.map fun s => (⟨1, .bytes (writeFields (seriesFields s))⟩ : Field),
      f.Fits := by
    intro f hf
    obtain ⟨s, _, rfl⟩ := List.mem_map.mp hf
    exact fits_bytes hf (by omega) (by omega) hlen
  have hseries : ∀ s ∈ series, (writeFields (seriesFields s)).length < 18446744073709551616 :=
    fun s hs => (hfits _ (List.mem_map_of_mem hs)).2
  rw [readRequest, writeRequest, readMessage_writeFields (by decide) _ _ hfits,
    foldlM_mergeRequest series [] hseries, List.nil_append]

end Wire

end ClusterOutbox
