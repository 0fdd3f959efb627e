import ClusterOutbox.Proofs.SortedMap
import ClusterOutbox.Proofs.Text.ByteOrder
import ClusterOutbox.Wire.InfoSeries

namespace ClusterOutbox

theorem tagMark_append_ne_nameLabel (key : String) : tagMark ++ key ≠ nameLabel := by
  intro h
  have hfirst := congrArg (fun s => s.toList.head?) h
  simp [tagMark, nameLabel] at hfirst

/-- A key of a label or annotation covers a dimension of the marked name. -/
def LabelMap.Covers (tags : LabelMap) (key : String) : Prop :=
  ∃ e ∈ tags.entries, key = tagMark ++ e.1

theorem get?_infoLabels_name (name : String) (dimensions tags : LabelMap) :
    (infoLabels name dimensions tags).get? nameLabel = some name := SortedMap.get?_insert _ _ _

theorem get?_infoLabels_tag (name : String) (dimensions : LabelMap) {tags : LabelMap}
    {e : String × String} (he : e ∈ tags.entries) :
    (infoLabels name dimensions tags).get? (tagMark ++ e.1) = some e.2 := by
  have hkeys : tags.entries.Pairwise fun a b => tagMark ++ a.1 ≠ tagMark ++ b.1 :=
    tags.keys_ne.imp fun h => mt (String.append_right_inj tagMark).mp h
  rw [infoLabels, SortedMap.get?_insert_of_ne (tagMark_append_ne_nameLabel e.1)]
  exact SortedMap.get?_foldl_insert_of_mem hkeys he dimensions

theorem get?_infoLabels_dimension (name : String) (dimensions : LabelMap) {tags : LabelMap}
    {key : String} (hkey : key ≠ nameLabel) (htags : ¬ tags.Covers key) :
    (infoLabels name dimensions tags).get? key = dimensions.get? key := by
  rw [infoLabels, SortedMap.get?_insert_of_ne hkey]
  exact SortedMap.get?_foldl_insert_of_ne (fun e he h => htags ⟨e, he, h⟩) dimensions

/-- What a series says: its labels by strictly increasing bytes of their names, one of them its name;
the tags under their marked keys; the dimensions that neither the name nor a tag covers; nothing
else; and one sample of the value one at a time, in whole milliseconds. -/
structure Series.Describes (name : String) (dimensions tags : LabelMap) (time : Stamp)
    (s : Series) : Prop where
  increasing : s.labels.Pairwise fun a b => utf8Bytes a.name < utf8Bytes b.name
  named : s.labels.filter (fun l => l.name = nameLabel) = [⟨nameLabel, name⟩]
  tagged : ∀ e ∈ tags.entries, ⟨tagMark ++ e.1, e.2⟩ ∈ s.labels
  placed : ∀ e ∈ dimensions.entries, e.1 ≠ nameLabel → ¬ tags.Covers e.1 → ⟨e.1, e.2⟩ ∈ s.labels
  nothingElse : ∀ l ∈ s.labels, l.name = nameLabel ∨
    (∃ e ∈ tags.entries, l = ⟨tagMark ++ e.1, e.2⟩) ∨
    ∃ e ∈ dimensions.entries, l = ⟨e.1, e.2⟩ ∧ e.1 ≠ nameLabel ∧ ¬ tags.Covers e.1
  sampled : ∃ x, s.samples = [x] ∧ Float.ofBits x.value = 1 ∧
    x.timestamp.toInt = (time.seconds * 1000000000 + time.nanos) / 1000000

/-- The series of records, in their order: one of the labels of each, behind it one of the annotations
where these are tracked. -/
inductive Described (stem : String) : List Record → List Series → Prop
  | nil : Described stem [] []
  | untracked {r : Record} {records : List Record} {labels : Series} {rest : List Series} :
    r.annotations = none →
    labels.Describes (stem ++ "_" ++ r.kind.name ++ "_labels") r.metricLabels (r.labels.getD ∅)
      r.lastObserved →
    Described stem records rest → Described stem (r :: records) (labels :: rest)
  | tracked {r : Record} {records : List Record} {annotations : LabelMap} {labels notes : Series}
    {rest : List Series} : r.annotations = some annotations →
    labels.Describes (stem ++ "_" ++ r.kind.name ++ "_labels") r.metricLabels (r.labels.getD ∅)
      r.lastObserved →
    notes.Describes (stem ++ "_" ++ r.kind.name ++ "_annotations") r.metricLabels annotations
      r.lastObserved →
    Described stem records rest → Described stem (r :: records) (labels :: notes :: rest)

section

variable {name : String} {dimensions tags : LabelMap} {timestamp : Int64}

theorem mem_labels_infoSeries {l : Label} :
    l ∈ (infoSeries name dimensions tags timestamp).labels ↔
      (infoLabels name dimensions tags).get? l.name = some l.value := by
  rw [← SortedMap.mem_entries_iff (e := (l.name, l.value))]
  constructor
  · intro h
    obtain ⟨e, he, rfl⟩ := List.mem_map.mp h
    exact he
  · intro h
    exact List.mem_map.mpr ⟨_, h, rfl⟩

theorem increasing_infoSeries : (infoSeries name dimensions tags timestamp).labels.Pairwise
    fun a b => utf8Bytes a.name < utf8Bytes b.name :=
  List.pairwise_map.mpr ((infoLabels name dimensions tags).increasing.imp fun h =>
    utf8Bytes_lt (compareOfLessAndEq_eq_lt.mp h))

/-- The name stands once, whatever the maps hold. -/
theorem named_infoSeries : (infoSeries name dimensions tags timestamp).labels.filter
    (fun l => l.name = nameLabel) = [⟨nameLabel, name⟩] := by
  have hvalue := get?_infoLabels_name name dimensions tags
  have hincreasing : ((infoSeries name dimensions tags timestamp).labels.filter
      fun l => l.name = nameLabel).Pairwise fun a b => utf8Bytes a.name < utf8Bytes b.name :=
    increasing_infoSeries.filter _
  have hmem : (⟨nameLabel, name⟩ : Label) ∈ (infoSeries name dimensions tags timestamp).labels.filter
      fun l => l.name = nameLabel :=
    List.mem_filter.mpr ⟨mem_labels_infoSeries.mpr hvalue, by simp⟩
  have hsame : ∀ l ∈ (infoSeries name dimensions tags timestamp).labels.filter
      (fun l => l.name = nameLabel), l = ⟨nameLabel, name⟩ := by
    rintro ⟨key, value⟩ hl
    obtain ⟨hl, hname⟩ := List.mem_filter.mp hl
    obtain rfl : key = nameLabel := of_decide_eq_true hname
    obtain rfl : value = name :=
      Option.some.inj ((mem_labels_infoSeries.mp hl).symm.trans hvalue)
    rfl
  generalize List.filter _ _ = named at hincreasing hmem hsame
  match named with
  | [] => cases hmem
  | [l] => rw [hsame l List.mem_cons_self]
  | l :: l' :: rest =>
    -- Two labels of this name would stand in their own order.
    have hlt := (List.pairwise_cons.mp hincreasing).1 l' List.mem_cons_self
    rw [hsame l (by simp), hsame l' (by simp)] at hlt
    exact absurd hlt (List.lt_irrefl _)

theorem describes_infoSeries (name : String) (dimensions tags : LabelMap) (time : Stamp) :
    (infoSeries name dimensions tags (Int64.ofInt time.millis)).Describes name dimensions tags
      time where
  increasing := increasing_infoSeries
  named := named_infoSeries
  tagged := fun e he => mem_labels_infoSeries.mpr (get?_infoLabels_tag name dimensions he)
  placed := by
    intro e he hname htags
    refine mem_labels_infoSeries.mpr ?_
    rw [get?_infoLabels_dimension name dimensions hname htags]
    exact SortedMap.get?_of_mem he
  nothingElse := by
    rintro ⟨key, value⟩ hl
    have hl := mem_labels_infoSeries.mp hl
    by_cases hname : key = nameLabel
    · exact .inl hname
    right
    by_cases htags : tags.Covers key
    · obtain ⟨e, he, rfl⟩ := htags
      obtain rfl : value = e.2 :=
        Option.some.inj (hl.symm.trans (get?_infoLabels_tag name dimensions he))
      exact .inl ⟨e, he, rfl⟩
    · rw [get?_infoLabels_dimension name dimensions hname htags] at hl
      exact .inr ⟨(key, value), SortedMap.mem_entries_of_get? hl, rfl, hname, htags⟩
  sampled := by
    have hone : Float.ofBits oneBits = 1 := by decide
    refine ⟨⟨oneBits, Int64.ofInt time.millis⟩, rfl, hone, ?_⟩
    have hfirst := time.first_le
    have hlast := time.le_last
    have hnanos := time.nanos_lt
    have hmillis : time.millis = (time.seconds * 1000000000 + time.nanos) / 1000000 := by
      unfold Stamp.millis
      omega
    rw [Int64.toInt_ofInt_of_le (by omega) (by omega), hmillis]

end

theorem Described.append {stem : String} {records others : List Record} {said more : List Series}
    (h : Described stem records said) (h' : Described stem others more) :
    Described stem (records ++ others) (said ++ more) := by
  induction h with
  | nil => exact h'
  | untracked hnone hlabels _ ih => exact .untracked hnone hlabels ih
  | tracked hsome hlabels hnotes _ ih => exact .tracked hsome hlabels hnotes ih

theorem described_series (stem : String) (r : Record) : Described stem [r] (r.series stem) := by
  have hlabels : seriesName stem r.kind "labels" = stem ++ "_" ++ r.kind.name ++ "_labels" := by
    rw [seriesName, String.append_assoc]
    rfl
  have hnotes : seriesName stem r.kind "annotations" =
      stem ++ "_" ++ r.kind.name ++ "_annotations" := by
    rw [seriesName, String.append_assoc]
    rfl
  rw [Record.series, hlabels, hnotes]
  cases hannotations : r.annotations with
  | none => exact .untracked hannotations (describes_infoSeries _ _ _ _) .nil
  | some annotations =>
    exact .tracked hannotations (describes_infoSeries _ _ _ _) (describes_infoSeries _ _ _ _) .nil

/-- Records more are described by their series behind what is said already. -/
theorem Described.append_seriesOf {stem : String} {records : List Record} {said : List Series}
    (h : Described stem records said) (others : List Record) :
    Described stem (records ++ others) (said ++ seriesOf stem others) := by
  induction others generalizing records said with
  | nil => exact h.append .nil
  | cons r others ih =>
    have hrest := ih (h.append (described_series stem r))
    rwa [List.append_assoc, List.append_assoc] at hrest

/-- The series of records are as described: their order, their labels and their samples. -/
theorem series_described (stem : String) (records : List Record) :
    Described stem records (seriesOf stem records) :=
  Described.nil.append_seriesOf records

end ClusterOutbox
