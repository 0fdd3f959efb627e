import ClusterOutbox.Record.Basic
import ClusterOutbox.Wire.Series

namespace ClusterOutbox

/-- The bits of the number one. -/
def oneBits : UInt64 := 0x3ff0000000000000

/-- The mark before the key of a label or annotation. -/
def tagMark : String := "label_"

/-- The labels of a series: the dimensions, over them the marked tags, over those the name. -/
def infoLabels (name : String) (dimensions tags : LabelMap) : LabelMap :=
  (tags.entries.foldl (fun m e => m.insert (tagMark ++ e.1) e.2) dimensions).insert nameLabel name

/-- A series that says a resource was there: one sample of the value one. -/
def infoSeries (name : String) (dimensions tags : LabelMap) (timestamp : Int64) : Series where
  labels := (infoLabels name dimensions tags).entries.map fun (k, v) => ⟨k, v⟩
  samples := [⟨oneBits, timestamp⟩]

/-- The name of a series: a leading word, the kind and what it tells. -/
def seriesName (stem : String) (kind : Kind) (what : String) : String :=
  stem ++ "_" ++ kind.name ++ "_" ++ what

/-- The series of a record: its labels, and its annotations where they are tracked. -/
def Record.series (stem : String) (r : Record) : List Series :=
  let timestamp := Int64.ofInt r.lastObserved.millis
  infoSeries (seriesName stem r.kind "labels") r.metricLabels (r.labels.getD ∅) timestamp ::
    match r.annotations with
    | some annotations =>
      [infoSeries (seriesName stem r.kind "annotations") r.metricLabels annotations timestamp]
    | none => []

/-- The series of records, in their order. -/
def seriesOf (stem : String) (records : List Record) : List Series :=
  records.flatMap (Record.series stem)

end ClusterOutbox
