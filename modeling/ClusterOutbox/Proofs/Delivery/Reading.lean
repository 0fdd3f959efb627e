import ClusterOutbox.Delivery.Flush
import ClusterOutbox.Proofs.Wire.Block
import ClusterOutbox.Proofs.Wire.Description
import ClusterOutbox.Proofs.Wire.Request

namespace ClusterOutbox

theorem seriesOf_append (stem : String) (a b : List Record) :
    seriesOf stem (a ++ b) = seriesOf stem a ++ seriesOf stem b := List.flatMap_append

/-- No sample of a record's series is a zero, so that none loses its sign on the way. -/
theorem plain_seriesOf (stem : String) (records : List Record) :
    (seriesOf stem records).map Series.plain = seriesOf stem records := by
  have hinfo (name : String) (dimensions tags : LabelMap) (time : Int64) :
      (infoSeries name dimensions tags time).plain = infoSeries name dimensions tags time := rfl
  rw [seriesOf, List.map_flatMap]
  refine List.flatMap_congr ?_
  intro r _
  unfold Record.series
  cases r.annotations <;> simp [hinfo]

namespace Flush

variable {stem : String} {batch : List Record} {body : List UInt8}

/-- The series that a request says. -/
def read? (body : List UInt8) : Option (List Series) :=
  (Snappy.decompress? body).bind Wire.readRequest

theorem read?_body? (h : body? (seriesOf stem batch) = some body) :
    read? body = some (seriesOf stem batch) := by
  have hlen := Snappy.length_of_compress? h
  rw [read?, Snappy.decompress?_compress? h, Option.bind_some,
    Wire.readRequest_writeRequest (by omega), plain_seriesOf]

/-- A body that reads as the series described of some records. -/
def Says (stem : String) (records : List Record) (body : List UInt8) : Prop :=
  ∃ series, read? body = some series ∧ Described stem records series

theorem says_body? (h : body? (seriesOf stem batch) = some body) : Says stem batch body :=
  ⟨_, read?_body? h, Described.nil.append_seriesOf batch⟩

/-- The body of a request that carries a record among others: what it says holds the series described
of the record, with its labels and its annotations. -/
structure Carries (stem : String) (body : List UInt8) (r : Record) : Prop where
  encoded : ∃ batch : List Record, r ∈ batch ∧ body? (seriesOf stem batch) = some body
  said : ∃ before series after, read? body = some (before ++ series ++ after) ∧
    Described stem [r] series

theorem carries_body? {r : Record} (hr : r ∈ batch) (h : body? (seriesOf stem batch) = some body) :
    Carries stem body r where
  encoded := ⟨batch, hr, h⟩
  said := by
    obtain ⟨before, after, rfl⟩ := List.append_of_mem hr
    refine ⟨seriesOf stem before, r.series stem, seriesOf stem after, ?_, described_series stem r⟩
    rw [read?_body? h, seriesOf_append, List.append_assoc]
    rfl

end Flush

end ClusterOutbox
