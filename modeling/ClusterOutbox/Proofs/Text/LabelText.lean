import ClusterOutbox.Proofs.Json.Object
import ClusterOutbox.Proofs.SortedMap
import ClusterOutbox.Record.LabelText

namespace ClusterOutbox

namespace LabelMap

/-- An entry of a map as a member of its text. -/
def entryPart (e : String × String) : Json.Part :=
  ⟨e.1, Json.writeString e.2, .string (some e.2), Json.reads_string e.2⟩

/-- What the text of a map says: an object of strings. -/
def document (m : LabelMap) : Json := .object ((m.entries.map entryPart).map Json.Part.member)

theorem reads_toJson (m : LabelMap) : Json.Reads m.toJson m.document := by
  have hreads := Json.reads_object (m.entries.map entryPart)
  rw [List.map_map] at hreads
  exact hreads

theorem ofMembers?_document (m : LabelMap) : ofMembers? m.document = some m := by
  rw [ofMembers?, document, Json.members?_parts, List.map_map]
  simp only [Option.bind_eq_bind, Option.bind_some]
  rw [List.mapM_map]
  have hentries := List.mapM_pure (m := Option) (f := id) (l := m.entries)
  rw [List.map_id] at hentries
  exact (congrArg (Option.bind · _) hentries).trans (congrArg some m.ofList_entries)

/-- A map reads back from its text. -/
theorem ofJson?_toJson (m : LabelMap) : ofJson? (String.ofList m.toJson) = some m := by
  rw [ofJson?, Json.read?_of_reads m.reads_toJson, Option.bind_some, ofMembers?_document]

end LabelMap

end ClusterOutbox
