import ClusterOutbox.Json.Reader
import ClusterOutbox.Json.Writer
import ClusterOutbox.SortedMap

namespace ClusterOutbox

/-- The JSON text of a map, by which it is stored. -/
def LabelMap.toJson (m : LabelMap) : List Char :=
  Json.writeObject (m.entries.map fun (k, v) => (k, Json.writeString v))

/-- The map of an object all of whose keys and values are strings; of a repeated key the last
value counts. -/
def LabelMap.ofMembers? (j : Json) : Option LabelMap := do
  let members ← j.members?
  let pairs ← members.mapM fun (k, v) => v.text?.map fun v => (k, v)
  some (SortedMap.ofList pairs)

def LabelMap.ofJson? (s : String) : Option LabelMap :=
  (Json.read? s).bind LabelMap.ofMembers?

end ClusterOutbox
