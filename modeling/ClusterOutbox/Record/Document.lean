import ClusterOutbox.Record.Basic
import ClusterOutbox.Record.LabelText
import ClusterOutbox.Time.Rfc3339

namespace ClusterOutbox.Record

/-- A part that may be missing is written as null. -/
def writeOptional {α : Type} (write : α → List Char) : Option α → List Char
  | some a => write a
  | none => ['n', 'u', 'l', 'l']

def writeStamp (t : Stamp) : List Char :=
  '"' :: (Rfc3339.write t ++ ['"'])

/-- The JSON text of a record. -/
def toJson (r : Record) : String :=
  String.ofList (Json.writeObject [
    ("id", Json.writeString r.id),
    ("kind", Json.writeString r.kind.name),
    ("name", Json.writeString r.name),
    ("namespace", writeOptional Json.writeString r.ns),
    ("labels", writeOptional LabelMap.toJson r.labels),
    ("annotations", writeOptional LabelMap.toJson r.annotations),
    ("metric_labels", LabelMap.toJson r.metricLabels),
    ("record_created", writeStamp r.created),
    ("record_updated", writeStamp r.updated),
    ("sent_at", writeOptional writeStamp r.sentAt),
    ("size", decimalDigits r.size.toNat)])

/-- The members of a record, in the order of its written form. -/
def memberNames : List String :=
  ["id", "kind", "name", "namespace", "labels", "annotations", "metric_labels", "record_created",
    "record_updated", "sent_at", "size"]

/-- A part that may be missing or null. -/
def optional? {α : Type} (read : Json → Option α) : Option Json → Option (Option α)
  | none => some none
  | some .null => some none
  | some j => (read j).map some

/-- A kind is the string of its name, or an object of that one member with the value null. -/
def kind? : Json → Option Kind
  | .string (some s) => Kind.ofName? s
  | .object [(some s, .null)] => Kind.ofName? s
  | _ => none

def stamp? (j : Json) : Option Stamp :=
  j.text?.bind fun s => Rfc3339.read s.toList

/-- A whole number below 2^64, written without a sign, a point and an exponent. -/
def size? : Json → Option UInt64
  | .number n =>
    let value := digitsValue n.whole
    if n.isInteger && !n.negative && value < 18446744073709551616 then some value.toUInt64
    else none
  | _ => none

/-- A record from its members, each looked up by name. -/
def ofMembers? (member : String → Option Json) : Option Record := do
  let id ← (← member "id").text?
  let kind ← kind? (← member "kind")
  let name ← (← member "name").text?
  let ns ← optional? Json.text? (member "namespace")
  let labels ← optional? LabelMap.ofMembers? (member "labels")
  let annotations ← optional? LabelMap.ofMembers? (member "annotations")
  let metricLabels ← LabelMap.ofMembers? (← member "metric_labels")
  let created ← stamp? (← member "record_created")
  let updated ← stamp? (← member "record_updated")
  let sentAt ← optional? stamp? (member "sent_at")
  let size ← size? (← member "size")
  some { id, kind, name, ns, labels, annotations, metricLabels, created, updated, sentAt, size }

/-- Whether no member of a record stands twice. -/
def membersOnce (members : List (String × Json)) : Bool :=
  memberNames.all fun name => (members.filter (·.1 == name)).length ≤ 1

/-- Reads a record from an object, whose other members are ignored, or from the array of its
members in order. -/
def ofJson? (s : String) : Option Record := do
  match ← Json.read? s with
  | .object members =>
    let members ← (Json.object members).members?
    if membersOnce members then ofMembers? fun name => members.lookup name else none
  | .array items =>
    if items.length = memberNames.length then
      ofMembers? fun name => (memberNames.zip items).lookup name
    else none
  | _ => none

end ClusterOutbox.Record
