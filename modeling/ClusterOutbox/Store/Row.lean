import ClusterOutbox.Record.LabelText
import ClusterOutbox.Record.Basic
import ClusterOutbox.Store.Cell

namespace ClusterOutbox

/-- The columns of the table that hold values; the size of a row is computed. -/
inductive Column
  | id
  | kind
  | name
  | ns
  | nsKey
  | metricLabels
  | labels
  | annotations
  | created
  | updated
  | sentAt
deriving DecidableEq

namespace Column

def all : List Column :=
  [id, kind, name, ns, nsKey, metricLabels, labels, annotations, created, updated, sentAt]

/-- The name of a column in statements and messages. -/
def title : Column → String
  | id => "id"
  | kind => "kind"
  | name => "name"
  | ns => "namespace"
  | nsKey => "namespace_key"
  | metricLabels => "metric_labels"
  | labels => "labels"
  | annotations => "annotations"
  | created => "record_created"
  | updated => "record_updated"
  | sentAt => "sent_at"

/-- The column of a name; the case of its letters does not matter. -/
def ofTitle? (s : String) : Option Column := all.find? fun c => c.title == s.toLower

/-- Whether a column holds numbers. -/
def isNumeric : Column → Bool
  | kind | created | updated | sentAt => true
  | _ => false

/-- Whether a column takes null. -/
def isNullable : Column → Bool
  | ns | labels | annotations | sentAt => true
  | _ => false

/-- A value on its way into a column. -/
def convert (c : Column) (v : Cell) : Cell := if c.isNumeric then v.asNumber else v.asText

end Column

/-- A row of the table. -/
structure Row where
  id : Cell
  kind : Cell
  name : Cell
  ns : Cell
  /-- The namespace of the identity, empty where there is none. -/
  nsKey : Cell
  metricLabels : Cell
  labels : Cell
  annotations : Cell
  created : Cell
  updated : Cell
  sentAt : Cell
deriving DecidableEq

namespace Row

def get (r : Row) : Column → Cell
  | .id => r.id
  | .kind => r.kind
  | .name => r.name
  | .ns => r.ns
  | .nsKey => r.nsKey
  | .metricLabels => r.metricLabels
  | .labels => r.labels
  | .annotations => r.annotations
  | .created => r.created
  | .updated => r.updated
  | .sentAt => r.sentAt

def set (r : Row) (c : Column) (v : Cell) : Row :=
  match c with
  | .id => { r with id := v }
  | .kind => { r with kind := v }
  | .name => { r with name := v }
  | .ns => { r with ns := v }
  | .nsKey => { r with nsKey := v }
  | .metricLabels => { r with metricLabels := v }
  | .labels => { r with labels := v }
  | .annotations => { r with annotations := v }
  | .created => { r with created := v }
  | .updated => { r with updated := v }
  | .sentAt => { r with sentAt := v }

/-- Bytes of the name, the namespace, the labels and the annotations. -/
def size (r : Row) : Nat := r.name.size + r.ns.size + r.labels.size + r.annotations.size

/-- Whether two rows have one identity. -/
def sameIdentity (a b : Row) : Bool :=
  a.kind == b.kind && a.name == b.name && a.nsKey == b.nsKey

/-- The cell of a map that may be absent. -/
def labelsCell : Option LabelMap → Cell
  | some m => .text (String.ofList m.toJson)
  | none => .null

/-- Writes the maps of a record into a row. -/
def withMaps (row : Row) (r : Record) : Row :=
  { row with
    metricLabels := labelsCell (some r.metricLabels)
    labels := labelsCell r.labels
    annotations := labelsCell r.annotations }

/-- A new row with the identity and the maps of a record. -/
def ofRecord (id : String) (now : Int) (sentAt : Option Int) (r : Record) : Row where
  id := .text id
  kind := .integer r.kind.code
  name := .text r.name
  ns := .ofText? r.ns
  nsKey := .text r.nsKey
  metricLabels := labelsCell (some r.metricLabels)
  labels := labelsCell r.labels
  annotations := labelsCell r.annotations
  created := .integer now
  updated := .integer now
  sentAt := .ofInteger? sentAt

/-- A time of the store, in microseconds. -/
def stamp? (column : Nat) (micros : Int) : Except EngineError Stamp :=
  match Stamp.ofMicros? micros with
  | some t => .ok t
  | none => .error (.outOfRange column micros)

/-- Reads a cell that must hold the text of a map. -/
def labels? (column : Nat) (name : String) (c : Cell) : Except EngineError LabelMap := do
  match LabelMap.ofJson? (← c.text? column name) with
  | some m => .ok m
  | none => .error (.unreadable column none)

/-- The record of a row. The first cell that does not read decides the error; the delivery is
looked at first, its place on the calendar last. -/
def record? (r : Row) : Except EngineError Record := do
  let sent ← r.sentAt.optional (Cell.integer? 9 "sent_at")
  let id ← r.id.text? 0 "id"
  let kind ← r.kind.integer? 1 "kind"
  let name ← r.name.text? 2 "name"
  let ns ← r.ns.optional (Cell.text? 3 "namespace")
  let metricLabels ← r.metricLabels.optional (labels? 4 "metric_labels")
  let labels ← r.labels.optional (labels? 5 "labels")
  let annotations ← r.annotations.optional (labels? 6 "annotations")
  let created ← stamp? 7 (← r.created.integer? 7 "record_created")
  let updated ← stamp? 8 (← r.updated.integer? 8 "record_updated")
  let sentAt ← match sent with
    | some micros => (stamp? 9 micros).map some
    | none => pure none
  return {
    id
    kind := Kind.ofCode kind
    name
    ns
    labels
    annotations
    metricLabels := metricLabels.getD ∅
    created
    updated
    sentAt
    size := r.size.toUInt64 }

end Row

end ClusterOutbox
