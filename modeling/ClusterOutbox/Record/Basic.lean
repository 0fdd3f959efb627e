import ClusterOutbox.SortedMap
import ClusterOutbox.Record.Kind
import ClusterOutbox.Time.Stamp

namespace ClusterOutbox

/-- The tracked metadata of one cluster resource, identified by kind, name and namespace. The store
owns `id`, `created`, `updated` and `size`. -/
structure Record where
  id : String
  kind : Kind
  name : String
  ns : Option String
  /-- `none` where labels are not tracked. -/
  labels : Option LabelMap
  /-- `none` where annotations are not tracked. -/
  annotations : Option LabelMap
  metricLabels : LabelMap
  created : Stamp
  updated : Stamp
  /-- The last confirmed delivery since the last change. -/
  sentAt : Option Stamp
  /-- Bytes of the stored name, namespace, labels and annotations. -/
  size : UInt64
deriving DecidableEq

/-- The identifying dimensions of a resource: its name under a key for its kind, its namespace, and
its kind. -/
def standardMetricLabels (kind : Kind) (name : String) (ns : Option String) : LabelMap :=
  let named : LabelMap := match kind with
    | .pod => SortedMap.ofList [("pod", name)]
    | .node => SortedMap.ofList [("node", name)]
    | .ns => SortedMap.ofList [("namespace", name)]
    | _ => SortedMap.ofList [("workload", name)]
  let placed := match ns with
    | some ns => named.insert "namespace" ns
    | none => named
  placed.insert "resource_type" kind.name

namespace Record

/-- A record not yet stored, with the standard metric labels. -/
def fresh (kind : Kind) (name : String) (ns : Option String) : Record where
  id := ""
  kind := kind
  name := name
  ns := ns
  labels := none
  annotations := none
  metricLabels := standardMetricLabels kind name ns
  created := Stamp.epoch
  updated := Stamp.epoch
  sentAt := none
  size := 0

/-- The namespace as part of the identity: empty where there is none. -/
def nsKey (r : Record) : String := r.ns.getD ""

/-- Not confirmed delivered since the last change. -/
def isPending (r : Record) : Bool :=
  match r.sentAt with
  | none => true
  | some sent => sent < r.updated

/-- Delivered, and every time of the record lies before the cutoff. -/
def isReclaimable (r : Record) (cutoff : Stamp) : Bool :=
  match r.sentAt with
  | none => false
  | some sent => sent < cutoff && r.created < cutoff && r.updated < cutoff

/-- The time of the samples of this record. -/
def lastObserved (r : Record) : Stamp := r.updated.later r.created

end Record

end ClusterOutbox
