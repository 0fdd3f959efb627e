namespace ClusterOutbox

/-- The kinds of cluster resource that are tracked. -/
inductive Kind
  | unknown
  | deployment
  | statefulSet
  | pod
  | node
  | ns
  | job
  | cronJob
  | daemonSet
deriving DecidableEq, Repr

namespace Kind

def all : List Kind :=
  [unknown, deployment, statefulSet, pod, node, ns, job, cronJob, daemonSet]

/-- The number that stands for a kind in the store. -/
def code : Kind → Int
  | unknown => 0
  | deployment => 1
  | statefulSet => 2
  | pod => 3
  | node => 4
  | ns => 5
  | job => 6
  | cronJob => 7
  | daemonSet => 8

/-- The kind of a code; a code without a kind is that of an unknown resource. -/
def ofCode (code : Int) : Kind :=
  (all.find? fun k => k.code == code).getD unknown

/-- The name of a kind in series names and metric labels. -/
def name : Kind → String
  | unknown => "unknown"
  | deployment => "deployment"
  | statefulSet => "statefulset"
  | pod => "pod"
  | node => "node"
  | ns => "namespace"
  | job => "job"
  | cronJob => "cronjob"
  | daemonSet => "daemonset"

def ofName? (s : String) : Option Kind :=
  all.find? fun k => k.name == s

/-- Whether resources of this kind live outside every namespace. -/
def isClusterScoped : Kind → Bool
  | node | ns => true
  | _ => false

theorem ofCode_code (k : Kind) : ofCode k.code = k := by cases k <;> rfl

theorem ofName?_name (k : Kind) : ofName? k.name = some k := by cases k <;> decide

end Kind

end ClusterOutbox
