import ClusterOutbox.SortedMap

namespace ClusterOutbox

/-- How a component fares, from best to worst. -/
inductive Status
  | healthy
  /-- Still working, though the last pass failed. -/
  | degraded
  | unhealthy
deriving DecidableEq

namespace Status

def name : Status → String
  | healthy => "healthy"
  | degraded => "degraded"
  | unhealthy => "unhealthy"

def rank : Status → Nat
  | healthy => 0
  | degraded => 1
  | unhealthy => 2

/-- The worse of two. -/
def worse (a b : Status) : Status := if a.rank < b.rank then b else a

end Status

/-- The state of one component. -/
structure ComponentHealth where
  status : Status
  message : Option String
deriving DecidableEq

namespace ComponentHealth

def healthy : ComponentHealth := ⟨.healthy, none⟩
def degraded (message : String) : ComponentHealth := ⟨.degraded, some message⟩
def unhealthy (message : String) : ComponentHealth := ⟨.unhealthy, some message⟩

/-- Healthy after a pass that succeeded, degraded by the message of one that failed. -/
def ofOutcome : Option String → ComponentHealth
  | none => healthy
  | some message => degraded message

end ComponentHealth

/-- The components that have reported, and whether the whole has been declared ready. -/
structure Health where
  components : SortedMap String ComponentHealth
  ready : Bool

namespace Health

def empty : Health := ⟨∅, false⟩

def set (h : Health) (name : String) (c : ComponentHealth) : Health :=
  { h with components := h.components.insert name c }

/-- The worst status of all components, healthy where there is none. -/
def status (h : Health) : Status :=
  (h.components.entries.map fun e => e.2.status).foldl Status.worse .healthy

/-- The names of the unhealthy components. -/
def failing (h : Health) : List String :=
  (h.components.entries.filter fun e => e.2.status == .unhealthy).map (·.1)

/-- Why the whole is not ready, unless it is. -/
def unready? (h : Health) : Option String :=
  if !h.ready then some "Controller not yet initialized"
  else if h.status = .unhealthy then
    some ("Unhealthy components: " ++ ", ".intercalate h.failing)
  else none

end Health

end ClusterOutbox
