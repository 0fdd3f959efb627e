import ClusterOutbox.Metrics.Exposition
import ClusterOutbox.Probe.Health

namespace ClusterOutbox

/-- The content of an answer to a probe. -/
inductive Page
  | health (h : Health)
  | readiness (reason : Option String)
  | metrics (text : String)
  | nothing

/-- An answer to a probe. -/
structure Answer where
  status : Nat
  page : Page
  /-- Whether the content is left out, as the answer to a request for the head alone. -/
  headOnly : Bool

namespace Answer

def jsonType : String := "application/json"

def textType : String := "text/plain; version=0.0.4"

/-- The type of the content, also where that is left out. -/
def contentType? (a : Answer) : Option String :=
  match a.page with
  | .health _ => some jsonType
  | .readiness _ => some jsonType
  | .metrics _ => some textType
  | .nothing => none

end Answer

/-- The page of a path with its status: 503 tells that something is wrong. -/
def pageOf? (h : Health) (m : Metrics) : String → Option (Nat × Page)
  | "/healthz" => some (if h.status = .unhealthy then 503 else 200, .health h)
  | "/readyz" => some (if h.unready?.isSome then 503 else 200, .readiness h.unready?)
  | "/metrics" => some (200, .metrics m.text)
  | _ => none

def isSchemeChar (c : Char) : Bool := c.isAlphanum || c == '+' || c == '-' || c == '.'

/-- A target from its path on; a whole address has a scheme and an authority before it. -/
def fromPath (target : List Char) : List Char :=
  match target.dropWhile isSchemeChar with
  | ':' :: '/' :: '/' :: rest => rest.dropWhile fun c => c != '/' && c != '?' && c != '#'
  | _ => target

/-- The path of a target, which ends where a query or a fragment begins. -/
def pathOf (target : String) : String :=
  String.ofList ((fromPath target.toList).takeWhile fun c => c != '?' && c != '#')

/-- Answers a request: pages can be read and nothing else. -/
def answer (h : Health) (m : Metrics) (method target : String) : Answer :=
  match pageOf? h m (pathOf target) with
  | none => ⟨404, .nothing, false⟩
  | some (status, page) =>
    if method = "GET" then ⟨status, page, false⟩
    else if method = "HEAD" then ⟨status, page, true⟩
    else ⟨405, .nothing, false⟩

end ClusterOutbox
