import ClusterOutbox.Probe.Health
import ClusterOutbox.Store.Session

namespace ClusterOutbox.Keeper

/-- The name of the component in the health report. -/
def component : String := "housekeeper"

/-- Three hours between two passes. -/
def standardInterval : Duration := .ofSeconds 10800

/-- Delivered records are kept for a day. -/
def standardRetention : Duration := .ofSeconds 86400

/-- Deletes records one after another; the result is the number deleted. -/
def deleteEach : List Record → Session Nat
  | [] => return 0
  | r :: rest => do
    let deleted ← Session.delete r.id
    let others ← deleteEach rest
    return deleted + others

/-- Deletes, as a unit, the delivered records all of whose times are further back than the
retention. -/
def pass (now : Instant) (retention : Duration) : Session Nat :=
  Session.call <| Session.tx do
    deleteEach (← Session.findAll (.reclaimable (now.back retention)))

/-- The message of a pass that failed. -/
def failure? {α : Type} : Except StoreError α → Option String
  | .ok _ => none
  | .error e => some e.message

/-- A pass whose outcome is counted and reported. -/
def tick (now : Instant) (retention : Duration) (store : Store) (health : Health) :
    Except StoreError Nat × Store × Health :=
  let (result, store) := (pass now retention).run store
  let metrics := match result with
    | .ok deleted => store.metrics.addReclaimed deleted.toUInt64
    | .error _ => store.metrics.addRetentionFailure
  (result, { store with metrics }, health.set component (.ofOutcome (failure? result)))

end ClusterOutbox.Keeper
