import ClusterOutbox.Delivery.Flush
import ClusterOutbox.Probe.Health
import ClusterOutbox.Store.Session

namespace ClusterOutbox

/-- When a shutdown is signalled to a procedure that runs alone. -/
inductive Signal
  | never
  | already
  /-- During the first wait that comes after a number of replies or outlasts what is left of a
  patience. -/
  | onWait (replies : Nat) (patience : Duration)

/-- What a procedure meets that runs alone: the clock, the key, the replies to its requests and the
numbers drawn, each in order, and the signal. -/
structure Surroundings where
  now : Instant
  key : String
  reply : Nat → Reply × Duration
  drawn : Nat → Nat
  signal : Signal

/-- What a procedure has done: the store, and the bodies it sent and the delays it took, the last one
first. -/
structure Trace where
  store : Store
  posts : List (List UInt8)
  pauses : List Duration
  signalled : Bool

namespace Trace

/-- The nanoseconds that the delays sum to. -/
def waited (t : Trace) : Nat := t.pauses.foldr (fun d n => d.nanos + n) 0

end Trace

namespace Procedure

/-- Runs a procedure by itself; there is no result where a sum of times is no duration. -/
def run {α : Type} (s : Surroundings) : Procedure α → Trace → Option α × Trace
  | finish a, t => (some a, t)
  | overflow, t => (none, t)
  | readClock next, t => (next s.now).run s t
  | select next, t =>
    let (result, store) := (Session.call (Session.findAll .pending)).run t.store
    (next result).run s { t with store }
  | readKey next, t => (next s.key).run s t
  | post _ body next, t =>
    let (reply, elapsed) := s.reply t.posts.length
    (next reply elapsed).run s { t with posts := body :: t.posts }
  | isSignalled next, t => (next t.signalled).run s t
  | draw limit next, t => (next (min limit (s.drawn t.pauses.length))).run s t
  | pause delay next, t =>
    let cut := t.signalled || match s.signal with
      | .onWait replies patience =>
        replies ≤ t.posts.length || patience.nanos < t.waited + delay.nanos
      | _ => false
    (next (!cut)).run s { t with pauses := delay :: t.pauses, signalled := cut }
  | mark ids at_ next, t =>
    let (result, store) := (Session.call (Session.markSent ids at_)).run t.store
    (next result).run s { t with store }
  | count change next, t =>
    next.run s { t with store := { t.store with metrics := change t.store.metrics } }

end Procedure

namespace Flush

/-- A flush that runs alone. -/
def alone (c : PusherConfig) (s : Surroundings) (store : Store) :
    Option (Except PushError Report) × Trace :=
  (flush c).run s ⟨store, [], [], s.signal matches .already⟩

/-- The name of the component in the health report. -/
def component : String := "pusher"

/-- The name of the job that flushes. -/
def jobName : String := "metrics-pusher"

/-- The message of a flush that failed. -/
def failure? : Except PushError Report → Option String
  | .ok _ => none
  | .error e => some e.message

/-- A flush that runs alone and whose outcome, if it has one, is reported. -/
def tick (c : PusherConfig) (s : Surroundings) (store : Store) (health : Health) :
    Option (Except PushError Report) × Trace × Health :=
  let (result, trace) := alone c s store
  (result, trace, match result with
    | some r => health.set component (.ofOutcome (failure? r))
    | none => health)

end Flush

end ClusterOutbox
