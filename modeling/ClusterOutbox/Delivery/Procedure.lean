import ClusterOutbox.Delivery.Error
import ClusterOutbox.Metrics.Basic
import ClusterOutbox.Record.Basic

namespace ClusterOutbox

/-- What comes back from a request. -/
inductive Reply
  | status (code : Nat)
  | timedOut
  | unreachable
deriving DecidableEq

namespace Reply

/-- Why a reply is a failure, unless it accepts the request. -/
def error? : Reply → Option PushError
  | status code => if 200 ≤ code ∧ code < 300 then none else some (.status code)
  | timedOut => some .timeout
  | unreachable => some .unreachable

/-- The status by which a reply is counted. -/
def statusText : Reply → String
  | status code => intText code
  | timedOut => Metrics.noResponse
  | unreachable => Metrics.noResponse

end Reply

/-- What a pusher does, one act after another; an act takes its outcome from outside. -/
inductive Procedure (α : Type)
  | finish (result : α)
  /-- A sum of times that no duration holds. -/
  | overflow
  | readClock (next : Instant → Procedure α)
  /-- Selects the records pending delivery. -/
  | select (next : Except StoreError (List Record) → Procedure α)
  | readKey (next : String → Procedure α)
  /-- Sends a body once; the outcome is the reply and the time it took. -/
  | post (key : String) (body : List UInt8) (next : Reply → Duration → Procedure α)
  /-- Asks whether a shutdown has been signalled. -/
  | isSignalled (next : Bool → Procedure α)
  /-- Draws a number up to a limit. -/
  | draw (limit : Nat) (next : Nat → Procedure α)
  /-- Waits; the outcome says whether the wait was not cut short by a shutdown. -/
  | pause (delay : Duration) (next : Bool → Procedure α)
  /-- Confirms the delivery of some ids. -/
  | mark (ids : List String) (at_ : Instant) (next : Except StoreError Nat → Procedure α)
  | count (change : Metrics → Metrics) (next : Procedure α)

namespace Procedure

/-- Goes on with a result. -/
def andThen {α β : Type} : Procedure α → (α → Procedure β) → Procedure β
  | finish a, f => f a
  | overflow, _ => overflow
  | readClock next, f => readClock fun t => (next t).andThen f
  | select next, f => select fun r => (next r).andThen f
  | readKey next, f => readKey fun k => (next k).andThen f
  | post key body next, f => post key body fun r d => (next r d).andThen f
  | isSignalled next, f => isSignalled fun b => (next b).andThen f
  | draw limit next, f => draw limit fun n => (next n).andThen f
  | pause delay next, f => pause delay fun b => (next b).andThen f
  | mark ids t next, f => mark ids t fun r => (next r).andThen f
  | count change next, f => count change (next.andThen f)

instance : Monad Procedure where
  pure := finish
  bind := andThen

end Procedure

end ClusterOutbox
