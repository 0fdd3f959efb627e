import ClusterOutbox.Delivery.Batch
import ClusterOutbox.Delivery.Procedure
import ClusterOutbox.Delivery.Retry
import ClusterOutbox.Wire.InfoSeries
import ClusterOutbox.Wire.Snappy

namespace ClusterOutbox

/-- What a pusher is told: where and when to send, how much at once, and how often to try. -/
structure PusherConfig where
  /-- The endpoint as metrics show it, without its query. -/
  endpoint : String
  interval : Duration
  /-- The time each request may take. -/
  timeout : Duration
  /-- The sizes of the records of one request sum to no more, unless it carries a single one. -/
  maxBytes : UInt64
  retry : RetryPolicy
  /-- The first word of every series name. -/
  stem : String

namespace PusherConfig

def standard (endpoint : String) : PusherConfig where
  endpoint := endpoint
  interval := .ofSeconds 60
  timeout := .ofSeconds 10
  maxBytes := 500000
  retry := .standard
  stem := "cloudzero"

end PusherConfig

/-- What a flush did. -/
structure Report where
  /-- Records pending when it began. -/
  selected : Nat
  /-- Records confirmed delivered. -/
  delivered : Nat
  /-- Requests accepted. -/
  batches : Nat
  /-- Series in those requests. -/
  series : Nat
deriving DecidableEq

namespace Flush

/-- The body of a request that carries series. -/
def body? (series : List Series) : Option (List UInt8) :=
  Snappy.compress? (Wire.writeRequest series)

/-- Sends a body until it is accepted, tries run out or a shutdown is signalled. `left` more attempts
may follow the one with number `attempt`; the result is the number of attempts. -/
def sendFrom (c : PusherConfig) (key : String) (body : List UInt8) (left attempt : Nat) :
    Procedure (Except PushError Nat) :=
  .post key body fun reply elapsed =>
    .count (·.observeRequest c.endpoint reply.statusText elapsed) <|
      match reply.error? with
      | none => .finish (.ok attempt)
      | some e =>
        match left with
        | 0 => .finish (.error (.retriesExhausted attempt e))
        | left + 1 =>
          .isSignalled fun signalled =>
            if signalled then .finish (.error (.retriesExhausted attempt e))
            else
              .draw c.retry.jitterLimit fun drawn =>
                match c.retry.backoff (attempt - 1) drawn with
                | none => .overflow
                | some delay =>
                  .pause delay fun waited =>
                    if waited then sendFrom c key body left (attempt + 1)
                    else .finish (.error .cancelled)

def send (c : PusherConfig) (key : String) (body : List UInt8) :
    Procedure (Except PushError Nat) :=
  sendFrom c key body (max 1 c.retry.attempts.toNat - 1) 1

/-- Sends the series of a batch; the result is their number. -/
def sendBatch (c : PusherConfig) (key : String) (batch : List Record) :
    Procedure (Except PushError Nat) :=
  let series := seriesOf c.stem batch
  match body? series with
  | none => .finish (.error .compress)
  | some body => do
    match ← send c key body with
    | .ok _ =>
      .count (·.observeBatch c.endpoint series.length.toUInt64 body.length.toUInt64)
        (.finish (.ok series.length))
    | .error e => .finish (.error e)

/-- Batches sent so far: the ids of their records, their number and that of their series. -/
structure Progress where
  ids : List String
  batches : Nat
  series : Nat

/-- Sends batches in order up to the first that fails; the result says how far it came and why it
stopped. -/
def sendBatches (c : PusherConfig) (key : String) (selected : Nat) (done : Progress) :
    List (List Record) → Procedure (Progress × Option PushError)
  | [] => .finish (done, none)
  | batch :: rest => do
    match ← sendBatch c key batch with
    | .ok series =>
      let done := {
        ids := done.ids ++ batch.map (·.id)
        batches := done.batches + 1
        series := done.series + series }
      .count (·.setBacklog c.endpoint (selected - done.ids.length).toUInt64)
        (sendBatches c key selected done rest)
    | .error e => .count (·.addPushFailure c.endpoint) (.finish (done, some e))

/-- Confirms what has been delivered; a failure to do so is only counted. -/
def confirm (c : PusherConfig) (start : Instant) (ids : List String) : Procedure Unit :=
  if ids = [] then .finish ()
  else
    .count (·.addProcessed c.endpoint ids.length.toUInt64) <|
      .mark ids start fun
        | .ok _ => .finish ()
        | .error _ => .count (·.addDbFailure c.endpoint) (.finish ())

/-- Delivers all records pending, batch by batch, and confirms those delivered as of its start. -/
def flush (c : PusherConfig) : Procedure (Except PushError Report) :=
  .readClock fun start =>
    .select fun
      | .error e => .count (·.addDbFailure c.endpoint) (.finish (.error (.store e)))
      | .ok pending =>
        .count (·.setBacklog c.endpoint pending.length.toUInt64) <|
          if pending = [] then .finish (.ok ⟨0, 0, 0, 0⟩)
          else
            .readKey fun key =>
              if key = "" then
                .count (·.addPushFailure c.endpoint) (.finish (.error .missingKey))
              else do
                let (done, failure) ←
                  sendBatches c key pending.length ⟨[], 0, 0⟩ (pack c.maxBytes pending)
                confirm c start done.ids
                match failure with
                | some e => .finish (.error e)
                | none =>
                  .finish (.ok ⟨pending.length, done.ids.length, done.batches, done.series⟩)

end Flush

end ClusterOutbox
