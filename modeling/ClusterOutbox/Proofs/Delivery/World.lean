import ClusterOutbox.Proofs.Delivery.Ensures
import ClusterOutbox.Proofs.Retention.Pass

namespace ClusterOutbox

deriving instance DecidableEq for Moment

abbrev Log := List (Moment × Record)

def Log.latest? (log : Log) (i : Identity) : Option (Moment × Record) :=
  log.find? fun entry => entry.2.identity = i

/-- What an act of a flush may take from outside. -/
structure Outside where
  now : Instant
  key : String
  reply : Reply
  elapsed : Duration
  flag : Bool
  drawn : Nat
  /-- How the store fails, where it does. -/
  trouble : Option StoreError

def Outside.perform {α : Type} (o : Outside) (work : Session α) (s : Store) :
    Except StoreError α × Store :=
  match o.trouble with
  | some e => (.error e, s)
  | none => (Session.call work).run s

/-- A flush under way: what is left of it, what it has done, and what has been observed since it
selected. -/
structure Flight where
  rest : Procedure (Except PushError Report)
  journal : Journal
  since : Log

/-- A store, the flush under way on it, and what has happened: the clock read, the observations
made, the requests answered and the rows that passes deleted, each with the last first. -/
structure World where
  store : Store
  flight : Option Flight
  readings : List Instant
  observed : Log
  posts : List (List UInt8 × Reply)
  dropped : List Row

inductive Event
  | begin
  | abandon
  | act (o : Outside)
  | observe (m : Moment) (r : Record)
  | observeAll (items : List (Moment × Record))
  | pass (now : Instant) (retention : Duration)
  /-- A call that fails after it has read the clock some times; failures are counted. -/
  | failed (readings : List Instant) (change : Metrics → Metrics)

namespace World

def start : World := ⟨.fresh, none, [], [], [], []⟩

def note (w : World) (m : Moment) (r : Record) : World :=
  { w with
    readings := m.now :: w.readings
    observed := (m, r) :: w.observed
    flight := w.flight.map fun f => { f with since := (m, r) :: f.since } }

def noteAll (w : World) (items : List (Moment × Record)) : World :=
  items.foldl (fun w item => w.note item.1 item.2) w

def count (w : World) (change : Metrics → Metrics) : World :=
  { w with store := { w.store with metrics := change w.store.metrics } }

def tickAll (w : World) (readings : List Instant) : World :=
  readings.foldl (fun w t => { w with readings := t :: w.readings }) w

def sweep (now : Instant) (store : Store) (w : World) : World :=
  { w with
    store
    readings := now :: w.readings
    dropped := (w.store.db.rows.filter fun row => row ∉ store.db.rows) ++ w.dropped }

def act (o : Outside) (f : Flight) (w : World) : World :=
  match f.rest with
  | .finish _ | .overflow => { w with flight := none }
  | .readClock next =>
    { w with
      readings := o.now :: w.readings
      flight := some { f with rest := next o.now, journal := f.journal.started o.now } }
  | .select next =>
    let (found, store) := o.perform (Session.findAll .pending) w.store
    { w with
      store
      flight := some
        ⟨next found, { f.journal with selected := found.toOption.getD [] }, []⟩ }
  | .readKey next => { w with flight := some { f with rest := next o.key } }
  | .post _ body next =>
    { w with
      posts := (body, o.reply) :: w.posts
      flight := some
        { f with rest := next o.reply o.elapsed, journal := f.journal.replied body o.reply } }
  | .isSignalled next => { w with flight := some { f with rest := next o.flag } }
  | .draw limit next => { w with flight := some { f with rest := next (min limit o.drawn) } }
  | .pause _ next => { w with flight := some { f with rest := next o.flag } }
  | .mark ids t next =>
    let (marked, store) := o.perform (Session.markSent ids t) w.store
    { w with store, flight := some { f with rest := next marked, since := [] } }
  | .count change next => { w.count change with flight := some { f with rest := next } }

/-- What an event makes of a world; there is one flush at a time. -/
def next (c : PusherConfig) (w : World) : Event → World
  | .begin =>
    match w.flight with
    | some _ => w
    | none => { w with flight := some ⟨Flush.flush c, .blank, []⟩ }
  | .abandon => { w with flight := none }
  | .act o =>
    match w.flight with
    | some f => w.act o f
    | none => w
  | .observe m r =>
    match (Session.observe m r).run w.store with
    | (.ok _, store) => { w with store }.note m r
    | (.error _, store) => { w with store }
  | .observeAll items =>
    match (Session.observeAll items).run w.store with
    | (.ok _, store) => { w with store }.noteAll items
    | (.error _, store) => { w with store }
  | .pass now retention => w.sweep now ((Keeper.pass now retention).run w.store).2
  | .failed readings change => (w.count change).tickAll readings

/-- Whether the ids that an event gives are new and differ. -/
def Admits (w : World) : Event → Prop
  | .observe m _ => w.store.IsFresh m.freshId
  | .observeAll items =>
    (items.map (·.1.freshId)).Nodup ∧ ∀ item ∈ items, w.store.IsFresh item.1.freshId
  | _ => True

instance (w : World) (e : Event) : Decidable (w.Admits e) :=
  match e with
  | .observe _ _ | .observeAll _ => inferInstanceAs (Decidable (_ ∧ _))
  | .begin | .abandon | .act _ | .pass _ _ | .failed _ _ => isTrue trivial

/-- The worlds that events lead to from an empty store, in any order. -/
inductive Reachable (c : PusherConfig) : World → Prop
  | start : Reachable c .start
  | next {w : World} (e : Event) : Reachable c w → w.Admits e → Reachable c (w.next c e)

/-- The ids and the time that the flush under way confirms next. -/
def confirming? (w : World) : Option (List String × Instant) :=
  w.flight.bind fun f =>
    match f.rest with
    | .mark ids t _ => some (ids, t)
    | _ => none

/-- The last observation of an identity since the flush under way selected. -/
def late? (w : World) (i : Identity) : Option (Moment × Record) :=
  w.flight.bind fun f => f.since.latest? i

def startedAt? (w : World) : Option Instant := w.flight.bind fun f => f.journal.start

theorem exists_mark_of_confirming? {w : World} {ids : List String} {t : Instant}
    (h : w.confirming? = some (ids, t)) :
    ∃ f next, w.flight = some f ∧ f.rest = .mark ids t next := by
  obtain ⟨f, hf, hrest⟩ := Option.bind_eq_some_iff.mp h
  refine ⟨f, ?_⟩
  split at hrest
  next next heq =>
    rw [Option.some.injEq, Prod.mk.injEq] at hrest
    obtain ⟨rfl, rfl⟩ := hrest
    exact ⟨next, hf, heq⟩
  next => simp at hrest

def run (c : PusherConfig) (w : World) (events : List Event) : World := events.foldl (next c) w

def AdmitsAll (c : PusherConfig) : World → List Event → Prop
  | _, [] => True
  | w, e :: events => w.Admits e ∧ (w.next c e).AdmitsAll c events

instance decidableAdmitsAll (c : PusherConfig) :
    (w : World) → (events : List Event) → Decidable (w.AdmitsAll c events)
  | _, [] => isTrue trivial
  | w, e :: events =>
    have := decidableAdmitsAll c (w.next c e) events
    inferInstanceAs (Decidable (_ ∧ _))

theorem Reachable.run {c : PusherConfig} {w : World} {events : List Event} (hw : Reachable c w)
    (h : w.AdmitsAll c events) : Reachable c (w.run c events) := by
  induction events generalizing w with
  | nil => exact hw
  | cons e events ih => exact ih (hw.next e h.1) h.2

def samplePod (version : String) : Record :=
  { Record.fresh .pod "web-0" (some "default") with labels := some (.ofList [("version", version)]) }

def sampleOutside (n : Nat) : Outside :=
  ⟨.sampleSecond n, "key", .status 200, .ofSeconds 1, false, 0, none⟩

def sampleConfig : PusherConfig := .standard "endpoint"

/-- A pod is observed, sent by a flush, and observed anew before the flush confirms it, each at its
second of the clock. -/
def sampleEvents (first flush second : Nat) : List Event :=
  [.observe ⟨.sampleSecond first, "a"⟩ (samplePod "1"), .begin] ++
    List.replicate 9 (.act (sampleOutside flush)) ++
    [.observe ⟨.sampleSecond second, "b"⟩ (samplePod "2")]

end World

end ClusterOutbox
