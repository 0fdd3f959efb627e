import ClusterOutbox.Metrics.Basic
import ClusterOutbox.Store.Database
import ClusterOutbox.Store.Query

namespace ClusterOutbox

/-- The database of a connection and the metrics that its work counts on. -/
structure Store where
  isOpen : Bool
  db : Database
  /-- Whether the connection knows how to confirm deliveries. It learns it while there is a table. -/
  prepared : Bool
  metrics : Metrics

/-- Work on the connection: it may fail, and keeps what it has done unless it undoes it. -/
abbrev Session := ExceptT StoreError (StateM Store)

/-- What a write takes from outside: a reading of the clock and an id that no record has. -/
structure Moment where
  now : Instant
  freshId : String

/-- Whether an observation made a new record or changed one. -/
inductive Outcome
  | inserted
  | updated
deriving DecidableEq

/-- A record as stored by an observation. -/
structure Observation where
  outcome : Outcome
  record : Record

namespace Store

/-- A store with an empty table. -/
def fresh : Store := ⟨true, Database.fresh, false, Metrics.empty⟩

end Store

namespace Session

/-- Runs a statement of the engine. -/
def statement {α : Type} (f : Database → Except EngineError α × Database) : Session α :=
  fun s =>
    let (result, db) := f s.db
    (result.mapError StoreError.ofEngine, { s with db })

/-- Takes what the engine read. -/
def ofEngine {α : Type} (result : Except EngineError α) : Session α :=
  fun s => (result.mapError StoreError.ofEngine, s)

def write {α : Type} (f : Table → Effect α) : Session α := statement fun db => db.write f

/-- The rows in the order of their insertion. -/
def rows : Session (List Row) := do
  let t ← ofEngine (← get).db.table?
  return t.rows

def inTransaction : Session Bool := return (← get).db.inTransaction

/-- Opens a transaction unless one is open; the result says whether it did. -/
def enter : Session Bool := do
  if ← inTransaction then return false
  else
    statement Database.begin_
    return true

/-- Ends what `enter` began, with the result of the work between: a transaction that it opened is
kept on success and undone on failure. -/
def leave {α : Type} (opened : Bool) (result : Except StoreError α) : Session α := do
  match result with
  | .ok a =>
    if opened then statement Database.commit
    return a
  | .error e =>
    if opened then modify fun s => { s with db := s.db.restored }
    throw e

/-- Runs work as a unit; inside a transaction it becomes part of that one. -/
def tx {α : Type} (work : Session α) : Session α := do
  let opened ← enter
  let result ← ExceptT.lift work.run
  leave opened result

/-- Counts a failed write. -/
def countFailure (kind : Kind) (ns action : String) : Session Unit :=
  modify fun s => { s with metrics := s.metrics.addWriteFailures kind.name ns action 1 }

/-- Runs a write, and counts its failure for the record written. -/
def counted {α : Type} (r : Record) (action : String) (work : Session α) : Session α :=
  tryCatch work fun e => do
    countFailure r.kind r.nsKey action
    throw e

/-- Adds a record. A record whose identity is taken is dropped, and the id of the result was never
stored. -/
def create (m : Moment) (r : Record) : Session Record :=
  counted r "create" do
    let now := m.now.floorMicros
    let row := Row.ofRecord m.freshId now.micros (r.sentAt.map Stamp.micros) r
    let written ← write fun t => t.insert row none
    return { r with
      id := m.freshId
      created := now.stamp
      updated := now.stamp
      size := match written with
        | some row => row.size.toUInt64
        | none => r.size }

/-- Replaces the maps and the delivery of a row; the time of its change is not before its creation. -/
def overwrite (r : Record) (now : Int) (sentAt : Option Int) (row : Row) : Row :=
  { row.withMaps r with
    updated := (Cell.integer now).later row.created
    sentAt := .ofInteger? sentAt }

/-- Replaces the maps and the delivery of the record of an id. -/
def update (m : Moment) (r : Record) : Session Record :=
  counted r "update" do
    if r.id = "" then throw .missingKey
    let sentAt := r.sentAt.map Stamp.micros
    match ← write fun t => t.updateId r.id [.update, .sentAt] (overwrite r m.now.micros sentAt) with
    | none => throw .notFound
    | some row =>
      let created ← ofEngine (row.created.integer? 0 "record_created")
      let updated ← ofEngine (row.updated.integer? 1 "record_updated")
      let created ← ofEngine (Row.stamp? 0 created)
      let updated ← ofEngine (Row.stamp? 1 updated)
      return { r with created, updated, size := row.size.toUInt64 }

/-- Adds a record, or replaces the maps of the one that has its identity; either way it is pending
delivery. -/
def upsert (m : Moment) (r : Record) : Session Observation :=
  counted r "upsert" do
    let new := Row.ofRecord m.freshId m.now.micros none r
    match ← write fun t => t.insert new (some (overwrite r m.now.micros none)) with
    | none => throw .notFound
    | some row =>
      let id ← ofEngine (row.id.text? 0 "id")
      let created ← ofEngine (row.created.integer? 1 "record_created")
      let updated ← ofEngine (row.updated.integer? 2 "record_updated")
      let created ← ofEngine (Row.stamp? 1 created)
      let updated ← ofEngine (Row.stamp? 2 updated)
      return {
        outcome := if id = m.freshId then .inserted else .updated
        record := { r with id, created, updated, sentAt := none, size := row.size.toUInt64 } }

def get? (id : String) : Session Record := do
  match (← rows).find? fun r => r.id == .text id with
  | some row => ofEngine row.record?
  | none => throw .notFound

/-- The kind and namespace of a stored id, unknown where they do not read. -/
def owner (db : Database) (id : String) : Kind × String :=
  match db.rows.find? fun r => r.id == .text id with
  | some row =>
    match row.kind.integer? 0 "kind", row.nsKey.text? 1 "namespace_key" with
    | .ok kind, .ok ns => (Kind.ofCode kind, ns)
    | _, _ => (.unknown, "")
  | none => (.unknown, "")

/-- Deletes the row of an id; the result is the number of rows deleted. A failure counts for the
identity that is stored. -/
def delete (id : String) : Session Nat :=
  tryCatch (write fun t => t.delete fun r => r.id == .text id) fun e => do
    let (kind, ns) := owner (← get).db id
    countFailure kind ns "delete"
    throw e

/-- The first record that a query selects. -/
def findFirst (q : Query) : Session Record := do
  match (← rows).find? q.selects with
  | some row => ofEngine row.record?
  | none => throw .notFound

/-- All records that a query selects, in the order of their insertion. -/
def findAll (q : Query) : Session (List Record) := do
  ofEngine (((← rows).filter q.selects).mapM Row.record?)

def countBy (q : Query) : Session Nat := return ((← rows).filter q.selects).length

def count : Session Nat := countBy .all

def deleteAll : Session Nat := write fun t => t.delete fun _ => true

/-- Sets the delivery of the rows of some ids, one after another; the result counts the rows set. -/
def markEach (sentAt : Int) : List String → Session Nat
  | [] => return 0
  | id :: rest => do
    let row ← write fun t =>
      t.updateId id [.update, .sentAt] fun r => { r with sentAt := .integer sentAt }
    let marked ← markEach sentAt rest
    return (if row.isSome then 1 else 0) + marked

/-- Learns to confirm deliveries, which needs the table once. -/
def prepare : Session Unit := do
  if !(← get).prepared then
    let _ ← rows
    modify fun s => { s with prepared := true }

/-- Confirms the delivery of some ids, as a unit. -/
def markAt (sentAt : Int) (ids : List String) : Session Nat :=
  tx do
    prepare
    markEach sentAt ids

/-- Confirms the delivery of some ids at a reading of the clock. -/
def markSent (ids : List String) (at_ : Instant) : Session Nat := markAt at_.micros ids

/-- Runs work unless the connection is closed. -/
def call {α : Type} (work : Session α) : Session α := do
  if (← get).isOpen then work else throw .connectionClosed

/-- Records one observation. -/
def observe (m : Moment) (r : Record) : Session Observation := call (upsert m r)

/-- Records observations as a unit, each at its own moment. -/
def observeAll (items : List (Moment × Record)) : Session (List Observation) :=
  call (tx (items.mapM fun (m, r) => upsert m r))

end Session

namespace Store

/-- Closes the connection; an open transaction is undone. -/
def close (s : Store) : Store := { s with isOpen := false, db := s.db.restored }

/-- Opens the store of a file again, which keeps what was committed. -/
def reopenFile (s : Store) : Store :=
  { s with isOpen := true, db := s.db.reopened, prepared := false }

/-- Opens a store in memory again, which is then empty. -/
def reopenMemory (s : Store) : Store :=
  { s with isOpen := true, db := Database.fresh, prepared := false }

end Store

/-- What lies where a store is to be opened. -/
inductive Site
  /-- A file stands where a directory is needed. -/
  | parentIsFile
  | directory
  /-- A file that is no database. -/
  | foreignFile

/-- The error of opening a store at a site. -/
def Site.error : Site → StoreError
  | .parentIsFile => .io "File exists (os error 17)"
  | .directory => .ofEngine (.failure 14 (some "unable to open database file"))
  | .foreignFile => .ofEngine (.failure 26 (some "file is not a database"))

end ClusterOutbox
