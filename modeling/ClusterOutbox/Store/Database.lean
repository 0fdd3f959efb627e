import ClusterOutbox.Store.Table

namespace ClusterOutbox

/-- The table as a connection sees it. -/
structure Database where
  /-- The table, unless it has been dropped. -/
  table : Option Table
  /-- While a transaction is open, the table as it was before. -/
  saved : Option (Option Table)
  /-- Whether writes are refused. -/
  readOnly : Bool
deriving DecidableEq

namespace Database

/-- A database with an empty table. -/
def fresh : Database := ⟨some Table.empty, none, false⟩

def inTransaction (db : Database) : Bool := db.saved.isSome

/-- The rows, none where the table has been dropped. -/
def rows (db : Database) : List Row := (db.table.map (·.rows)).getD []

/-- A failure without a class of its own. -/
def plainError (text : String) : EngineError := .failure 1 (some text)

def noTable : EngineError := plainError "no such table: resource_records"

def readOnlyError : EngineError :=
  .failure EngineError.readOnlyCode (some "attempt to write a readonly database")

/-- Opens a transaction; there is one at a time. -/
def begin_ (db : Database) : Except EngineError Unit × Database :=
  if db.inTransaction then (.error (plainError "cannot start a transaction within a transaction"), db)
  else (.ok (), { db with saved := some db.table })

/-- Keeps what the open transaction has done. -/
def commit (db : Database) : Except EngineError Unit × Database :=
  if db.inTransaction then (.ok (), { db with saved := none })
  else (.error (plainError "cannot commit - no transaction is active"), db)

/-- The database without what an open transaction has done. -/
def restored (db : Database) : Database :=
  match db.saved with
  | some table => { db with table, saved := none }
  | none => db

/-- Undoes what the open transaction has done. -/
def rollback (db : Database) : Except EngineError Unit × Database :=
  if db.inTransaction then (.ok (), db.restored)
  else (.error (plainError "cannot rollback - no transaction is active"), db)

/-- The table, which a statement needs. -/
def table? (db : Database) : Except EngineError Table :=
  match db.table with
  | some t => .ok t
  | none => .error noTable

/-- The table for a statement that writes. -/
def writable? (db : Database) : Except EngineError Table :=
  match db.table? with
  | .ok t => if db.readOnly then .error readOnlyError else .ok t
  | .error e => .error e

/-- Runs a statement that writes: an error that stops it undoes it, or keeps what it has done, or ends
the open transaction. -/
def write {α : Type} (db : Database) (statement : Table → Effect α) :
    Except EngineError α × Database :=
  match db.writable? with
  | .error e => (.error e, db)
  | .ok t =>
    match statement t with
    | .done t a => (.ok a, { db with table := some t })
    | .stopped t .fail e => (.error e, { db with table := some t })
    | .stopped _ .rollback e => (.error e, db.restored)
    | .stopped _ _ e => (.error e, db)

/-- Titles that begin as the engine's own do. -/
def isReserved (title : String) : Bool := "sqlite_".toList.isPrefixOf title.toLower.toList

/-- Adds a guard of a new title. -/
def guard (db : Database) (g : Guard) : Except EngineError Unit × Database :=
  match db.table? with
  | .error e => (.error e, db)
  | .ok t =>
    if isReserved g.title then
      (.error (plainError ("object name reserved for internal use: " ++ g.title)), db)
    else if t.guards.any fun other => other.isTitled g.title then
      (.error (plainError ("trigger " ++ g.title ++ " already exists")), db)
    else db.write fun t => .done { t with guards := g :: t.guards } ()

/-- Drops the guard of a title. -/
def unguard (db : Database) (title : String) : Except EngineError Unit × Database :=
  match db.table with
  | none => (.error (plainError ("no such trigger: " ++ title)), db)
  | some t =>
    if t.guards.any fun g => g.isTitled title then
      db.write fun t => .done { t with guards := t.guards.filter fun g => !g.isTitled title } ()
    else (.error (plainError ("no such trigger: " ++ title)), db)

/-- Drops the table with its guards. -/
def drop (db : Database) : Except EngineError Unit × Database :=
  match db.writable? with
  | .error e => (.error e, db)
  | .ok _ => (.ok (), { db with table := none })

/-- Sets a column of the row of an id, whatever the column holds. -/
def setColumn (db : Database) (id column : String) (value : Cell) :
    Except EngineError Unit × Database :=
  match db.table?, Column.ofTitle? column with
  | .error e, _ => (.error e, db)
  | .ok _, none =>
    (.error (plainError
      (if column = "size" then "cannot UPDATE generated column \"size\""
        else "no such column: " ++ column)), db)
  | .ok _, some c =>
    let watched := if c = .sentAt then [.update, .sentAt] else [.update]
    match db.write fun t => t.updateId id watched fun r => r.set c (c.convert value) with
    | (.ok _, db) => (.ok (), db)
    | (.error e, db) => (.error e, db)

/-- The database as another connection opens it: without the open transaction, and writable. -/
def reopened (db : Database) : Database := { db.restored with readOnly := false }

end Database

end ClusterOutbox
