import ClusterOutbox.SortedMap
import ClusterOutbox.Store.Database

namespace ClusterOutbox

/-- What the first migration creates. -/
inductive SchemaItem
  | records
  | identityIndex
  | sentAtIndex
  | updatedIndex
deriving DecidableEq

namespace SchemaItem

def title : SchemaItem → String
  | records => "resource_records"
  | identityIndex => "idx_resource_records_identity"
  | sentAtIndex => "idx_resource_records_sent_at"
  | updatedIndex => "idx_resource_records_updated"

def kind : SchemaItem → String
  | records => "table"
  | _ => "index"

end SchemaItem

/-- A database as migrations see it. -/
structure Schema where
  /-- The migrations recorded, by version, once there is a table of them. -/
  history : Option (SortedMap Int String)
  /-- What the first migration has created. -/
  items : List SchemaItem
  /-- Titles taken by other tables and indexes. -/
  taken : List String
  /-- While a transaction is open, what there was before it. -/
  saved : Option (List SchemaItem)
deriving DecidableEq

namespace Schema

/-- The version that the migrations lead to. -/
def currentVersion : Int := 1

def empty : Schema := ⟨none, [], [], none⟩

def inTransaction (s : Schema) : Bool := s.saved.isSome

/-- Whether the table of records is there, created by the migration. -/
def hasRecords (s : Schema) : Bool := s.items.contains .records

/-- The greatest version recorded, zero without one. -/
def version (s : Schema) : Int :=
  match s.history with
  | some h => ((h.entries.getLast?).map (·.1)).getD 0
  | none => 0

/-- Whether the title of an item is taken; the case of its letters does not matter. -/
def isTaken (s : Schema) (item : SchemaItem) : Bool :=
  s.items.contains item || s.taken.any fun title => title.toLower == item.title

/-- Creates one item; its title must be free. -/
def create (s : Schema) (item : SchemaItem) : Except EngineError Unit × Schema :=
  if s.isTaken item then
    (.error (Database.plainError (item.kind ++ " " ++ item.title ++ " already exists")), s)
  else (.ok (), { s with items := s.items ++ [item] })

def begin_ (s : Schema) : Except EngineError Unit × Schema :=
  if s.inTransaction then
    (.error (Database.plainError "cannot start a transaction within a transaction"), s)
  else (.ok (), { s with saved := some s.items })

def commit (s : Schema) : Except EngineError Unit × Schema :=
  if s.inTransaction then (.ok (), { s with saved := none })
  else (.error (Database.plainError "cannot commit - no transaction is active"), s)

/-- Records that the first migration is done. -/
def record (s : Schema) : Except EngineError Unit × Schema :=
  match s.history with
  | some h =>
    match h.get? 1 with
    | some _ => (.error (.failure EngineError.primaryKeyCode none), s)
    | none => (.ok (), { s with history := some (h.insert 1 "resource_records") })
  | none => (.error (Database.plainError "no such table: migrations"), s)

/-- Runs statements in order up to the first that fails. -/
def runAll (s : Schema) :
    List (Schema → Except EngineError Unit × Schema) → Except EngineError Unit × Schema
  | [] => (.ok (), s)
  | f :: rest =>
    match f s with
    | (.ok (), s) => s.runAll rest
    | (.error e, s) => (.error e, s)

/-- The statements of the first migration. -/
def firstMigration : List (Schema → Except EngineError Unit × Schema) := [
  begin_, (create · .records), (create · .identityIndex), (create · .sentAtIndex),
  (create · .updatedIndex), commit, record]

/-- Brings a database to the current version. -/
def migrate (s : Schema) : Except StoreError Unit × Schema :=
  let s := { s with history := some (s.history.getD ∅) }
  let version := s.version
  if version < -2147483648 ∨ 2147483647 < version then
    (.error (.ofEngine (.outOfRange 0 version)), s)
  else if version < currentVersion then
    let (result, s) := s.runAll firstMigration
    (result.mapError StoreError.ofEngine, s)
  else (.ok (), s)

end Schema

end ClusterOutbox
