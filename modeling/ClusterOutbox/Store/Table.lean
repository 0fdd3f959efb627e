import ClusterOutbox.Store.Row

namespace ClusterOutbox

/-- The writes that a guard watches. -/
inductive Watch
  | insert
  | update
  /-- Updates that set the delivery of a row. -/
  | sentAt
  | delete
deriving DecidableEq

/-- What a guard does to a write that it refuses: `abort` undoes the statement, `fail` keeps the rows
it has changed, `rollback` ends the open transaction too, and `ignore` skips the row. -/
inductive Raise
  | abort
  | fail
  | rollback
  | ignore
deriving DecidableEq

/-- A rule of the table that refuses chosen writes. -/
structure Guard where
  title : String
  watch : Watch
  /-- The name of the rows refused, all rows where it is absent. -/
  only : Option String
  raise : Raise
  message : String
deriving DecidableEq

/-- The rows in the order of their insertion, and the guards, the newest first. -/
structure Table where
  rows : List Row
  guards : List Guard
deriving DecidableEq

/-- The outcome of a statement: a result, or an error that stopped it with the table it had reached
and what becomes of that. -/
inductive Effect (α : Type)
  | done (table : Table) (result : α)
  | stopped (table : Table) (how : Raise) (error : EngineError)

namespace Guard

/-- Whether a guard has a title; the case of its letters does not matter. -/
def isTitled (g : Guard) (title : String) : Bool := g.title.toLower == title.toLower

def refuses (g : Guard) (watched : List Watch) (r : Row) : Bool :=
  watched.contains g.watch && match g.only with
    | none => true
    | some name => r.name == .text name

end Guard

namespace Table

def empty : Table := ⟨[], []⟩

/-- The guard that decides on a write: the newest that refuses it. A row is judged as it was before
the write, a new one as it would be. -/
def guard? (t : Table) (watched : List Watch) (r : Row) : Option Guard :=
  t.guards.find? fun g => g.refuses watched r

def raised (g : Guard) : EngineError := .failure EngineError.guardCode (some g.message)

/-- The rule of the table that a new row or a changed one breaks, given the other rows. -/
def broken? (others : List Row) (r : Row) : Option EngineError :=
  match Column.all.find? fun c => !c.isNullable && r.get c == .null with
  | some c =>
    some (.failure EngineError.notNullCode
      (some ("NOT NULL constraint failed: resource_records." ++ c.title)))
  | none =>
    if r.updated.lt r.created then some (.failure EngineError.checkCode none)
    else if others.any fun o => o.id == r.id then
      some (.failure EngineError.primaryKeyCode none)
    else if others.any fun o => o.sameIdentity r then
      some (.failure EngineError.uniqueCode none)
    else none

/-- Changes the row of an id; the result is the row as changed, none where there is no such row or a
guard skips it. -/
def updateId (t : Table) (id : String) (watched : List Watch) (change : Row → Row) :
    Effect (Option Row) :=
  match t.rows.find? fun r => r.id == .text id with
  | none => .done t none
  | some old =>
    let new := change old
    match t.guard? watched old with
    | some g =>
      if g.raise = .ignore then .done t none else .stopped t g.raise (raised g)
    | none =>
      match broken? (t.rows.filter fun r => r.id != .text id) new with
      | some e => .stopped t .abort e
      | none =>
        .done { t with rows := t.rows.map fun r => if r.id == .text id then new else r } (some new)

/-- Adds a row at the end. Where its identity is taken, the row of that identity is changed by
`merge`, or left as it is where there is no `merge`. The result is the row written, if any. -/
def insert (t : Table) (new : Row) (merge : Option (Row → Row)) : Effect (Option Row) :=
  match t.guard? [.insert] new with
  | some g => if g.raise = .ignore then .done t none else .stopped t g.raise (raised g)
  | none =>
    match t.rows.find? fun r => r.sameIdentity new with
    | none =>
      match broken? t.rows new with
      | some e => .stopped t .abort e
      | none => .done { t with rows := t.rows ++ [new] } (some new)
    | some old =>
      match merge with
      | none => .done t none
      | some merge =>
        let merged := merge old
        match t.guard? [.update, .sentAt] old with
        | some g => if g.raise = .ignore then .done t none else .stopped t g.raise (raised g)
        | none =>
          match broken? (t.rows.filter fun r => !r.sameIdentity new) merged with
          | some e => .stopped t .abort e
          | none =>
            .done { t with rows := t.rows.map fun r => if r.sameIdentity new then merged else r }
              (some merged)

/-- Goes over rows in order and deletes those that are targets; `kept` are the rows left so far, in
reverse, and `count` those deleted. -/
def deleteFrom (t : Table) (target : Row → Bool) (kept : List Row) (count : Nat) :
    List Row → Effect Nat
  | [] => .done { t with rows := kept.reverse } count
  | r :: rest =>
    if target r then
      match t.guard? [.delete] r with
      | some g =>
        if g.raise = .ignore then t.deleteFrom target (r :: kept) count rest
        else .stopped { t with rows := kept.reverse ++ r :: rest } g.raise (raised g)
      | none => t.deleteFrom target kept (count + 1) rest
    else t.deleteFrom target (r :: kept) count rest

/-- Deletes the rows that are targets; the result is their number. -/
def delete (t : Table) (target : Row → Bool) : Effect Nat :=
  t.deleteFrom target [] 0 t.rows

end Table

end ClusterOutbox
