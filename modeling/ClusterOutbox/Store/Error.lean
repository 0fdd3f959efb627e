import ClusterOutbox.Text.Digits

namespace ClusterOutbox

/-- The forms in which a cell is stored. -/
inductive CellType
  | null
  | integer
  | real
  | text
  | blob
deriving DecidableEq, Repr

def CellType.name : CellType → String
  | null => "Null"
  | integer => "Integer"
  | real => "Real"
  | text => "Text"
  | blob => "Blob"

/-- Decimal digits with a sign where the number is negative. -/
def intText (n : Int) : String :=
  String.ofList (if n < 0 then '-' :: decimalDigits n.natAbs else decimalDigits n.natAbs)

/-- What the database engine reports. -/
inductive EngineError
  /-- A query for one row found none. -/
  | noRow
  /-- A failure with its extended result code, whose low eight bits are the class of failure. -/
  | failure (code : Int) (text : Option String)
  /-- A value that cannot be stored. -/
  | unwritable (reason : String)
  /-- A cell that does not read as the value expected; some readers give no reason. -/
  | unreadable (column : Nat) (reason : Option String)
  | wrongType (column : Nat) (name : String) (type : CellType)
  | outOfRange (column : Nat) (value : Int)
  /-- A statement used in a way that it does not allow. -/
  | misuse
deriving DecidableEq

/-- Why an operation of the store failed. -/
inductive StoreError
  | notFound
  | duplicateKey
  | foreignKeyViolation
  | checkViolated
  | invalidTransaction (reason : String)
  | missingKey
  | invalidValue (reason : String)
  | invalidData (reason : String)
  | busy
  | connectionClosed
  /-- A failure of the engine that has no closer meaning. -/
  | engine (code : Int) (text : Option String)
  | misuse
  | io (reason : String)
deriving DecidableEq

namespace EngineError

/-- Result codes of the engine. -/
def busyCode : Int := 5
def lockedCode : Int := 6
def readOnlyCode : Int := 8
def constraintCode : Int := 19
def checkCode : Int := 275
def foreignKeyCode : Int := 787
def notNullCode : Int := 1299
def primaryKeyCode : Int := 1555
def guardCode : Int := 1811
def uniqueCode : Int := 2067

/-- Whether a text contains another one. -/
def containsText (part text : List Char) : Bool :=
  part.isPrefixOf text || match text with
    | [] => false
    | _ :: rest => containsText part rest

/-- A failure in the terms of the store, by its code and, for a class without a meaning of its own,
by whether it speaks of a transaction. -/
def ofFailure (code : Int) (text : Option String) : StoreError :=
  let class_ := code % 256
  if class_ = constraintCode then
    if code = uniqueCode ∨ code = primaryKeyCode then .duplicateKey
    else if code = foreignKeyCode then .foreignKeyViolation
    else if code = checkCode then .checkViolated
    else if code = notNullCode then .invalidValue (text.getD "NOT NULL")
    else .engine code text
  else if class_ = busyCode ∨ class_ = lockedCode then .busy
  else match text with
    | some reason =>
      if containsText "transaction".toList reason.toList then .invalidTransaction reason
      else .engine code text
    | none => .engine code text

end EngineError

namespace StoreError

def columnText (column : Nat) : String := "column " ++ intText column

def ofEngine : EngineError → StoreError
  | .noRow => .notFound
  | .failure code text => EngineError.ofFailure code text
  | .unwritable reason => .invalidValue reason
  | .unreadable column none => .invalidData (columnText column)
  | .unreadable column (some reason) => .invalidData (columnText column ++ ": " ++ reason)
  | .wrongType column name type =>
    .invalidData (columnText column ++ " (" ++ name ++ ") has type " ++ type.name)
  | .outOfRange column value =>
    .invalidData (columnText column ++ ": " ++ intText value ++ " out of range")
  | .misuse => .misuse

/-- A failure of the connection that is not the engine's. -/
def ofConnection (reason : String) : StoreError := .invalidTransaction ("Other(\"" ++ reason ++ "\")")

/-- A short word for a log. -/
def kind : StoreError → String
  | notFound => "not_found"
  | duplicateKey => "duplicate_key"
  | foreignKeyViolation => "foreign_key_violation"
  | checkViolated => "check_constraint_violated"
  | invalidTransaction _ => "invalid_transaction"
  | missingKey => "missing_key"
  | invalidValue _ => "invalid_value"
  | invalidData _ => "invalid_data"
  | busy => "busy"
  | connectionClosed => "connection_closed"
  | engine _ _ => "sqlite"
  | misuse => "sqlite"
  | io _ => "io"

def message : StoreError → String
  | notFound => "record not found"
  | duplicateKey => "duplicate key"
  | foreignKeyViolation => "foreign key violation"
  | checkViolated => "check constraint violated"
  | invalidTransaction reason => "invalid transaction: " ++ reason
  | missingKey => "missing record key"
  | invalidValue reason => "invalid value: " ++ reason
  | invalidData reason => "invalid stored data: " ++ reason
  | busy => "database busy"
  | connectionClosed => "database connection closed"
  | engine _ (some text) => "SQLite error: " ++ text
  | engine code none => "SQLite error: Error code " ++ intText code
  | misuse => "SQLite error: Query is not read-only"
  | io reason => "IO error: " ++ reason

end StoreError

end ClusterOutbox
