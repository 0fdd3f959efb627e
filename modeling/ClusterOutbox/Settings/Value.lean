import ClusterOutbox.Number.Word
import ClusterOutbox.Store.Error

namespace ClusterOutbox

/-- A setting as its source gives it. -/
inductive Setting
  | null
  | bool (b : Bool)
  | integer (n : Int)
  /-- A double, by its bits. -/
  | float (bits : UInt64)
  | text (s : String)
  | list (items : List Setting)
  | table (entries : List (String × Setting))

namespace Setting

instance : Inhabited Setting := ⟨null⟩

/-- The entries of a table; anything else has none. -/
def entries : Setting → List (String × Setting)
  | table es => es
  | _ => []

def entry? (s : Setting) (key : String) : Option Setting := s.entries.lookup key

/-- Puts an entry over that of the same key. -/
def putEntry (key : String) (v : Setting) : List (String × Setting) → List (String × Setting)
  | [] => [(key, v)]
  | e :: rest => if e.1 = key then (key, v) :: rest else e :: putEntry key v rest

/-- A table with one entry more; what is no table becomes one. -/
def withEntry (s : Setting) (key : String) (v : Setting) : Setting :=
  table (putEntry key v s.entries)

mutual

/-- Lays a setting over the one of a key. The entries of a table are laid over those that are
there. -/
def lay (key : String) : Setting → Setting → Setting
  | table es, base => base.withEntry key (layAll es ((base.entry? key).getD (table [])))
  | v, base => base.withEntry key v

def layAll : List (String × Setting) → Setting → Setting
  | [], base => base
  | (key, v) :: rest, base => layAll rest (lay key v base)

end

/-- Reads a text; numbers and truth values count as the text they are shown by. -/
def text? : Setting → Option String
  | text s => some s
  | bool b => some (if b then "true" else "false")
  | integer n => some (intText n)
  | float bits => some (Double.text bits)
  | _ => none

/-- Words for one and zero. -/
def wordNumber? (s : String) : Option Nat :=
  let word := String.ofList (s.toList.map Char.toLower)
  if word = "true" ∨ word = "on" ∨ word = "yes" then some 1
  else if word = "false" ∨ word = "off" ∨ word = "no" then some 0
  else none

/-- Reads a number below a bound: a number itself, a truth value, or the text of either. -/
def number? (bound : Nat) (s : Setting) : Option Nat :=
  let value := match s with
    | integer n => if 0 ≤ n then some n.toNat else none
    | bool b => some (if b then 1 else 0)
    | text s => (wordNumber? s).orElse fun _ => readUInt64? s
    | float bits => some (Double.toUInt64 bits)
    | _ => none
  value.filter (· < bound)

/-- Looks up the members of a section: by name in a table, by place in a list. -/
def members? (names : List String) : Setting → Option (String → Option Setting)
  | table es => some fun name => es.lookup name
  | list items => some fun name => (names.zip items).lookup name
  | _ => none

end Setting

end ClusterOutbox
