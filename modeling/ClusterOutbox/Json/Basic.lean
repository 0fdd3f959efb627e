namespace ClusterOutbox

/-- A JSON number as written. -/
structure Numeral where
  negative : Bool
  /-- The digits before the point, at least one. -/
  whole : List Char
  /-- The digits after the point, where there is one. -/
  fraction : Option (List Char)
  /-- The digits of the exponent and whether it is negative, where there is one. -/
  exponent : Option (Bool × List Char)
deriving DecidableEq

/-- A JSON text as read. A string is `none` where it escapes half of a surrogate pair, and an
object lists its members as they stand, repeated ones included. -/
inductive Json
  | null
  | bool (b : Bool)
  | number (n : Numeral)
  | string (s : Option String)
  | array (items : List Json)
  | object (members : List (Option String × Json))

namespace Numeral

/-- Whether the number is written without a point and an exponent. -/
def isInteger (n : Numeral) : Bool := n.fraction.isNone && n.exponent.isNone

end Numeral

namespace Json

mutual

/-- The number of containers open at the deepest place of a text. -/
def depth : Json → Nat
  | array items => depthItems items + 1
  | object members => depthMembers members + 1
  | _ => 0

def depthItems : List Json → Nat
  | [] => 0
  | j :: rest => max j.depth (depthItems rest)

def depthMembers : List (Option String × Json) → Nat
  | [] => 0
  | (_, j) :: rest => max j.depth (depthMembers rest)

end

/-- The text of a string that is one. -/
def text? : Json → Option String
  | string s => s
  | _ => none

/-- The members of an object all of whose keys are strings. -/
def members? : Json → Option (List (String × Json))
  | object members => members.mapM fun (k, v) => k.map fun k => (k, v)
  | _ => none

end Json

end ClusterOutbox
