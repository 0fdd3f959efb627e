import ClusterOutbox.Settings.Value

namespace ClusterOutbox.Setting

/-- A step from a setting to one inside it. -/
inductive Step
  | member (key : String)
  /-- A place in a list; a negative one counts from the end. -/
  | place (n : Int)

/-- Characters of a key within a path. -/
def isKeyChar (c : Char) : Bool := c.isAlphanum || c == '_' || c == '-' || c == ' '

/-- Reads a key of at least one character. -/
def readKey (cs : List Char) : Option (String × List Char) :=
  let key := cs.takeWhile isKeyChar
  if key = [] then none else some (String.ofList key, cs.drop key.length)

/-- Drops spaces and tabs. -/
def dropSpaces (cs : List Char) : List Char := cs.dropWhile fun c => c == ' ' || c == '\t'

/-- Reads a place in brackets, an integer of 64 bits with spaces around it. -/
def readPlace (cs : List Char) : Option (Int × List Char) :=
  let (negative, rest) := match dropSpaces cs with
    | '-' :: rest => (true, rest)
    | rest => (false, rest)
  let ds := rest.takeWhile isDecimalDigit
  let n := if negative then -(digitsValue ds : Int) else digitsValue ds
  match dropSpaces (rest.drop ds.length) with
  | ']' :: rest => if ds = [] ∨ n < -9223372036854775808 ∨ 9223372036854775807 < n then none else some (n, rest)
  | _ => none

/-- Reads steps to the end of a path; each takes at least one character. -/
def readSteps : Nat → List Char → Option (List Step)
  | _, [] => some []
  | fuel + 1, '.' :: cs =>
    (readKey cs).bind fun (key, rest) => (readSteps fuel rest).map (.member key :: ·)
  | fuel + 1, '[' :: cs =>
    (readPlace cs).bind fun (n, rest) => (readSteps fuel rest).map (.place n :: ·)
  | _, _ => none

/-- The steps of a path; a text that is no path is the key of one member. -/
def path (s : String) : List Step :=
  let steps := (readKey s.toList).bind fun (key, rest) =>
    (readSteps rest.length rest).map (.member key :: ·)
  steps.getD [.member s]

/-- The items of a list; anything else has none. -/
def items : Setting → List Setting
  | list xs => xs
  | _ => []

/-- Replaces an item, behind nulls where the list is too short. -/
def setItem (xs : List Setting) (i : Nat) (v : Setting) : List Setting :=
  (xs ++ List.replicate (i + 1 - xs.length) null).set i v

/-- The places that a list has room for. -/
def roomLimit : Nat := 67108864

/-- Where a place lies in a list; a negative one must lie in it. -/
def index? (n : Int) (length : Nat) : Option Nat :=
  if 0 ≤ n then if n.toNat < roomLimit then some n.toNat else none
  else if n.natAbs ≤ length then some (length - n.natAbs)
  else none

/-- Lays a setting at the end of a path; what is in the way gives way. There is no result where a
place lies before its list or where no list has room for it. -/
def layAt (v : Setting) : List Step → Setting → Option Setting
  | [], base => some base
  | [.member key], base => some (lay key v base)
  | .member key :: rest, base =>
    (layAt v rest ((base.entry? key).getD null)).map (base.withEntry key ·)
  | [.place n], base =>
    (index? n base.items.length).map fun i => list (setItem base.items i v)
  | .place n :: rest, base =>
    (index? n base.items.length).bind fun i =>
      (layAt v rest (base.items[i]?.getD null)).map fun inner => list (setItem base.items i inner)

end ClusterOutbox.Setting
