import ClusterOutbox.Json.Reader
import ClusterOutbox.Settings.Environment
import ClusterOutbox.SortedMap

namespace ClusterOutbox.Setting

/-- The greatest number whose digits are kept one by one. -/
def wordLimit : Nat := 18446744073709551615

/-- Keeps digits up to the first that does not fit a word; the result is their number, how many are
kept, and those left. -/
def keepDigits (sofar kept : Nat) : List Char → Nat × Nat × List Char
  | [] => (sofar, kept, [])
  | d :: rest =>
    let next := sofar * 10 + (digitValue? d).getD 0
    if wordLimit < next then (sofar, kept, d :: rest) else keepDigits next (kept + 1) rest

/-- Divides a double by powers of ten until the exponent is within the doubles, then scales it once.
A number too great for a double is refused. -/
def scale : Nat → Float → Int → Option Float
  | 0, _, _ => none
  | fuel + 1, f, e =>
    if e.natAbs ≤ 308 then
      if 0 ≤ e then
        let g := f * Float.ofScientific 1 false e.natAbs
        if g.isInf then none else some g
      else some (f / Float.ofScientific 1 false e.natAbs)
    else if f == 0 then some f
    else if 0 ≤ e then none
    else scale fuel (f / Float.ofScientific 1 false 308) (e + 308)

def signed (negative : Bool) (f : Float) : Setting := float (if negative then -f else f).toBits

/-- The setting of a number: an integer of 64 bits where it is one without a point and an exponent,
else a double, which keeps the digits that fit a word. -/
def ofNumeral? (n : Numeral) : Option Setting :=
  let (significand, _, cut) := keepDigits 0 0 n.whole
  if n.isInteger ∧ cut = [] then
    if n.negative then
      if significand = 0 ∨ 9223372036854775808 < significand then
        some (signed true significand.toUInt64.toFloat)
      else some (integer (-(significand : Int)))
    else if significand ≤ 9223372036854775807 then some (integer significand)
    else some (float significand.toUInt64.toFloat.toBits)
  else
    let (significand, places, _) := keepDigits significand 0 (n.fraction.getD [])
    let start : Int := cut.length - places
    match n.exponent with
    | none => (scale 4 significand.toUInt64.toFloat start).map (signed n.negative)
    | some (down, ds) =>
      let e := digitsValue ds
      if 2147483647 < e then
        if significand ≠ 0 ∧ !down then none else some (signed n.negative 0)
      else
        let e : Int := if down then start - e else start + e
        (scale 4 significand.toUInt64.toFloat e).map (signed n.negative)

/-- How deep the containers of a file may nest. -/
def nestingLimit : Nat := 127

mutual

/-- The setting of a value in a file; keys are in lower case. -/
def ofJson? : Json → Option Setting
  | .null => some null
  | .bool b => some (bool b)
  | .number n => ofNumeral? n
  | .string s => s.map text
  | .array xs => (ofItems? xs).map list
  | .object ms =>
    (ofMembers? ms).map fun es =>
      table ((SortedMap.ofList es).entries.foldl (fun acc e => putEntry (lowerKey e.1) e.2 acc) [])

def ofItems? : List Json → Option (List Setting)
  | [] => some []
  | j :: rest => do some ((← ofJson? j) :: (← ofItems? rest))

def ofMembers? : List (Option String × Json) → Option (List (String × Setting))
  | [] => some []
  | (key, j) :: rest => do some ((← key, ← ofJson? j) :: (← ofMembers? rest))

end

/-- The table of a file, which is one JSON object. -/
def ofFile? (s : String) : Option (List (String × Setting)) := do
  let j ← Json.read? s
  if nestingLimit < j.depth then none
  else match ← ofJson? j with
    | table es => some es
    | _ => none

/-- Lays the entries of a file over a table; their keys are paths. -/
def layEntries : List (String × Setting) → Setting → Option Setting
  | [], base => some base
  | (key, v) :: rest, base => (layAt v (path key) base).bind (layEntries rest)

end ClusterOutbox.Setting
