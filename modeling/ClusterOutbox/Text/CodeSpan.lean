import ClusterOutbox.Text.Hex
import ClusterOutbox.Text.Split

namespace ClusterOutbox

/-- Code points from the first to the last by steps, and what is said of the first of them. -/
structure CodeSpan where
  first : Nat
  last : Nat
  step : Nat
  values : List Nat

namespace CodeSpan

/-- Reads a span: first and last with a hyphen between them, the step after a slash unless it is one,
and what is said after an angle, its numbers separated by full stops. -/
def ofText (cs : List Char) : CodeSpan :=
  let halves := splitWhere (· == '>') cs
  let points := splitWhere (· == '/') (halves.headD [])
  let bounds := (splitWhere (· == '-') (points.headD [])).map hexNumber
  { first := bounds.headD 0
    last := bounds.getLastD 0
    step := ((points.drop 1).map hexNumber).headD 1
    values := (halves.drop 1).flatMap fun half => (splitWhere (· == '.') half).map hexNumber }

/-- Reads lines of spans, with spaces between them. -/
def ofLines (lines : List String) : List CodeSpan :=
  lines.flatMap fun line => (splitWhere (· == ' ') line.toList).map ofText

def holds (s : CodeSpan) (n : Nat) : Bool := n ≤ s.last && (n - s.first) % s.step == 0

/-- The span that holds a code point, among spans in the order of their first ones. -/
def find? : List CodeSpan → Nat → Option CodeSpan
  | [], _ => none
  | s :: rest, n => if n < s.first then none else if s.holds n then some s else find? rest n

/-- Whether a character is in one of the spans. -/
def covers (spans : List CodeSpan) (c : Char) : Bool := (find? spans c.toNat).isSome

/-- What is said of a character; along a span it grows with the code point. -/
def chars (s : CodeSpan) (c : Char) : List Char :=
  s.values.map fun v => Char.ofNat (v + (c.toNat - s.first))

end CodeSpan

end ClusterOutbox
