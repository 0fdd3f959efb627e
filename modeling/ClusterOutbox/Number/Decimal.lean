import ClusterOutbox.Text.Digits

namespace ClusterOutbox

/-- A number written with a point and an exponent: `mantissa * 10 ^ exponent` with a sign. -/
structure Decimal where
  negative : Bool
  mantissa : Nat
  exponent : Int
  /-- Whether it was written by digits alone. -/
  isPlain : Bool
deriving DecidableEq

namespace Decimal

/-- Splits off a sign; without one the number is positive. -/
def readSign : List Char → Bool × List Char
  | '-' :: rest => (true, rest)
  | '+' :: rest => (false, rest)
  | cs => (false, cs)

/-- Reads the end of a number: nothing, or an exponent with at least one digit. -/
def readExponent? : List Char → Option Int
  | [] => some 0
  | e :: rest =>
    let (negative, ds) := readSign rest
    if (e = 'e' ∨ e = 'E') ∧ ds ≠ [] ∧ ds.all isDecimalDigit then
      some (if negative then -(digitsValue ds : Int) else digitsValue ds)
    else none

/-- Reads a whole text: a sign or none, digits with a point among them or none, at least one digit
in all, and an exponent or none. -/
def read? (cs : List Char) : Option Decimal :=
  let (negative, cs) := readSign cs
  let whole := cs.takeWhile isDecimalDigit
  let rest := cs.drop whole.length
  let (fraction, tail) := match rest with
    | '.' :: rest => (rest.takeWhile isDecimalDigit, rest.dropWhile isDecimalDigit)
    | rest => ([], rest)
  if whole = [] ∧ fraction = [] then none
  else (readExponent? tail).map fun e =>
    { negative
      mantissa := digitsValue (whole ++ fraction)
      exponent := e - fraction.length
      isPlain := rest = [] }

/-- The bits of the double nearest to a number; beyond all doubles it is an infinity. -/
def toBits (d : Decimal) : UInt64 :=
  let magnitude : UInt64 :=
    if d.mantissa = 0 then 0
    else
      let top := d.exponent + (decimalDigits d.mantissa).length
      if 400 < top then 0x7ff0000000000000
      else if top < -400 then 0
      else (Float.ofScientific d.mantissa (d.exponent < 0) d.exponent.natAbs).toBits
  if d.negative then magnitude ||| 0x8000000000000000 else magnitude

end Decimal

end ClusterOutbox
