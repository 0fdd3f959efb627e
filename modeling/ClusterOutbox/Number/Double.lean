import ClusterOutbox.Text.Digits

namespace ClusterOutbox.Double

/-- The biased exponent in the bits of a double. -/
def exponentField (bits : UInt64) : Nat := (bits >>> 52).toNat % 2048

/-- The fraction in the bits of a double. -/
def fractionField (bits : UInt64) : Nat := bits.toNat % 4503599627370496

def isNegative (bits : UInt64) : Bool := 0x8000000000000000 ≤ bits

def isNaN (bits : UInt64) : Bool := exponentField bits == 2047 && fractionField bits != 0

def isInfinite (bits : UInt64) : Bool := exponentField bits == 2047 && fractionField bits == 0

/-- The magnitude of a double as a multiple of a power of two; the exponent counts from the least
one, 2^-1074. -/
def significand (bits : UInt64) : Nat :=
  if exponentField bits = 0 then fractionField bits else fractionField bits + 4503599627370496

def steps (bits : UInt64) : Nat := exponentField bits - 1

/-- The magnitude of a double as a multiple of 2^-1074; an infinity lies above all finite ones. -/
def magnitude (bits : UInt64) : Nat := significand bits <<< steps bits

/-- One as a multiple of 2^-1074. -/
def unit : Nat := 1 <<< 1074

/-- A double as a multiple of 2^-1074. -/
def scaled (bits : UInt64) : Int :=
  if isNegative bits then -(magnitude bits : Int) else magnitude bits

/-- The whole number that a double equals, where there is one. -/
def toInt? (bits : UInt64) : Option Int :=
  if scaled bits % unit = 0 then some (scaled bits / unit) else none

/-- Digits with a place: `digits * 10 ^ place`. -/
structure Digits where
  digits : Nat
  place : Int

/-- The place of the first digit of `num / den`, which is positive. -/
def firstPlace (num den : Nat) : Int :=
  if den ≤ num then ((decimalDigits (num / den)).length : Int) - 1
  else -((decimalDigits ((den + num - 1) / num - 1)).length : Int)

/-- The interval of reals that round to a double: four times its value, and the distances to its
ends, all over one denominator. The ends belong to it iff the significand is even. -/
structure Interval where
  value : Nat
  below : Nat
  above : Nat
  den : Nat
  closed : Bool

def interval (bits : UInt64) : Interval :=
  let m := significand bits
  let q := steps bits
  let narrow := fractionField bits = 0 ∧ 1 < exponentField bits
  let scale := 1 <<< (q - 1076)
  { value := 4 * m * scale
    below := (if narrow then 1 else 2) * scale
    above := 2 * scale
    den := 1 <<< (1076 - q)
    closed := m % 2 = 0 }

/-- Whether `num / den` lies in an interval. -/
def Interval.contains (i : Interval) (num den : Nat) : Bool :=
  let x := num * i.den
  let low := (i.value - i.below) * den
  let high := (i.value + i.above) * den
  if i.closed then low ≤ x && x ≤ high else low < x && x < high

/-- The point of a decimal grid that lies in an interval, the nearer to its value of two. -/
def Interval.gridPoint? (i : Interval) (place : Int) : Option Nat :=
  let up := Nat.pow 10 place.toNat
  let down := Nat.pow 10 (-place).toNat
  let floor := i.value * down / (i.den * up)
  let inside := fun d => i.contains (d * up) down
  let left := i.value * down - floor * i.den * up
  let right := (floor + 1) * i.den * up - i.value * down
  match inside floor, inside (floor + 1) with
  | true, true => some (if left < right || (left == right && floor % 2 == 0) then floor else floor + 1)
  | true, false => some floor
  | false, true => some (floor + 1)
  | false, false => none

/-- Tries grids from coarse to fine. -/
def Interval.firstGrid (i : Interval) : Nat → Int → Digits
  | 0, place => ⟨i.value * Nat.pow 10 (-place).toNat / (i.den * Nat.pow 10 place.toNat), place⟩
  | left + 1, place =>
    match i.gridPoint? place with
    | some d => ⟨d, place⟩
    | none => i.firstGrid left (place - 1)

/-- The fewest digits that read back as a positive finite double, the nearest of those. -/
def shortest (bits : UInt64) : Digits :=
  let i := interval bits
  i.firstGrid 17 (firstPlace i.value i.den)

/-- Drops zeros at the end of a number. -/
def stripZeros : Nat → Digits → Digits
  | 0, d => d
  | fuel + 1, d =>
    if d.digits % 10 = 0 ∧ d.digits ≠ 0 then stripZeros fuel ⟨d.digits / 10, d.place + 1⟩ else d

/-- Digits written out without an exponent. -/
def Digits.positional (d : Digits) : List Char :=
  let ds := decimalDigits d.digits
  if 0 ≤ d.place then ds ++ List.replicate d.place.toNat '0'
  else
    let places := (-d.place).toNat
    let ds := List.replicate (places + 1 - ds.length) '0' ++ ds
    ds.take (ds.length - places) ++ '.' :: ds.drop (ds.length - places)

/-- A double in the fewest digits that read back, all places written out. -/
def text (bits : UInt64) : String :=
  if isNaN bits then "NaN"
  else
    let sign := if isNegative bits then "-" else ""
    let body :=
      if isInfinite bits then "inf"
      else if magnitude bits = 0 then "0"
      else String.ofList (stripZeros 20 (shortest bits)).positional
    sign ++ body

end ClusterOutbox.Double
