import ClusterOutbox.Number.Decimal
import ClusterOutbox.Number.Double

namespace ClusterOutbox

/-- A whole text as an integer of 64 bits: digits, after a sign or none. -/
def readInt64? (s : String) : Option Int :=
  let (negative, ds) := Decimal.readSign s.toList
  if ds = [] ∨ !ds.all isDecimalDigit then none
  else
    let n : Int := if negative then -(digitsValue ds : Int) else digitsValue ds
    if -9223372036854775808 ≤ n ∧ n ≤ 9223372036854775807 then some n else none

/-- A whole text as a number of 64 bits without a sign: digits, after a plus sign or none. -/
def readUInt64? (s : String) : Option Nat :=
  let ds := match s.toList with
    | '+' :: ds => ds
    | ds => ds
  if ds = [] ∨ !ds.all isDecimalDigit ∨ 18446744073709551615 < digitsValue ds then none
  else some (digitsValue ds)

/-- A whole text as a double: a decimal number, or a word for an infinity or for no number. -/
def readDouble? (s : String) : Option UInt64 :=
  match Decimal.read? s.toList with
  | some d => some d.toBits
  | none =>
    let (negative, word) := Decimal.readSign s.toList
    let signed := fun (bits : UInt64) => if negative then bits ||| 0x8000000000000000 else bits
    let word := String.ofList (word.map Char.toLower)
    if word = "inf" ∨ word = "infinity" then some (signed 0x7ff0000000000000)
    else if word = "nan" then some (signed 0x7ff8000000000000)
    else none

/-- The whole number nearest to a double, halves away from zero, within 64 bits without a sign;
zero where there is none. -/
def Double.toUInt64 (bits : UInt64) : Nat :=
  if Double.isNaN bits || Double.isNegative bits then 0
  else min ((2 * Double.magnitude bits + unit) / (2 * unit)) 18446744073709551615

end ClusterOutbox
