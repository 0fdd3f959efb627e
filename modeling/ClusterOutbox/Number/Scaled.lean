import ClusterOutbox.Number.Binary
import ClusterOutbox.Number.Decimal

namespace ClusterOutbox.Decimal

/-- The greatest number in a word. -/
def wordMax : Nat := 18446744073709551615

/-- From here on, no digit is added to a significand. -/
def digitRoom : Nat := (wordMax - 9) / 10

/-- Drops digits for which a word has no room; the result counts them. -/
def dropDigits (mantissa dropped : Nat) : Nat × Nat :=
  if digitRoom ≤ mantissa / 10 then dropDigits (mantissa / 10) (dropped + 1) else (mantissa, dropped)
termination_by mantissa
decreasing_by simp_all [digitRoom, wordMax]; omega

/-- Takes zeros into a significand while a word has room for them, and gives up those at its end, as
far as that brings the exponent to zero. -/
def balance : Nat → Nat → Int → Nat × Int
  | 0, mantissa, exponent => (mantissa, exponent)
  | fuel + 1, mantissa, exponent =>
    if 0 < exponent ∧ mantissa < wordMax / 10 then balance fuel (mantissa * 10) (exponent - 1)
    else if exponent < 0 ∧ mantissa % 10 = 0 then balance fuel (mantissa / 10) (exponent + 1)
    else (mantissa, exponent)

/-- The bits of the double that a number is read as: of its digits, those for which a word has room,
scaled in wide arithmetic. Beyond all doubles it is an infinity. -/
def scaledBits (d : Decimal) : UInt64 :=
  let magnitude : UInt64 :=
    if d.mantissa = 0 then 0
    else
      let top := d.exponent + (decimalDigits d.mantissa).length
      if 400 < top then 0x7ff0000000000000
      else if top < -400 then 0
      else
        let (mantissa, dropped) := dropDigits d.mantissa 0
        let (mantissa, exponent) := balance 20 mantissa (d.exponent + dropped)
        (Binary.scale ⟨mantissa, 0⟩ exponent).toBits
  if d.negative then magnitude ||| 0x8000000000000000 else magnitude

end ClusterOutbox.Decimal
