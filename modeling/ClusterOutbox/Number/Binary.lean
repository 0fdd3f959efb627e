namespace ClusterOutbox

/-- A quotient rounded to the nearest whole number, a half to the even one. -/
def roundDiv (num den : Nat) : Nat :=
  let q := num / den
  let twice := 2 * (num % den)
  if den < twice ∨ (den = twice ∧ q % 2 = 1) then q + 1 else q

/-- A number `significand * 2 ^ exponent`. -/
structure Binary where
  significand : Nat
  exponent : Int

namespace Binary

/-- The bits of a significand in wide arithmetic. -/
def width : Nat := 64

/-- The nearest number whose significand is not too wide. -/
def narrow (b : Binary) : Binary :=
  let extra := b.significand.log2 + 1 - width
  ⟨roundDiv b.significand (1 <<< extra), b.exponent + extra⟩

def mul (a b : Binary) : Binary :=
  narrow ⟨a.significand * b.significand, a.exponent + b.exponent⟩

/-- A power of ten. -/
def power (n : Nat) : Binary := narrow ⟨Nat.pow 10 n, 0⟩

/-- The inverse of a power of ten. -/
def inversePower (n : Nat) : Binary :=
  let den := Nat.pow 10 n
  let shift := width + den.log2
  ⟨roundDiv (1 <<< shift) den, -shift⟩

/-- The factors into which a power of ten is taken apart: hundreds of zeros, then tens, then ones. -/
def factors (n : Nat) : List Nat :=
  List.replicate (n / 100) 100 ++ List.replicate (n % 100 / 10) 10 ++ List.replicate (n % 10) 1

/-- A number times a power of ten, one factor after another. -/
def scale (b : Binary) (exponent : Int) : Binary :=
  (factors exponent.natAbs).foldl
    (fun b n => b.mul (if exponent < 0 then inversePower n else power n)) b

/-- Whether a number lies above all doubles. -/
def isAboveDoubles (b : Binary) : Bool :=
  (1 <<< 53 - 1) <<< (971 - b.exponent).toNat < b.significand <<< (b.exponent - 971).toNat

/-- The bits of the double nearest to a number, infinity above all doubles. -/
def toBits (b : Binary) : UInt64 :=
  if b.significand = 0 then 0
  else if b.isAboveDoubles then 0x7ff0000000000000
  else
    let size : Int := b.significand.log2 + 1 + b.exponent
    let unit := max (size - 53) (-1074)
    let count :=
      if b.exponent ≤ unit then roundDiv b.significand (1 <<< (unit - b.exponent).toNat)
      else b.significand <<< (b.exponent - unit).toNat
    ((unit + 1074).toNat <<< 52 + count).toUInt64

end Binary

end ClusterOutbox
