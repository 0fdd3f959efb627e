import ClusterOutbox.Wire.Bytes
import ClusterOutbox.Wire.Varint

namespace ClusterOutbox.Snappy

/-- Bytes that stand for themselves: one less than their number in the tag where it is below 60,
else in the bytes after the tag. -/
def writeLiteral (bs : List UInt8) : List UInt8 :=
  let n := bs.length - 1
  if n < 60 then (n * 4).toUInt8 :: bs
  else
    let width := if n < 256 then 1 else if n < 65536 then 2 else if n < 16777216 then 3 else 4
    ((59 + width) * 4).toUInt8 :: (lowBytes width n ++ bs)

/-- The room that an encoder keeps for the block of some number of bytes. -/
def maxLength (n : Nat) : Nat := 32 + n + n / 6

/-- A block of bytes: their number, then one literal with all of them. Other encoders write copies
for what repeats; any of them would do that `decompress?` inverts, since nothing else is asked of a
block. Bytes are refused where the room for their block is no 32-bit number. -/
def compress? (bs : List UInt8) : Option (List UInt8) :=
  if 4294967295 < maxLength bs.length then none
  else some (Varint.write bs.length ++ if bs = [] then [] else writeLiteral bs)

/-- Appends bytes that repeat the output from a distance before its end; `out` is in reverse. -/
def copyBack (distance : Nat) : Nat → List UInt8 → Option (List UInt8)
  | 0, out => some out
  | n + 1, out =>
    match out[distance - 1]? with
    | some b => if distance = 0 then none else copyBack distance n (b :: out)
    | none => none

/-- An element of a block: literal bytes, or a copy of earlier ones. -/
inductive Element
  | literal (bs : List UInt8)
  | copy (distance length : Nat)

def readElement : List UInt8 → Option (Element × List UInt8)
  | [] => none
  | tag :: rest =>
    let high := tag.toNat / 4
    match tag.toNat % 4 with
    | 0 =>
      if high < 60 then (splitBytes? (high + 1) rest).map fun (bs, rest) => (.literal bs, rest)
      else do
        let (width, rest) ← splitBytes? (high - 59) rest
        (splitBytes? (ofLowBytes width + 1) rest).map fun (bs, rest) => (.literal bs, rest)
    | 1 =>
      (splitBytes? 1 rest).map fun (low, rest) =>
        (.copy (ofLowBytes low + 256 * (high / 8)) (high % 8 + 4), rest)
    | 2 => (splitBytes? 2 rest).map fun (d, rest) => (.copy (ofLowBytes d) (high + 1), rest)
    | _ => (splitBytes? 4 rest).map fun (d, rest) => (.copy (ofLowBytes d) (high + 1), rest)

/-- Follows elements from an output in reverse; each element takes at least one byte. -/
def readElements : Nat → List UInt8 → List UInt8 → Option (List UInt8)
  | _, [], out => some out
  | 0, _ :: _, _ => none
  | fuel + 1, bs, out =>
    match readElement bs with
    | some (.literal lit, rest) => readElements fuel rest (lit.reverse ++ out)
    | some (.copy distance length, rest) =>
      match copyBack distance length out with
      | some out => readElements fuel rest out
      | none => none
    | none => none

/-- The bytes of a block, which are as many as it says. -/
def decompress? (block : List UInt8) : Option (List UInt8) := do
  let (size, rest) ← Varint.read block
  let out ← readElements rest.length rest []
  if out.length = size then some out.reverse else none

end ClusterOutbox.Snappy
