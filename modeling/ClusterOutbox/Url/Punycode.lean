import ClusterOutbox.Text.Digits

namespace ClusterOutbox.Punycode

/-- The digit of a value below 36: letters before figures. -/
def digit (n : Nat) : Char := if n < 26 then Char.ofNat (97 + n) else Char.ofNat (22 + n)

def digitValue? (c : Char) : Option Nat :=
  if 'a' ≤ c ∧ c ≤ 'z' then some (c.toNat - 97)
  else if 'A' ≤ c ∧ c ≤ 'Z' then some (c.toNat - 65)
  else if '0' ≤ c ∧ c ≤ '9' then some (c.toNat - 22)
  else none

/-- Halves a delta until it is small, and counts the steps by 36. -/
def settle : Nat → Nat → Nat → Nat
  | 0, delta, k => k + 36 * delta / (delta + 38)
  | fuel + 1, delta, k =>
    if 455 < delta then settle fuel (delta / 35) (k + 36) else k + 36 * delta / (delta + 38)

/-- The bias after a delta, given how many characters there are then. -/
def adapt (delta count : Nat) (first : Bool) : Nat :=
  let delta := if first then delta / 700 else delta / 2
  settle 40 (delta + delta / count) 0

def threshold (k bias : Nat) : Nat := if k ≤ bias then 1 else if bias + 26 ≤ k then 26 else k - bias

/-- The digits of a delta, the least significant first. -/
def writeDelta : Nat → Nat → Nat → Nat → List Char
  | 0, _, _, _ => []
  | fuel + 1, bias, k, q =>
    let t := threshold k bias
    if q < t then [digit q]
    else digit (t + (q - t) % (36 - t)) :: writeDelta fuel bias (k + 36) ((q - t) / (36 - t))

/-- Where a label has been written up to. -/
structure State where
  delta : Nat
  bias : Nat
  count : Nat
  out : List Char

/-- Goes over the label for one code point: smaller ones move on, equal ones are written. -/
def writePass (basics n : Nat) (s : State) : List Char → State
  | [] => s
  | c :: rest =>
    let s :=
      if c.toNat < n then { s with delta := s.delta + 1 }
      else if c.toNat = n then
        { delta := 0
          bias := adapt s.delta (s.count + 1) (s.count == basics)
          count := s.count + 1
          out := s.out ++ writeDelta 40 s.bias 36 s.delta }
      else s
    writePass basics n s rest

/-- Writes the code points of a label from the smallest one not written. -/
def writeFrom (label : List Char) (basics : Nat) : Nat → Nat → State → List Char
  | 0, _, s => s.out
  | fuel + 1, n, s =>
    match ((label.map Char.toNat).filter (n ≤ ·)).min? with
    | none => s.out
    | some m =>
      let s := writePass basics m { s with delta := s.delta + (m - n) * (s.count + 1) } label
      writeFrom label basics fuel (m + 1) { s with delta := s.delta + 1 }

/-- A label in ASCII: its ASCII characters, a hyphen, and where the others stand. -/
def encode (label : List Char) : List Char :=
  let basic := label.filter fun c => c.toNat < 128
  let start := if basic = [] then [] else basic ++ ['-']
  writeFrom label basic.length label.length 128 ⟨0, 72, basic.length, start⟩

/-- The greatest number that a reader of insertions counts to. -/
def countLimit : Nat := 4294967296

/-- Adds the digits of a delta to a sum. -/
def readDelta : List Char → Nat → Nat → Nat → Nat → Option (Nat × List Char)
  | [], _, _, _, _ => none
  | c :: rest, bias, k, weight, sum =>
    match digitValue? c with
    | none => none
    | some d =>
      let t := threshold k bias
      let sum := sum + d * weight
      if countLimit ≤ sum then none
      else if d < t then some (sum, rest)
      else if countLimit ≤ weight * (36 - t) then none
      else readDelta rest bias (k + 36) (weight * (36 - t)) sum

/-- Reads insertions one after another. -/
def readFrom : Nat → List Char → Nat → Nat → Nat → List Char → Option (List Char)
  | 0, cs, _, _, _, out => if cs = [] then some out else none
  | fuel + 1, cs, n, bias, i, out =>
    if cs = [] then some out
    else
      match readDelta cs bias 36 1 i with
      | none => none
      | some (sum, rest) =>
        let size := out.length + 1
        let n' := n + sum / size
        let place := sum % size
        if 0x10FFFF < n' ∨ (0xD800 ≤ n' ∧ n' < 0xE000) then none
        else
          readFrom fuel rest n' (adapt (sum - i) size (i == 0)) (place + 1)
            (out.take place ++ Char.ofNat n' :: out.drop place)

/-- The label that an ASCII form stands for. A hyphen has something before it. -/
def decode? (cs : List Char) : Option (List Char) :=
  let reversed := cs.reverse
  let tail := (reversed.takeWhile (· != '-')).reverse
  let basic := ((reversed.dropWhile (· != '-')).drop 1).reverse
  if (basic = [] ∧ tail.length < cs.length) ∨ basic.any fun c => 128 ≤ c.toNat then none
  else readFrom tail.length tail 128 72 0 basic

end ClusterOutbox.Punycode
