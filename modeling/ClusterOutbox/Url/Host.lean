import ClusterOutbox.Text.Digits
import ClusterOutbox.Url.Domain

namespace ClusterOutbox.Host

def radixValue (radix : Nat) (cs : List Char) : Nat :=
  cs.foldl (fun n c => n * radix + (hexValue? c).getD 0) 0

/-- A part of an address of four bytes: a decimal number, an octal one after a zero, a hexadecimal
one after 0x. -/
def addressPart? (cs : List Char) : Option Nat :=
  let (radix, ds) := match cs with
    | '0' :: 'x' :: ds => (16, ds)
    | '0' :: 'X' :: ds => (16, ds)
    | '0' :: d :: ds => (8, d :: ds)
    | ds => (10, ds)
  if cs = [] then none
  else if ds.all fun c => (hexValue? c).any (· < radix) then some (radixValue radix ds)
  else none

/-- The parts of a domain without an empty last one. -/
def parts (cs : List Char) : List (List Char) :=
  let ps := splitWhere (· == '.') cs
  if 1 < ps.length ∧ ps.getLast? = some [] then ps.dropLast else ps

/-- Whether the last part of a domain is a number, so that the whole must be an address. -/
def endsInNumber (cs : List Char) : Bool :=
  match (parts cs).getLast? with
  | some last => last != [] && (last.all isDecimalDigit || (addressPart? last).isSome)
  | none => false

/-- An address of four bytes from one to four numbers; the last one fills the bytes left. -/
def address? (cs : List Char) : Option Nat := do
  let ps := parts cs
  if 4 < ps.length then none
  else
    let numbers ← ps.mapM addressPart?
    let last ← numbers.getLast?
    let heads := numbers.dropLast
    let left := Nat.pow 256 (4 - heads.length)
    if left ≤ last ∨ heads.any (255 < ·) then none
    else some (heads.foldl (fun n byte => n * 256 + byte) 0 * left + last)

def addressText (n : Nat) : List Char :=
  ['.'].intercalate ([24, 16, 8, 0].map fun shift => decimalDigits (n >>> shift % 256))

/-- One to four hexadecimal digits. -/
def piece? (cs : List Char) : Option Nat :=
  if cs ≠ [] ∧ cs.length ≤ 4 ∧ cs.all fun c => (hexValue? c).isSome then
    some (radixValue 16 cs)
  else none

/-- Four decimal bytes without leading zeros, as two pieces. -/
def dottedPieces? (cs : List Char) : Option (List Nat) := do
  let bytes ← (splitWhere (· == '.') cs).mapM fun p =>
    if p ≠ [] ∧ p.length ≤ 3 ∧ p.all isDecimalDigit ∧ (p.length = 1 ∨ p.head? ≠ some '0') ∧
        digitsValue p ≤ 255 then some (digitsValue p)
    else none
  match bytes with
  | [a, b, c, d] => some [a * 256 + b, c * 256 + d]
  | _ => none

/-- The pieces between colons; the last of a whole address may be written as four bytes. -/
def pieces? (last : Bool) (ps : List (List Char)) : Option (List Nat) :=
  match ps with
  | [] => some []
  | [p] => if last && p.contains '.' then dottedPieces? p else (piece? p).map ([·])
  | p :: rest => do some ((← piece? p) :: (← pieces? last rest))

/-- Splits at the first pair of colons. -/
def splitGap : List Char → Option (List Char × List Char)
  | ':' :: ':' :: rest => some ([], rest)
  | c :: rest => (splitGap rest).map fun (before, after) => (c :: before, after)
  | [] => none

/-- The eight pieces of an address of sixteen bytes; a pair of colons stands for one or more zeros. -/
def longAddress? (cs : List Char) : Option (List Nat) := do
  match splitGap cs with
  | none =>
    let ps ← pieces? true (splitWhere (· == ':') cs)
    if ps.length = 8 then some ps else none
  | some (before, after) =>
    let front ← if before = [] then some [] else pieces? false (splitWhere (· == ':') before)
    let back ← if after = [] then some [] else pieces? true (splitWhere (· == ':') after)
    if front.length + back.length ≤ 7 then
      some (front ++ List.replicate (8 - front.length - back.length) 0 ++ back)
    else none

/-- The length of the run of zeros at the start of a list. -/
def zeroRun (ps : List Nat) : Nat := (ps.takeWhile (· = 0)).length

/-- The place and length of the first longest run of zeros, where one has two or more. -/
def longestRun (ps : List Nat) : Option (Nat × Nat) :=
  let runs := (List.range ps.length).map fun i => (i, zeroRun (ps.drop i))
  let best := (runs.map (·.2)).foldl max 0
  if best < 2 then none else runs.find? fun r => r.2 == best

/-- An address of sixteen bytes in brackets, its first longest run of zeros left out. -/
def longAddressText (ps : List Nat) : List Char :=
  let join := fun (ps : List Nat) => [':'].intercalate (ps.map hexDigits)
  let body := match longestRun ps with
    | none => join ps
    | some (start, length) => join (ps.take start) ++ [':', ':'] ++ join (ps.drop (start + length))
  '[' :: (body ++ [']'])

/-- The text of a bracketed host, unless it is no address. -/
def bracketed? (cs : List Char) : Option (List Char) :=
  if cs.getLast? = some ']' then (longAddress? (cs.drop 1).dropLast).map longAddressText else none

/-- The host of an address whose scheme is known to have domains: a domain in ASCII or an address. -/
def ofDomain? (cs : List Char) : Option (List Char) :=
  if cs.head? = some '[' then bracketed? cs
  else do
    let text ← ofUtf8? (Percent.decode cs)
    let domain ← Domain.toAscii? text.toList
    if domain = [] then none
    else if endsInNumber domain then (address? domain).map addressText
    else some domain

/-- Characters that no host holds. -/
def isForbidden (c : Char) : Bool :=
  ['\x00', '\t', '\n', '\r', ' ', '#', '/', ':', '<', '>', '?', '@', '[', '\\', ']', '^', '|'].contains c

/-- The host of an address of any other scheme: text with controls coded, or an address. -/
def ofOpaque? (cs : List Char) : Option (List Char) :=
  if cs.head? = some '[' then bracketed? cs
  else if cs.any isForbidden then none
  else some (Percent.encode Percent.isControl cs)

end ClusterOutbox.Host
