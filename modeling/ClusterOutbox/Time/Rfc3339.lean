import ClusterOutbox.Text.Blank
import ClusterOutbox.Text.Digits
import ClusterOutbox.Time.Calendar
import ClusterOutbox.Time.Stamp

namespace ClusterOutbox.Rfc3339

/-- Four digits for a year of the common era, and a sign before at least four for any other. -/
def yearText (y : Int) : List Char :=
  if 0 ≤ y ∧ y ≤ 9999 then fixedDigits 4 y.toNat
  else (if y < 0 then '-' else '+') :: paddedDigits 4 y.natAbs

/-- The fraction of a second in as few groups of three digits as hold it. -/
def fractionText (nanos : Nat) : List Char :=
  if nanos = 0 then []
  else if nanos % 1000000 = 0 then '.' :: fixedDigits 3 (nanos / 1000000)
  else if nanos % 1000 = 0 then '.' :: fixedDigits 6 (nanos / 1000)
  else '.' :: fixedDigits 9 nanos

/-- A time in Coordinated Universal Time; a leap second has the number 60. -/
def write (t : Stamp) : List Char :=
  let date := Date.ofDays (t.seconds / 86400)
  let second := (t.seconds % 86400).toNat
  yearText date.year ++ '-' :: fixedDigits 2 date.month ++ '-' :: fixedDigits 2 date.day ++
    'T' :: fixedDigits 2 (second / 3600) ++ ':' :: fixedDigits 2 (second / 60 % 60) ++
    ':' :: fixedDigits 2 (second % 60 + t.nanos / 1000000000) ++
    fractionText (t.nanos % 1000000000) ++ ['Z']

/-- A part of a text read, and the rest of the text. -/
abbrev Reading (α : Type) := Option (α × List Char)

/-- Up to `width` digits, at least one. -/
def readDigits (width : Nat) (cs : List Char) : Reading Nat :=
  let ds := (cs.take width).takeWhile isDecimalDigit
  if ds = [] then none else some (digitsValue ds, cs.drop ds.length)

/-- A number of one or two digits, after any blanks, within bounds. -/
def readField (low high : Nat) (cs : List Char) : Reading Nat :=
  match readDigits 2 (cs.dropWhile isBlank) with
  | some (n, rest) => if low ≤ n ∧ n ≤ high then some (n, rest) else none
  | none => none

/-- A year: a sign before any number of digits, or up to four digits without one. -/
def readYear (cs : List Char) : Reading Int :=
  match cs.dropWhile isBlank with
  | '-' :: rest => (readDigits rest.length rest).map fun (n, rest) => (-(n : Int), rest)
  | '+' :: rest => (readDigits rest.length rest).map fun (n, rest) => ((n : Int), rest)
  | rest => (readDigits 4 rest).map fun (n, rest) => ((n : Int), rest)

/-- A separator, after any blanks. -/
def readMark (mark : Char) (cs : List Char) : Option (List Char) :=
  match cs.dropWhile isBlank with
  | c :: rest => if c = mark then some rest else none
  | [] => none

/-- Nanoseconds of a fraction; digits past the ninth are skipped. -/
def readFraction : List Char → Reading Nat
  | '.' :: cs =>
    match readDigits 9 cs with
    | some (n, rest) =>
      some (n * Nat.pow 10 (9 - (cs.length - rest.length)), rest.dropWhile isDecimalDigit)
    | none => none
  | cs => some (0, cs)

def readTwoDigits : List Char → Reading Nat
  | a :: b :: rest =>
    match digitValue? a, digitValue? b with
    | some a, some b => some (a * 10 + b, rest)
    | _, _ => none
  | _ => none

/-- Hours and minutes, in seconds, with a colon or blanks between them or nothing. -/
def readHoursMinutes (cs : List Char) : Option (Int × List Char) := do
  let (hours, rest) ← readTwoDigits cs
  let (minutes, rest) ← readTwoDigits (rest.dropWhile fun c => c == ':' || isBlank c)
  if minutes < 60 then some ((hours * 3600 + minutes * 60 : Nat), rest) else none

/-- The distance of local time from universal time, in seconds. -/
def readOffset (cs : List Char) : Reading Int :=
  if (cs.take 3).map Char.toLower = ['u', 't', 'c'] then some (0, cs.drop 3)
  else match cs with
    | 'Z' :: rest => some (0, rest)
    | 'z' :: rest => some (0, rest)
    | '+' :: rest => readHoursMinutes rest
    | '-' :: rest => (readHoursMinutes rest).map fun (s, rest) => (-s, rest)
    | '\u2212' :: rest => (readHoursMinutes rest).map fun (s, rest) => (-s, rest)
    | _ => none

/-- Reads a date and a time of day with an offset; blanks may surround the parts. -/
def read (cs : List Char) : Option Stamp := do
  let (year, cs) ← readYear cs
  let cs ← readMark '-' cs
  let (month, cs) ← readField 1 12 cs
  let cs ← readMark '-' cs
  let (day, cs) ← readField 1 31 cs
  let cs ← match cs with
    | c :: rest => if c = 'T' ∨ c = 't' ∨ c = ' ' then some rest else none
    | [] => none
  let (hour, cs) ← readField 0 23 cs
  let cs ← readMark ':' cs
  let (minute, cs) ← readField 0 59 cs
  let cs ← readMark ':' cs
  let (second, cs) ← readField 0 60 cs
  let (fraction, cs) ← readFraction cs
  let (offset, cs) ← readOffset (cs.dropWhile isBlank)
  if !cs.all isBlank || offset ≤ -86400 || 86400 ≤ offset then none
  else
    let days ← Date.toDays? ⟨year, month, day⟩
    let leap := second / 60
    let local_ ← Stamp.ofParts?
      (days * 86400 + hour * 3600 + minute * 60 + (second - leap : Nat))
      (leap * 1000000000 + fraction)
    Stamp.ofParts? (local_.seconds - offset) local_.nanos

end ClusterOutbox.Rfc3339
