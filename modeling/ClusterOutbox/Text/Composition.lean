import ClusterOutbox.Text.CompositionTable

namespace ClusterOutbox.Composition

/-- The place of a mark on its letter; zero for a letter. -/
def order (c : Char) : Nat :=
  match CodeSpan.find? orderSpans c.toNat with
  | some s => s.values.headD 0
  | none => 0

/-- The two characters that one stands for. A syllable stands for the one without its last sound and
that sound, or for its first two sounds. -/
def pair? (c : Char) : Option (Char × Char) :=
  let n := c.toNat
  if 0xAC00 ≤ n ∧ n ≤ 0xD7A3 then
    let index := n - 0xAC00
    let final := index % 28
    if final = 0 then
      some (Char.ofNat (0x1100 + index / 588), Char.ofNat (0x1161 + index % 588 / 28))
    else some (Char.ofNat (n - final), Char.ofNat (0x11A7 + final))
  else match (CodeSpan.find? pairSpans n).map CodeSpan.values with
    | some [a, b] => some (Char.ofNat a, Char.ofNat b)
    | _ => none

/-- The character that stands for two. -/
def join? (a b : Char) : Option Char :=
  let m := a.toNat
  let n := b.toNat
  if 0x1100 ≤ m ∧ m < 0x1113 ∧ 0x1161 ≤ n ∧ n < 0x1176 then
    some (Char.ofNat (0xAC00 + ((m - 0x1100) * 21 + (n - 0x1161)) * 28))
  else if 0xAC00 ≤ m ∧ m ≤ 0xD7A3 ∧ (m - 0xAC00) % 28 = 0 ∧ 0x11A8 ≤ n ∧ n < 0x11C3 then
    some (Char.ofNat (m + (n - 0x11A7)))
  else (pairSpans.find? fun s => s.values == [m, n]).map fun s => Char.ofNat s.first

/-- A character in its parts, down to a depth. -/
def parts : Nat → Char → List Char
  | 0, c => [c]
  | depth + 1, c =>
    match pair? c with
    | some (a, b) => parts depth a ++ [b]
    | none => [c]

/-- Puts a character behind others, the last of which comes first; a mark goes before the marks of
higher places. -/
def settle (c : Char) : List Char → List Char
  | [] => [c]
  | d :: rest => if 0 < order c ∧ order c < order d then d :: settle c rest else c :: d :: rest

/-- A text in its parts, with the marks on a letter in the order of their places. No character has
more than four parts. -/
def decompose (cs : List Char) : List Char :=
  ((cs.flatMap (parts 4)).foldl (fun done c => settle c done) []).reverse

/-- Joins a letter with what follows it. What does not join is passed; a mark behind one of its own
place, or of a higher one, does not reach the letter. -/
def joinFrom (letter : Char) (passed : List Char) : List Char → List Char
  | [] => letter :: passed.reverse
  | c :: rest =>
    let reaches := match passed with
      | [] => true
      | d :: _ => order d < order c
    match if reaches then join? letter c else none with
    | some joined => joinFrom joined passed rest
    | none =>
      if order c = 0 then letter :: (passed.reverse ++ joinFrom c [] rest)
      else joinFrom letter (c :: passed) rest

/-- The shortest form of a text: letters joined with their marks. -/
def compose (cs : List Char) : List Char :=
  let ds := decompose cs
  let marks := ds.takeWhile fun c => order c != 0
  match ds.drop marks.length with
  | [] => marks
  | letter :: rest => marks ++ joinFrom letter [] rest

end ClusterOutbox.Composition
