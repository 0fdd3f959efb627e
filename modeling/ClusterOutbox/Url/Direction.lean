import ClusterOutbox.Url.DirectionTable

namespace ClusterOutbox.Domain

/-- How a character stands in a line of text. -/
inductive Direction
  | left
  | right
  | arabicNumber
  | europeanNumber
  | neutral
  | following
deriving DecidableEq

namespace Direction

def ofChar (c : Char) : Direction :=
  if CodeSpan.covers rightSpans c then right
  else if CodeSpan.covers arabicNumberSpans c then arabicNumber
  else if CodeSpan.covers europeanNumberSpans c then europeanNumber
  else if CodeSpan.covers neutralSpans c then neutral
  else if CodeSpan.covers followingSpans c then following
  else left

/-- Whether a label of these directions reads one way: it begins with a letter, holds no letter of the
other direction, and ends in a letter or number, marks apart. From right to left, its numbers are of
one kind. -/
def readsOneWay (label : List Direction) : Bool :=
  let core := (label.reverse.dropWhile (· == following)).reverse
  let ends := fun (ds : List Direction) => match core.getLast? with
    | some d => ds.contains d
    | none => false
  match label with
  | [] => true
  | left :: _ =>
    ends [left, europeanNumber] &&
      core.all fun d => [left, europeanNumber, neutral, following].contains d
  | right :: _ =>
    ends [right, europeanNumber, arabicNumber] && core.all (· != left) &&
      !(core.contains europeanNumber && core.contains arabicNumber)
  | _ => false

end Direction

/-- Whether the labels of a domain each read one way, where one of them has letters or numbers from
right to left. -/
def readsOneWay (labels : List (List Char)) : Bool :=
  let directions := labels.map fun label => label.map Direction.ofChar
  !(directions.any fun ds => ds.contains .right || ds.contains .arabicNumber) ||
    directions.all Direction.readsOneWay

end ClusterOutbox.Domain
