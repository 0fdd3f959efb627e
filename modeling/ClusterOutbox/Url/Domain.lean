import ClusterOutbox.Url.Direction
import ClusterOutbox.Url.DomainTable
import ClusterOutbox.Url.Joining
import ClusterOutbox.Url.Percent
import ClusterOutbox.Url.Punycode

namespace ClusterOutbox.Domain

def isAscii (cs : List Char) : Bool := cs.all fun c => c.toNat < 128

/-- What a character becomes in a domain, unless no domain holds it. -/
def replace? (c : Char) : Option (List Char) :=
  if CodeSpan.covers ignoredSpans c then some []
  else if CodeSpan.covers refusedSpans c then none
  else match CodeSpan.find? replacedSpans c.toNat with
    | some s => some (s.chars c)
    | none => some [c]

/-- The ASCII characters that no domain holds. -/
def isForbidden (c : Char) : Bool :=
  Percent.isControl c || c == ' ' ||
    ['%', '#', '/', ':', '<', '>', '?', '@', '[', '\\', ']', '^', '|'].contains c

/-- A domain in its usual form. -/
def normalize? (cs : List Char) : Option (List Char) := do
  let parts ← cs.mapM replace?
  let text := Composition.compose parts.flatten
  if text.any isForbidden then none else some text

/-- Whether a label says that it stands for another one. -/
def isCoded (label : List Char) : Bool := label.take 4 == ['x', 'n', '-', '-']

/-- The label that one stands for. A coded one stands for a label in its usual form. -/
def plainLabel? (label : List Char) : Option (List Char) :=
  if !isCoded label then some label
  else
    let code := label.drop 4
    if !isAscii code || label.getLast? == some '-' || 2000 < code.length then none
    else do
      let plain ← Punycode.decode? code
      if plain.contains '.' then none
      else if normalize? plain = some plain then some plain
      else none

/-- Whether a label begins as one may, holds joining signs in their places alone, and is not too
long to be coded. -/
def isValidLabel (label : List Char) : Bool :=
  !(label.head?.any (CodeSpan.covers markSpans)) && signsFit [] label &&
    (isAscii label || label.length ≤ 1000)

/-- The ASCII form of a label. -/
def encodeLabel (label : List Char) : List Char :=
  if isAscii label then label else ['x', 'n', '-', '-'] ++ Punycode.encode label

/-- A domain in ASCII, in its usual form: lower case, labels coded where they need it. -/
def toAscii? (cs : List Char) : Option (List Char) := do
  let labels ← (splitWhere (· == '.') (← normalize? cs)).mapM plainLabel?
  if labels.all isValidLabel && readsOneWay labels then
    some (['.'].intercalate (labels.map encodeLabel))
  else none

end ClusterOutbox.Domain
