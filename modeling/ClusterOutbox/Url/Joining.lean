import ClusterOutbox.Text.Composition
import ClusterOutbox.Url.JoiningTable

namespace ClusterOutbox.Domain

/-- The first character of a text that joining does not pass over. -/
def nextJoining? (cs : List Char) : Option Char :=
  (cs.dropWhile (CodeSpan.covers transparentSpans)).head?

def joinsAfter (c : Char) : Bool :=
  CodeSpan.covers joinsBothSpans c || CodeSpan.covers joinsAfterSpans c

def joinsBefore (c : Char) : Bool :=
  CodeSpan.covers joinsBothSpans c || CodeSpan.covers joinsBeforeSpans c

/-- Whether a sign that parts or joins its neighbours has its place between two texts, the first of
them from its end: after a mark that silences a letter, and where it parts letters that would join. -/
def signFits (before : List Char) (sign : Char) (after : List Char) : Bool :=
  match before with
  | [] => false
  | c :: _ =>
    Composition.order c == 9 ||
      (sign == '\u200c' && (nextJoining? before).any joinsAfter &&
        (nextJoining? after).any joinsBefore)

/-- Whether all such signs of a label have their places. -/
def signsFit : List Char → List Char → Bool
  | _, [] => true
  | before, c :: after =>
    (!(c == '\u200c' || c == '\u200d') || signFits before c after) && signsFit (c :: before) after

end ClusterOutbox.Domain
