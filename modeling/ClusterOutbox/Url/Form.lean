import ClusterOutbox.Text.Split
import ClusterOutbox.Url.Percent

namespace ClusterOutbox.Form

/-- The characters that a form leaves as they are. -/
def isPlain (c : Char) : Bool :=
  c.isAlphanum || c == '*' || c == '-' || c == '.' || c == '_'

/-- A space becomes a plus sign; what is not plain is coded. -/
def encodeChar (c : Char) : List Char :=
  if c = ' ' then ['+'] else Percent.encodeChar (fun c => !isPlain c) c

def encodeText (s : String) : List Char := s.toList.flatMap encodeChar

def encodePair (pair : String × String) : List Char :=
  encodeText pair.1 ++ '=' :: encodeText pair.2

/-- Names and values as a query. -/
def encode : List (String × String) → List Char
  | [] => []
  | pair :: rest => encodePair pair ++ rest.flatMap fun p => '&' :: encodePair p

/-- The text of an encoded name or value, unless its bytes are not text. -/
def decodeText? (cs : List Char) : Option String :=
  ofUtf8? (Percent.decode (cs.map fun c => if c = '+' then ' ' else c))

/-- A pair is split at its first equals sign. -/
def decodePair? (cs : List Char) : Option (String × String) :=
  match decodeText? (cs.takeWhile (· != '=')), decodeText? ((cs.dropWhile (· != '=')).drop 1) with
  | some name, some value => some (name, value)
  | _, _ => none

/-- Names and values of a query; empty parts are skipped. -/
def decode? (cs : List Char) : Option (List (String × String)) :=
  ((splitWhere (· == '&') cs).filter (· ≠ [])).mapM decodePair?

end ClusterOutbox.Form
