import ClusterOutbox.Text.Hex
import ClusterOutbox.Text.Utf8

namespace ClusterOutbox.Percent

def encodeByte (b : UInt8) : List Char :=
  ['%', (hexDigit (b.toNat / 16)).toUpper, (hexDigit (b.toNat % 16)).toUpper]

/-- A character, or the codes of its bytes where it is not ASCII or is to be coded. -/
def encodeChar (coded : Char → Bool) (c : Char) : List Char :=
  if 128 ≤ c.toNat || coded c then (utf8Bytes (String.singleton c)).flatMap encodeByte else [c]

def encode (coded : Char → Bool) (cs : List Char) : List Char := cs.flatMap (encodeChar coded)

/-- The bytes of a text whose codes stand for bytes; a mark without two digits stands for itself. -/
def decode : List Char → List UInt8
  | [] => []
  | '%' :: a :: b :: rest =>
    match hexValue? a, hexValue? b with
    | some x, some y => (x * 16 + y).toUInt8 :: decode rest
    | _, _ => utf8Bytes "%" ++ decode (a :: b :: rest)
  | c :: rest => utf8Bytes (String.singleton c) ++ decode rest
termination_by cs => cs.length

def isControl (c : Char) : Bool := c.toNat < 0x20 || c.toNat == 0x7F

/-- What is coded in each part of an address. -/
def inFragment (c : Char) : Bool :=
  isControl c || c == ' ' || c == '"' || c == '<' || c == '>' || c == '\x60'

def inQuery (special : Bool) (c : Char) : Bool :=
  isControl c || c == ' ' || c == '"' || c == '#' || c == '<' || c == '>' || (special && c == '\'')

def inPath (c : Char) : Bool :=
  inFragment c || c == '#' || c == '?' || c == '\x7b' || c == '\x7d'

def inUserInfo (c : Char) : Bool :=
  inPath c || c == '/' || c == ':' || c == ';' || c == '=' || c == '@' || c == '[' || c == '\\' ||
    c == ']' || c == '^' || c == '|'

end ClusterOutbox.Percent
