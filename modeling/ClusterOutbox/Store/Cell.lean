import ClusterOutbox.Number.Double
import ClusterOutbox.Number.Scaled
import ClusterOutbox.Store.Error
import ClusterOutbox.Text.Utf8

namespace ClusterOutbox

/-- A value in the table. -/
inductive Cell
  | null
  /-- A number of 64 bits with a sign. -/
  | integer (n : Int)
  /-- A double, by its bits. -/
  | real (bits : UInt64)
  | text (s : String)
  /-- Text whose bytes are not valid UTF-8. -/
  | garbled (bytes : List UInt8)
  | blob (bytes : List UInt8)
deriving DecidableEq

namespace Cell

instance : Inhabited Cell := ⟨null⟩

def type : Cell → CellType
  | null => .null
  | integer _ => .integer
  | real _ => .real
  | text _ => .text
  | garbled _ => .text
  | blob _ => .blob

def ofText? : Option String → Cell
  | some s => text s
  | none => null

def ofInteger? : Option Int → Cell
  | some n => integer n
  | none => null

/-- Text of given bytes. -/
def ofTextBytes (bytes : List UInt8) : Cell :=
  match ofUtf8? bytes with
  | some s => text s
  | none => garbled bytes

/-- The order of classes: null, numbers, text, blobs. -/
def rank : Cell → Nat
  | null => 0
  | integer _ | real _ => 1
  | text _ | garbled _ => 2
  | blob _ => 3

/-- A number as a multiple of 2^-1074. -/
def scaled : Cell → Int
  | integer n => n * Double.unit
  | real bits => Double.scaled bits
  | _ => 0

/-- The bytes by which text and blobs are ordered. -/
def bytes : Cell → List UInt8
  | text s => utf8Bytes s
  | garbled b => b
  | blob b => b
  | _ => []

def bytesLt : List UInt8 → List UInt8 → Bool
  | [], [] => false
  | [], _ :: _ => true
  | _ :: _, [] => false
  | a :: as, b :: bs => a < b || (a == b && bytesLt as bs)

/-- Numbers by value, text and blobs by bytes, and every class before the next one. -/
def lt : Cell → Cell → Bool
  | integer m, integer n => m < n
  | a, b =>
    if a.rank = b.rank then
      if a.rank = 1 then a.scaled < b.scaled else bytesLt a.bytes b.bytes
    else a.rank < b.rank

/-- The greater of two cells, the first where they are equal. -/
def later (a b : Cell) : Cell := if a.lt b then b else a

/-- Blanks that may surround a number in text. -/
def isPad (c : Char) : Bool := c == ' ' || ('\t' ≤ c && c ≤ '\r')

/-- The number that a text writes, where it writes one: an integer if it equals one that fits. -/
def numberOf? (s : String) : Option Cell :=
  let cs := ((s.toList.dropWhile isPad).reverse.dropWhile isPad).reverse
  (Decimal.read? cs).map fun d =>
    let value : Int := if d.negative then -(d.mantissa : Int) else d.mantissa
    if d.isPlain ∧ -9223372036854775808 ≤ value ∧ value ≤ 9223372036854775807 then integer value
    else
      let bits := d.scaledBits
      match Double.toInt? bits with
      | some n =>
        if -9223372036854775808 < n ∧ n < 9223372036854775807 then integer n else real bits
      | none => real bits

/-- A value on its way into a column of numbers. -/
def asNumber : Cell → Cell
  | text s => (numberOf? s).getD (text s)
  | c => c

/-- A value on its way into a column of text. -/
def asText : Cell → Cell
  | integer n => text (intText n)
  | c => c

/-- Bytes of the cell as a blob, none for null. -/
def size : Cell → Nat
  | null => 0
  | integer n => (intText n).utf8ByteSize
  | real _ => 0
  | text s => s.utf8ByteSize
  | garbled b => b.length
  | blob b => b.length

/-- Reads a cell that must be an integer. -/
def integer? (column : Nat) (name : String) : Cell → Except EngineError Int
  | integer n => .ok n
  | c => .error (.wrongType column name c.type)

/-- Reads a cell that must be text. -/
def text? (column : Nat) (name : String) : Cell → Except EngineError String
  | text s => .ok s
  | garbled _ => .error (.unreadable column none)
  | c => .error (.wrongType column name c.type)

/-- Reads a cell that may be null. -/
def optional {α : Type} (read : Cell → Except EngineError α) : Cell → Except EngineError (Option α)
  | null => .ok none
  | c => (read c).map some

end Cell

end ClusterOutbox
