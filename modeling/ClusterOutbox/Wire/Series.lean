import ClusterOutbox.Text.Utf8
import ClusterOutbox.Wire.Field

namespace ClusterOutbox

/-- A dimension of a series. -/
structure Label where
  name : String
  value : String
deriving DecidableEq

/-- A value at a time. -/
structure Sample where
  /-- The 64 bits of a double-precision number. -/
  value : UInt64
  /-- Milliseconds since the epoch. -/
  timestamp : Int64
deriving DecidableEq

/-- A time series: what it measures, and its samples. -/
structure Series where
  labels : List Label
  samples : List Sample
deriving DecidableEq

/-- The value of the first label of a name. -/
def Series.label? (s : Series) (name : String) : Option String :=
  (s.labels.find? fun l => l.name == name).map (·.value)

/-- The reserved label that carries the name of a series. -/
def nameLabel : String := "__name__"

def Series.name? (s : Series) : Option String := s.label? nameLabel

namespace Wire

/-- Whether a number is a zero of either sign. -/
def isZero (value : UInt64) : Bool := value == 0 || value == 0x8000000000000000

/-- A field that is left out when its text is empty. -/
def textField (number : Nat) (s : String) : List Field :=
  if s = "" then [] else [⟨number, .bytes (utf8Bytes s)⟩]

def labelFields (l : Label) : List Field := textField 1 l.name ++ textField 2 l.value

/-- The fields of a sample; a zero is left out. -/
def sampleFields (s : Sample) : List Field :=
  (if isZero s.value then [] else [⟨1, .fixed64 (lowBytes 8 s.value.toNat)⟩]) ++
    (if s.timestamp = 0 then [] else [⟨2, .varint s.timestamp.toUInt64.toNat⟩])

def seriesFields (s : Series) : List Field :=
  s.labels.map (fun l => ⟨1, .bytes (writeFields (labelFields l))⟩) ++
    s.samples.map fun x => ⟨2, .bytes (writeFields (sampleFields x))⟩

/-- The bytes of a request that carries series. -/
def writeRequest (series : List Series) : List UInt8 :=
  writeFields (series.map fun s => ⟨1, .bytes (writeFields (seriesFields s))⟩)

/-- How deep messages and groups may nest. -/
def nestingLimit : Nat := 100

def mergeLabel (l : Label) (f : Field) : Option Label :=
  match f.number, f.payload with
  | 1, .bytes b => (ofUtf8? b).map fun name => { l with name }
  | 2, .bytes b => (ofUtf8? b).map fun value => { l with value }
  | 1, _ => none
  | 2, _ => none
  | _, _ => some l

def mergeSample (s : Sample) (f : Field) : Option Sample :=
  match f.number, f.payload with
  | 1, .fixed64 b => some { s with value := (ofLowBytes b).toUInt64 }
  | 2, .varint n => some { s with timestamp := n.toUInt64.toInt64 }
  | 1, _ => none
  | 2, _ => none
  | _, _ => some s

/-- Reads a message from its bytes, field by field; of a field that may stand once the last one
counts. `level` is the number of messages around it. -/
def readMessage {α : Type} (level : Nat) (blank : α) (merge : α → Field → Option α)
    (bs : List UInt8) : Option α :=
  match readFields (nestingLimit - level) [] bs with
  | some fs => fs.foldlM merge blank
  | none => none

def mergeSeries (s : Series) (f : Field) : Option Series :=
  match f.number, f.payload with
  | 1, .bytes b =>
    (readMessage 2 ⟨"", ""⟩ mergeLabel b).map fun l => { s with labels := s.labels ++ [l] }
  | 2, .bytes b =>
    (readMessage 2 ⟨0, 0⟩ mergeSample b).map fun x => { s with samples := s.samples ++ [x] }
  | 1, _ => none
  | 2, _ => none
  | _, _ => some s

def mergeRequest (series : List Series) (f : Field) : Option (List Series) :=
  match f.number, f.payload with
  | 1, .bytes b => (readMessage 1 ⟨[], []⟩ mergeSeries b).map fun s => series ++ [s]
  | 1, _ => none
  | _, _ => some series

/-- The series of a request; fields of other numbers are skipped. -/
def readRequest (bs : List UInt8) : Option (List Series) :=
  readMessage 0 [] mergeRequest bs

/-- Bytes of a number in groups of seven bits. -/
def varintLength (n : Nat) : Nat := if n < 128 then 1 else varintLength (n / 128) + 1
termination_by n
decreasing_by omega

/-- Bytes of a field of a small number whose content has a length. -/
def nestedLength (content : Nat) : Nat := 1 + varintLength content + content

def textLength (s : String) : Nat := if s = "" then 0 else nestedLength s.utf8ByteSize

def labelLength (l : Label) : Nat := textLength l.name + textLength l.value

def sampleLength (s : Sample) : Nat :=
  (if isZero s.value then 0 else 9) +
    (if s.timestamp = 0 then 0 else 1 + varintLength s.timestamp.toUInt64.toNat)

def seriesLength (s : Series) : Nat :=
  s.labels.foldr (fun l n => nestedLength (labelLength l) + n) 0 +
    s.samples.foldr (fun x n => nestedLength (sampleLength x) + n) 0

/-- The number of bytes of a request, without writing it. -/
def requestLength (series : List Series) : Nat :=
  series.foldr (fun s n => nestedLength (seriesLength s) + n) 0

end Wire

end ClusterOutbox
