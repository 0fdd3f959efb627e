import ClusterOutbox.Wire.Bytes
import ClusterOutbox.Wire.Varint

namespace ClusterOutbox.Wire

/-- What a field of a message holds, by the way it is written. -/
inductive Payload
  | varint (n : Nat)
  | fixed64 (bytes : List UInt8)
  | bytes (content : List UInt8)
  | fixed32 (bytes : List UInt8)
  /-- A group, whose fields are of no interest. -/
  | group
deriving DecidableEq

/-- A numbered field of a message. -/
structure Field where
  number : Nat
  payload : Payload
deriving DecidableEq

/-- A field, or one end of a group of fields. -/
inductive Token
  | field (f : Field)
  | groupStart (number : Nat)
  | groupEnd (number : Nat)

/-- The number of a field and the way it is written, as one number. -/
def writeKey (number form : Nat) : List UInt8 := Varint.write (number * 8 + form)

def Field.write (f : Field) : List UInt8 :=
  match f.payload with
  | .varint n => writeKey f.number 0 ++ Varint.write n
  | .fixed64 bytes => writeKey f.number 1 ++ bytes
  | .bytes content => writeKey f.number 2 ++ Varint.write content.length ++ content
  | .fixed32 bytes => writeKey f.number 5 ++ bytes
  | .group => writeKey f.number 3 ++ writeKey f.number 4

def writeFields (fs : List Field) : List UInt8 := fs.flatMap Field.write

/-- What follows the key of a field. -/
def readPayload (number form : Nat) (bs : List UInt8) : Option (Token × List UInt8) :=
  match form with
  | 0 => (Varint.read bs).map fun (n, rest) => (.field ⟨number, .varint n⟩, rest)
  | 1 => (splitBytes? 8 bs).map fun (b, rest) => (.field ⟨number, .fixed64 b⟩, rest)
  | 2 =>
    match Varint.read bs with
    | some (n, rest) =>
      (splitBytes? n rest).map fun (b, rest) => (.field ⟨number, .bytes b⟩, rest)
    | none => none
  | 3 => some (.groupStart number, bs)
  | 4 => some (.groupEnd number, bs)
  | 5 => (splitBytes? 4 bs).map fun (b, rest) => (.field ⟨number, .fixed32 b⟩, rest)
  | _ => none

/-- Reads a key, which is below 2^32 and whose number is not zero, and what belongs to it. -/
def readToken (bs : List UInt8) : Option (Token × List UInt8) :=
  match Varint.read bs with
  | some (key, rest) =>
    if 4294967295 < key ∨ key < 8 then none else readPayload (key / 8) (key % 8) rest
  | none => none

theorem readPayload_shorter {number form : Nat} {bs rest : List UInt8} {t : Token}
    (h : readPayload number form bs = some (t, rest)) : rest.length ≤ bs.length := by
  unfold readPayload at h
  split at h
  · obtain ⟨⟨n, r⟩, hr, he⟩ := Option.map_eq_some_iff.mp h
    have := Varint.read_shorter hr
    cases he; omega
  · obtain ⟨⟨b, r⟩, hr, he⟩ := Option.map_eq_some_iff.mp h
    have := splitBytes?_shorter hr
    cases he; omega
  · split at h
    next hn =>
      obtain ⟨⟨b, r⟩, hr, he⟩ := Option.map_eq_some_iff.mp h
      have := Varint.read_shorter hn
      have := splitBytes?_shorter hr
      cases he; omega
    · simp at h
  · cases h; exact Nat.le_refl _
  · cases h; exact Nat.le_refl _
  · obtain ⟨⟨b, r⟩, hr, he⟩ := Option.map_eq_some_iff.mp h
    have := splitBytes?_shorter hr
    cases he; omega
  · simp at h

theorem readToken_shorter {bs rest : List UInt8} {t : Token}
    (h : readToken bs = some (t, rest)) : rest.length < bs.length := by
  unfold readToken at h
  split at h
  next hk =>
    split at h
    · simp at h
    · have := Varint.read_shorter hk
      have := readPayload_shorter h
      omega
  · simp at h

/-- A field before others, unless it lies in a group. -/
def outermost (opened : List Nat) (f : Field) (fs : List Field) : List Field :=
  if opened = [] then f :: fs else fs

/-- Reads the fields of a message. What groups hold is skipped, and `opened` are the numbers of those
now open, the innermost first; what lies inside `limit` groups is refused. -/
def readFields (limit : Nat) (opened : List Nat) (bs : List UInt8) : Option (List Field) :=
  if bs = [] then if opened = [] then some [] else none
  else
    match _h : readToken bs with
    | none => none
    | some (.groupEnd number, rest) =>
      match opened with
      | [] => none
      | innermost :: outer => if innermost = number then readFields limit outer rest else none
    | some (.groupStart number, rest) =>
      if opened.length < limit then
        (readFields limit (number :: opened) rest).map (outermost opened ⟨number, .group⟩)
      else none
    | some (.field f, rest) =>
      if opened.length < limit then (readFields limit opened rest).map (outermost opened f)
      else none
termination_by bs.length
decreasing_by all_goals exact readToken_shorter _h

end ClusterOutbox.Wire
