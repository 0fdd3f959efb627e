import ClusterOutbox.Json.Reader
import ClusterOutbox.Json.Writer
import ClusterOutbox.Proofs.Text.Digits

namespace ClusterOutbox

namespace Json

/-- A character is written as a one-letter escape, as its code, or as it is. -/
theorem writeChar_cases (c : Char) :
    (∃ e, e ≠ 'u' ∧ escaped? e = some c ∧ writeChar c = ['\\', e]) ∨
    (c.toNat < 0x20 ∧
      writeChar c = ['\\', 'u', '0', '0', hexDigit (c.toNat / 16), hexDigit (c.toNat % 16)]) ∨
    (¬ c.toNat < 0x20 ∧ c ≠ '"' ∧ c ≠ '\\' ∧ writeChar c = [c]) := by
  by_cases hq : c = '"'
  · exact .inl ⟨'"', by decide, by simp [hq, escaped?], by simp [hq, writeChar]⟩
  by_cases hb : c = '\\'
  · exact .inl ⟨'\\', by decide, by simp [hb, escaped?], by simp [hb, writeChar]⟩
  by_cases hc : c.toNat < 0x20
  · unfold writeChar
    rw [if_neg hq, if_neg hb]
    split
    next h => exact .inl ⟨'b', by decide, by simp [h, escaped?], rfl⟩
    split
    next h => exact .inl ⟨'t', by decide, by simp [h, escaped?], rfl⟩
    split
    next h => exact .inl ⟨'n', by decide, by simp [h, escaped?], rfl⟩
    split
    next h => exact .inl ⟨'f', by decide, by simp [h, escaped?], rfl⟩
    split
    next h => exact .inl ⟨'r', by decide, by simp [h, escaped?], rfl⟩
    exact .inr (.inl ⟨hc, rfl⟩)
  · refine .inr (.inr ⟨hc, hq, hb, ?_⟩)
    have hne : ∀ d : Char, d.toNat < 0x20 → c ≠ d := fun d hd h => hc (h ▸ hd)
    simp [writeChar, hq, hb, hc, hne]

theorem readPieces_writeChar (c : Char) (rest : List Char) :
    readPieces (writeChar c ++ rest) =
      (readPieces rest).map fun (ps, rest) => (.char c :: ps, rest) := by
  rcases writeChar_cases c with ⟨e, he, hs, hw⟩ | ⟨hc, hw⟩ | ⟨hc, hq, hb, hw⟩
  · rw [hw, List.cons_append, List.cons_append, List.nil_append, readPieces]
    · simp [hs]
    · intro a b x y tail h
      exact absurd h he
  · have hhigh := hexValue?_hexDigit (show c.toNat / 16 < 16 by omega)
    have hlow := hexValue?_hexDigit (show c.toNat % 16 < 16 by omega)
    have hzero : hexValue? '0' = some 0 := by decide
    have hn : ((0 * 16 + 0) * 16 + c.toNat / 16) * 16 + c.toNat % 16 = c.toNat := by omega
    have hu : Piece.ofUnit c.toNat = .char c := by
      simp [Piece.ofUnit, show ¬(0xD800 ≤ c.toNat ∧ c.toNat < 0xE000) by omega]
    rw [hw]
    simp only [List.cons_append, List.nil_append, readPieces, hzero, hhigh, hlow, hn, hu]
  · rw [hw, List.cons_append, List.nil_append, readPieces]
    · simp [hc, hb]
    · exact hq
    · intro a b x y tail h
      exact absurd h hb
    · intro d tail h
      exact absurd h hb

theorem joinPieces_chars (cs : List Char) : joinPieces (cs.map .char) = some cs := by
  induction cs with
  | nil => rfl
  | cons c cs ih => simp [joinPieces, ih]

theorem readPieces_writeChars (cs rest : List Char) :
    readPieces (cs.flatMap writeChar ++ '"' :: rest) = some (cs.map .char, rest) := by
  induction cs with
  | nil => simp [readPieces]
  | cons c cs ih =>
    rw [List.flatMap_cons, List.append_assoc, readPieces_writeChar, ih]
    rfl

theorem readString_writeString (s : String) (rest : List Char) :
    readString (s.toList.flatMap writeChar ++ '"' :: rest) = some (some s, rest) := by
  simp [readString, readPieces_writeChars, joinPieces_chars, String.ofList_toList]

theorem skipSpaces_cons {c : Char} (h : isSpace c = false) (cs : List Char) :
    skipSpaces (c :: cs) = c :: cs := by
  simp [skipSpaces, h]

theorem readValue_writeString (fuel : Nat) (s : String) (rest : List Char) :
    readValue (fuel + 1) (writeString s ++ rest) = some (.string (some s), rest) := by
  have hw : writeString s ++ rest = '"' :: (s.toList.flatMap writeChar ++ '"' :: rest) := by
    simp [writeString]
  rw [hw, readValue, skipSpaces_cons (by decide)]
  simp [readString_writeString]

/-- Whether what follows a value ends it, as the marks of an object do. -/
def Ends (rest : List Char) : Prop := ∀ c ∈ rest.head?, c = ',' ∨ c = '}'

theorem ends_nil : Ends [] := fun _ h => by cases h

theorem ends_comma (rest : List Char) : Ends (',' :: rest) :=
  fun _ h => .inl (Option.some.inj h).symm

theorem ends_brace (rest : List Char) : Ends ('}' :: rest) :=
  fun _ h => .inr (Option.some.inj h).symm

/-- Whether a text reads as a value, where there is fuel for each of its characters. -/
def Reads (text : List Char) (j : Json) : Prop :=
  ∀ fuel rest, text.length ≤ fuel → Ends rest → readValue fuel (text ++ rest) = some (j, rest)

theorem read?_of_reads {text : List Char} {j : Json} (h : Reads text j) :
    read? (String.ofList text) = some j := by
  have hread := h (2 * text.length + 1) [] (by omega) ends_nil
  rw [List.append_nil] at hread
  rw [read?, String.length_ofList, String.toList_ofList, hread]
  rfl

theorem reads_string (s : String) : Reads (writeString s) (.string (some s)) := by
  intro fuel rest hf _
  obtain ⟨fuel, rfl⟩ : ∃ f, fuel = f + 1 := ⟨fuel - 1, by simp [writeString] at hf; omega⟩
  exact readValue_writeString fuel s rest

theorem reads_null : Reads ['n', 'u', 'l', 'l'] .null := by
  intro fuel rest hf _
  obtain ⟨fuel, rfl⟩ : ∃ f, fuel = f + 1 := ⟨fuel - 1, by simp at hf; omega⟩
  rfl

theorem readWhole_decimalDigits (n : Nat) {rest : List Char}
    (hstop : ∀ c ∈ rest.head?, isDecimalDigit c = false) :
    readWhole (decimalDigits n ++ rest) = some (decimalDigits n, rest) := by
  obtain ⟨htake, hdrop⟩ := takeWhile_digits (all_decimalDigits n) hstop
  rw [readWhole, takeDigits, htake, hdrop]
  by_cases hzero : n = 0
  · rw [hzero, decimalDigits_zero]
    rfl
  · have hhead := head?_decimalDigits hzero
    have hne := decimalDigits_ne_nil n
    split
    next heq => exact absurd (by rw [(Prod.mk.inj heq).1]; rfl) hhead
    next heq => exact absurd (by rw [(Prod.mk.inj heq).1]; rfl) hhead
    next heq => exact absurd (Prod.mk.inj heq).1 hne
    next heq => rw [(Prod.mk.inj heq).1, (Prod.mk.inj heq).2]

theorem readValue_digit {d : Char} (hd : isDecimalDigit d = true) (fuel : Nat) (cs : List Char) :
    readValue (fuel + 1) (d :: cs) = (readNumber (d :: cs)).map fun (n, rest) => (.number n, rest) := by
  have hne : ∀ c, isDecimalDigit c = false → d ≠ c := by
    rintro c hc rfl
    rw [hd] at hc
    cases hc
  have hspace : isSpace d = false := by
    simp [isSpace, hne ' ' (by decide), hne '\t' (by decide), hne '\n' (by decide),
      hne '\r' (by decide)]
  rw [readValue, skipSpaces_cons hspace]
  simp [hne '"' (by decide), hne '[' (by decide), hne '{' (by decide), hne 'n' (by decide),
    hne 't' (by decide), hne 'f' (by decide)]

/-- Neither a point nor an exponent stands at the end of a value. -/
theorem readFraction_of_ends {rest : List Char} (h : Ends rest) :
    readFraction rest = some (none, rest) ∧ readExponent rest = some (none, rest) := by
  cases rest with
  | nil => exact ⟨rfl, rfl⟩
  | cons c rest => rcases h c rfl with rfl | rfl <;> exact ⟨rfl, rfl⟩

theorem readNumber_decimalDigits (n : Nat) {rest : List Char} (h : Ends rest) :
    readNumber (decimalDigits n ++ rest) = some (⟨false, decimalDigits n, none, none⟩, rest) := by
  have hstop : ∀ c ∈ rest.head?, isDecimalDigit c = false := by
    intro c hc
    rcases h c hc with rfl | rfl <;> decide
  have hwhole := readWhole_decimalDigits n hstop
  obtain ⟨hfraction, hexponent⟩ := readFraction_of_ends h
  obtain ⟨d, ds, hds⟩ := List.exists_cons_of_ne_nil (decimalDigits_ne_nil n)
  have hd : isDecimalDigit d = true :=
    List.all_eq_true.mp (all_decimalDigits n) d (hds ▸ List.mem_cons_self)
  have hsign : d ≠ '-' := by
    rintro rfl
    exact absurd hd (by decide)
  rw [hds, List.cons_append] at hwhole ⊢
  simp [readNumber, hsign, hwhole, hfraction, hexponent]

/-- A number without a sign, a point and an exponent reads up to the mark that ends it. -/
theorem reads_decimalDigits (n : Nat) :
    Reads (decimalDigits n) (.number ⟨false, decimalDigits n, none, none⟩) := by
  intro fuel rest hf hends
  have hnumber := readNumber_decimalDigits n hends
  obtain ⟨d, ds, hds⟩ := List.exists_cons_of_ne_nil (decimalDigits_ne_nil n)
  have hd : isDecimalDigit d = true :=
    List.all_eq_true.mp (all_decimalDigits n) d (hds ▸ List.mem_cons_self)
  obtain ⟨fuel, rfl⟩ : ∃ f, fuel = f + 1 := ⟨fuel - 1, by rw [hds] at hf; simp at hf; omega⟩
  rw [hds, List.cons_append] at hnumber ⊢
  rw [readValue_digit hd, hnumber, Option.map_some]

/-- A member of an object with the text that its value is written by. -/
structure Part where
  key : String
  text : List Char
  value : Json
  reads : Reads text value

namespace Part

/-- The member as it is read. -/
def member (p : Part) : Option String × Json := (some p.key, p.value)

def write (p : Part) : List Char := writeMember p.key p.text

theorem write_append (p : Part) (rest : List Char) :
    p.write ++ rest =
      '"' :: (p.key.toList.flatMap writeChar ++ '"' :: ':' :: (p.text ++ rest)) := by
  simp [write, writeMember, writeString]

theorem length_text_lt (p : Part) : p.text.length + 2 < p.write.length := by
  have h := congrArg List.length (p.write_append [])
  simp only [List.append_nil, List.length_append, List.length_cons] at h
  omega

end Part

def writeParts (ps : List Part) : List Char := commaSeparated (ps.map Part.write)

theorem readMembers_last {fuel : Nat} (p : Part) (hf : p.text.length ≤ fuel) (rest : List Char) :
    readMembers (fuel + 1) (p.write ++ '}' :: rest) = some ([p.member], rest) := by
  have hvalue := p.reads fuel _ hf (ends_brace rest)
  rw [p.write_append, readMembers, skipSpaces_cons (by decide)]
  simp only [readString_writeString, skipSpaces_cons (show isSpace ':' = false by decide), hvalue,
    skipSpaces_cons (show isSpace '}' = false by decide), Part.member]

theorem readMembers_next {fuel : Nat} (p : Part) (hf : p.text.length ≤ fuel) (rest : List Char) :
    readMembers (fuel + 1) (p.write ++ ',' :: rest) =
      (readMembers fuel rest).map fun (members, rest) => (p.member :: members, rest) := by
  have hvalue := p.reads fuel _ hf (ends_comma rest)
  rw [p.write_append, readMembers, skipSpaces_cons (by decide)]
  simp only [readString_writeString, skipSpaces_cons (show isSpace ':' = false by decide), hvalue,
    skipSpaces_cons (show isSpace ',' = false by decide), Part.member]

/-- Members read back where there is fuel for each character of their text. -/
theorem readMembers_writeParts {ps : List Part} (hne : ps ≠ []) {fuel : Nat}
    (hf : (writeParts ps).length ≤ fuel) (rest : List Char) :
    readMembers fuel (writeParts ps ++ '}' :: rest) = some (ps.map Part.member, rest) := by
  induction ps generalizing fuel with
  | nil => exact absurd rfl hne
  | cons p ps ih =>
    have hp := p.length_text_lt
    cases ps with
    | nil =>
      change p.write.length ≤ fuel at hf
      obtain ⟨fuel, rfl⟩ : ∃ f, fuel = f + 1 := ⟨fuel - 1, by omega⟩
      exact readMembers_last p (by omega) rest
    | cons q ps =>
      have hsplit : writeParts (p :: q :: ps) = p.write ++ ',' :: writeParts (q :: ps) := rfl
      rw [hsplit, List.length_append, List.length_cons] at hf
      obtain ⟨fuel, rfl⟩ : ∃ f, fuel = f + 1 := ⟨fuel - 1, by omega⟩
      have hlater : readMembers fuel (writeParts (q :: ps) ++ '}' :: rest) =
          some ((q :: ps).map Part.member, rest) := ih (List.cons_ne_nil q ps) (by omega)
      rw [hsplit, List.append_assoc, List.cons_append, readMembers_next p (by omega), hlater]
      rfl

theorem readValue_object (fuel : Nat) (text : List Char) :
    readValue (fuel + 1) ('{' :: '"' :: text) =
      (readMembers fuel ('"' :: text)).map fun (members, rest) => (.object members, rest) := by
  rw [readValue, skipSpaces_cons (by decide)]
  simp [skipSpaces_cons (show isSpace '"' = false by decide)]

/-- An object reads as the values of its members under their keys. -/
theorem reads_object (ps : List Part) :
    Reads (writeObject (ps.map fun p => (p.key, p.text))) (.object (ps.map Part.member)) := by
  intro fuel rest hf _
  have hwrite : writeObject (ps.map fun p => (p.key, p.text)) ++ rest =
      '{' :: (writeParts ps ++ '}' :: rest) := by
    simp only [writeObject, writeParts, List.map_map, List.cons_append, List.append_assoc,
      List.nil_append]
    rfl
  have hlength : (writeParts ps).length + 2 ≤ fuel := by
    have h := congrArg List.length hwrite
    simp only [List.length_append, List.length_cons] at h
    omega
  obtain ⟨fuel, rfl⟩ : ∃ f, fuel = f + 1 := ⟨fuel - 1, by omega⟩
  rw [hwrite]
  by_cases hne : ps = []
  · subst hne
    rw [readValue, skipSpaces_cons (by decide)]
    simp [writeParts, commaSeparated, skipSpaces_cons (show isSpace '}' = false by decide)]
  · have hread := readMembers_writeParts hne (show (writeParts ps).length ≤ fuel by omega) rest
    obtain ⟨text, htext⟩ : ∃ text, writeParts ps ++ '}' :: rest = '"' :: text := by
      obtain ⟨p, tail, rfl⟩ := List.exists_cons_of_ne_nil hne
      cases tail <;> simp [writeParts, commaSeparated, Part.write, writeMember, writeString]
    rw [htext] at hread ⊢
    rw [readValue_object, hread]
    rfl

/-- The members of an object that reads are the values of its members under their keys. -/
theorem members?_parts (ps : List Part) :
    (object (ps.map Part.member)).members? = some (ps.map fun p => (p.key, p.value)) := by
  rw [members?, List.mapM_map]
  exact List.mapM_pure

end Json

end ClusterOutbox
