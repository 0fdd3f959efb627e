import ClusterOutbox.Proofs.Text.ByteOrder
import ClusterOutbox.Proofs.Wire.Request
import ClusterOutbox.Url.Form

namespace ClusterOutbox

namespace Percent

theorem utf8Bytes_singleton (c : Char) : utf8Bytes (String.singleton c) = String.utf8EncodeChar c := by
  rw [utf8Bytes_eq]
  simp

theorem decode_cons_of_ne {c : Char} (h : c ≠ '%') (rest : List Char) :
    decode (c :: rest) = String.utf8EncodeChar c ++ decode rest := by
  rw [decode, utf8Bytes_singleton]
  rintro a b rest rfl
  exact absurd rfl h

theorem decode_encodeByte (b : UInt8) (rest : List Char) :
    decode (encodeByte b ++ rest) = b :: decode rest := by
  have hb := b.toNat_lt
  have hhigh := hexValue?_toUpper_hexDigit (show b.toNat / 16 < 16 by omega)
  have hlow := hexValue?_toUpper_hexDigit (show b.toNat % 16 < 16 by omega)
  have hsum : b.toNat / 16 * 16 + b.toNat % 16 = b.toNat := by omega
  rw [encodeByte]
  simp only [List.cons_append, List.nil_append]
  rw [decode, hhigh, hlow]
  simp [hsum]

theorem decode_encodeBytes (bs : List UInt8) (rest : List Char) :
    decode (bs.flatMap encodeByte ++ rest) = bs ++ decode rest := by
  induction bs with
  | nil => rfl
  | cons b bs ih => rw [List.flatMap_cons, List.append_assoc, decode_encodeByte, ih, List.cons_append]

/-- The characters of a code are the mark and capital hexadecimal digits. -/
theorem mem_encodeByte {b : UInt8} {c : Char} (h : c ∈ encodeByte b) :
    c = '%' ∨ c ∈ "0123456789ABCDEF".toList := by
  have hdigit : ∀ n ∈ List.range 16, (hexDigit n).toUpper ∈ "0123456789ABCDEF".toList := by decide
  have hb := b.toNat_lt
  simp only [encodeByte, List.mem_cons, List.not_mem_nil, or_false] at h
  rcases h with rfl | rfl | rfl
  · exact .inl rfl
  · exact .inr (hdigit _ (List.mem_range.mpr (by omega)))
  · exact .inr (hdigit _ (List.mem_range.mpr (by omega)))

/-- What is written for a character is the character itself, in ASCII, or codes. -/
theorem mem_encodeChar {coded : Char → Bool} {c d : Char} (h : c ∈ encodeChar coded d) :
    (c = d ∧ c.toNat < 128 ∧ coded c = false) ∨ c = '%' ∨ c ∈ "0123456789ABCDEF".toList := by
  unfold encodeChar at h
  split at h
  · obtain ⟨b, _, hb⟩ := List.mem_flatMap.mp h
    exact .inr (mem_encodeByte hb)
  next hplain =>
    obtain rfl := List.mem_singleton.mp h
    simp only [Bool.or_eq_true, decide_eq_true_eq, not_or, Bool.not_eq_true] at hplain
    exact .inl ⟨rfl, by omega, hplain.2⟩

end Percent

namespace Form

/-- Plus signs stand for spaces. -/
def spaced (cs : List Char) : List Char := cs.map fun c => if c = '+' then ' ' else c

theorem spaced_append (cs ds : List Char) : spaced (cs ++ ds) = spaced cs ++ spaced ds :=
  List.map_append

theorem spaced_of_no_plus {cs : List Char} (h : '+' ∉ cs) : spaced cs = cs := by
  refine (List.map_congr_left ?_).trans (List.map_id cs)
  intro c hc
  have hplus : c ≠ '+' := ne_of_mem_of_not_mem hc h
  exact if_neg hplus

theorem plus_not_mem_encodeBytes (bs : List UInt8) : '+' ∉ bs.flatMap Percent.encodeByte := by
  intro h
  obtain ⟨b, _, hb⟩ := List.mem_flatMap.mp h
  exact absurd (Percent.mem_encodeByte hb) (by decide)

theorem mem_encodeChar {c d : Char} (h : d ∈ encodeChar c) : d ≠ '&' ∧ d ≠ '=' := by
  unfold encodeChar at h
  split at h
  · rw [List.mem_singleton.mp h]
    decide
  · have hmark (mark : Char) (hcoded : (!isPlain mark) = true)
        (hcode : ¬ (mark = '%' ∨ mark ∈ "0123456789ABCDEF".toList)) : d ≠ mark := by
      rintro rfl
      rcases Percent.mem_encodeChar h with ⟨-, -, hplain⟩ | hd
      · exact Bool.false_ne_true (hplain.symm.trans hcoded)
      · exact hcode hd
    exact ⟨hmark '&' (by decide) (by decide), hmark '=' (by decide) (by decide)⟩

theorem mem_encodeText {s : String} {d : Char} (h : d ∈ encodeText s) : d ≠ '&' ∧ d ≠ '=' := by
  obtain ⟨c, _, hc⟩ := List.mem_flatMap.mp h
  exact mem_encodeChar hc

/-- What is written for a character stands for its bytes, whatever follows. -/
theorem decode_encodeChar (c : Char) (rest : List Char) :
    Percent.decode (spaced (encodeChar c) ++ rest) =
      String.utf8EncodeChar c ++ Percent.decode rest := by
  unfold encodeChar
  split
  next hspace =>
    subst hspace
    exact Percent.decode_cons_of_ne (by decide) rest
  next =>
    unfold Percent.encodeChar
    split
    next =>
      rw [spaced_of_no_plus (plus_not_mem_encodeBytes _), Percent.decode_encodeBytes,
        Percent.utf8Bytes_singleton]
    next hplain =>
      have hplus : c ≠ '+' := by
        rintro rfl
        exact hplain (by decide)
      have hmark : c ≠ '%' := by
        rintro rfl
        exact hplain (by decide)
      rw [spaced_of_no_plus (by simpa using Ne.symm hplus)]
      exact Percent.decode_cons_of_ne hmark rest

theorem decodeText?_encodeText (s : String) : decodeText? (encodeText s) = some s := by
  have hbytes : Percent.decode (spaced (encodeText s)) = utf8Bytes s := by
    rw [utf8Bytes_eq, encodeText]
    generalize s.toList = cs
    induction cs with
    | nil => simp [spaced, Percent.decode]
    | cons c cs ih => rw [List.flatMap_cons, spaced_append, decode_encodeChar, ih, List.flatMap_cons]
  rw [decodeText?, ← spaced, hbytes, ofUtf8?_utf8Bytes]

theorem decodePair?_encodePair (pair : String × String) :
    decodePair? (encodePair pair) = some pair := by
  have hname : ∀ c ∈ encodeText pair.1, (c != '=') = true := fun c hc => by
    simpa using (mem_encodeText hc).2
  have htake : (encodePair pair).takeWhile (· != '=') = encodeText pair.1 := by
    rw [encodePair, List.takeWhile_append_of_pos hname]
    simp
  have hdrop : ((encodePair pair).dropWhile (· != '=')).drop 1 = encodeText pair.2 := by
    rw [encodePair, List.dropWhile_append_of_pos hname]
    simp
  rw [decodePair?, htake, hdrop, decodeText?_encodeText, decodeText?_encodeText]

theorem unmarked_encodePair (pair : String × String) :
    ∀ c ∈ encodePair pair, (c == '&') = false := by
  intro c hc
  rcases List.mem_append.mp hc with hc | hc
  · simpa using (mem_encodeText hc).1
  · rcases List.mem_cons.mp hc with rfl | hc
    · decide
    · simpa using (mem_encodeText hc).1

theorem splitWhere_encode (pair : String × String) (pairs : List (String × String)) :
    splitWhere (· == '&') (encode (pair :: pairs)) = (pair :: pairs).map encodePair := by
  induction pairs generalizing pair with
  | nil =>
    rw [encode, List.flatMap_nil, List.append_nil, splitWhere_of_unmarked (unmarked_encodePair pair)]
    rfl
  | cons next pairs ih =>
    have hnext : encode (pair :: next :: pairs) = encodePair pair ++ '&' :: encode (next :: pairs) := by
      simp [encode]
    rw [hnext, splitWhere_append_mark (unmarked_encodePair pair) rfl, ih]
    rfl

/-- A form reads back as the names and values it was written from, whatever they hold. -/
theorem decode?_encode (pairs : List (String × String)) : decode? (encode pairs) = some pairs := by
  cases pairs with
  | nil => rfl
  | cons pair pairs =>
    have hfilter : ((pair :: pairs).map encodePair).filter (· ≠ []) = (pair :: pairs).map encodePair := by
      refine List.filter_eq_self.mpr ?_
      intro part hpart
      obtain ⟨p, _, rfl⟩ := List.mem_map.mp hpart
      simp [encodePair]
    rw [decode?, splitWhere_encode, hfilter]
    generalize pair :: pairs = ps
    induction ps with
    | nil => rfl
    | cons p ps ih => simp [List.mapM_cons, decodePair?_encodePair, ih]

end Form

end ClusterOutbox
