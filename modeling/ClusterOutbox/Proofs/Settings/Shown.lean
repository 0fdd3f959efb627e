import ClusterOutbox.Proofs.Text.Blank
import ClusterOutbox.Settings.Environment

namespace ClusterOutbox

namespace Decimal

theorem unspaced_readSign {cs : List Char} (h : Unspaced (readSign cs).2) : Unspaced cs := by
  unfold readSign at h
  split at h
  · exact unspaced_cons.mpr ⟨by decide, h⟩
  · exact unspaced_cons.mpr ⟨by decide, h⟩
  · exact h

theorem unspaced_readExponent? {cs : List Char} {e : Int} (h : readExponent? cs = some e) :
    Unspaced cs := by
  cases cs with
  | nil => exact unspaced_nil
  | cons c rest =>
    unfold readExponent? at h
    dsimp only at h
    split at h
    next hread =>
      obtain ⟨hmark, -, hdigits⟩ := hread
      have hblank : isBlank c = false := by rcases hmark with rfl | rfl <;> decide
      exact unspaced_cons.mpr ⟨hblank, unspaced_readSign (unspaced_digits hdigits)⟩
    next => cases h

theorem unspaced_read? {cs : List Char} {d : Decimal} (h : read? cs = some d) : Unspaced cs := by
  unfold read? at h
  refine unspaced_readSign ?_
  generalize readSign cs = signed at h
  obtain ⟨negative, cs⟩ := signed
  dsimp only at h ⊢
  have hwhole : Unspaced (cs.takeWhile isDecimalDigit) := unspaced_digits List.all_takeWhile
  have hsplit := List.takeWhile_append_dropWhile (p := isDecimalDigit) (l := cs)
  have hrest : cs.drop (cs.takeWhile isDecimalDigit).length = cs.dropWhile isDecimalDigit := by
    have hdrop := congrArg (List.drop (cs.takeWhile isDecimalDigit).length) hsplit
    rw [List.drop_left] at hdrop
    exact hdrop.symm
  rw [hrest] at h
  rw [← hsplit]
  refine hwhole.append ?_
  generalize cs.dropWhile isDecimalDigit = rest at h
  split at h
  next tail =>
    split at h
    next => cases h
    next =>
      obtain ⟨e, hexponent, -⟩ := Option.map_eq_some_iff.mp h
      rw [← List.takeWhile_append_dropWhile (p := isDecimalDigit) (l := tail)]
      exact unspaced_cons.mpr
        ⟨by decide, (unspaced_digits List.all_takeWhile).append (unspaced_readExponent? hexponent)⟩
  next =>
    split at h
    next => cases h
    next =>
      obtain ⟨e, hexponent, -⟩ := Option.map_eq_some_iff.mp h
      exact unspaced_readExponent? hexponent

end Decimal

theorem unspaced_readInt64? {s : String} {n : Int} (h : readInt64? s = some n) :
    Unspaced s.toList := by
  unfold readInt64? at h
  dsimp only at h
  split at h
  · cases h
  next hread =>
    refine Decimal.unspaced_readSign (unspaced_digits ?_)
    simpa using fun hdigits => hread (.inr hdigits)

/-- Letters in lower case are blank where they are blank as written. -/
theorem unspaced_of_map {lower : Char → Char} (hlower : ∀ c, isBlank c = true → lower c = c)
    {cs : List Char} (h : Unspaced (cs.map lower)) : Unspaced cs := by
  intro c hc
  cases hblank : isBlank c with
  | false => rfl
  | true =>
    have hmapped := h (lower c) (List.mem_map_of_mem hc)
    rw [hlower c hblank, hblank] at hmapped
    exact hmapped

theorem toLower_eq_self {c : Char} (h : ¬ (65 ≤ c.toNat ∧ c.toNat ≤ 90)) : c.toLower = c := by
  unfold Char.toLower
  split
  next hupper => exact absurd ⟨hupper.1, hupper.2⟩ h
  next => rfl

theorem toLower_of_blank {c : Char} (h : isBlank c = true) : c.toLower = c := by
  refine toLower_eq_self ?_
  simp only [isBlank, Bool.or_eq_true, Bool.and_eq_true, decide_eq_true_eq, beq_iff_eq] at h
  omega

theorem unspaced_readDouble? {s : String} {bits : UInt64} (h : readDouble? s = some bits) :
    Unspaced s.toList := by
  unfold readDouble? at h
  split at h
  next hread => exact Decimal.unspaced_read? hread
  next =>
    dsimp only at h
    refine Decimal.unspaced_readSign (unspaced_of_map (fun c => toLower_of_blank) ?_)
    generalize (Decimal.readSign s.toList).2.map Char.toLower = word at h
    have hword : ∀ t : String, String.ofList word = t → word = t.toList := by
      rintro _ rfl
      exact (String.toList_ofList).symm
    split at h
    next hinf =>
      rcases hinf with hinf | hinf <;> rw [hword _ hinf] <;> decide
    next =>
      split at h
      next hnan => rw [hword _ hnan]; decide
      next => cases h

theorem unspaced_intText (n : Int) : Unspaced (intText n).toList := by
  have hdigits := unspaced_digits (all_decimalDigits n.natAbs)
  rw [intText, String.toList_ofList]
  split
  · exact unspaced_cons.mpr ⟨by decide, hdigits⟩
  · exact hdigits

theorem intText_ne_empty (n : Int) : (intText n).toList ≠ [] := by
  rw [intText, String.toList_ofList]
  split
  · exact List.cons_ne_nil _ _
  · exact decimalDigits_ne_nil n.natAbs

namespace Double

theorem unspaced_positional (d : Digits) : Unspaced d.positional := by
  have hzeros : ∀ n, Unspaced (List.replicate n '0') := by
    intro n c hc
    rw [(List.mem_replicate.mp hc).2]
    decide
  have hdigits := unspaced_digits (all_decimalDigits d.digits)
  unfold Digits.positional
  dsimp only
  split
  · exact hdigits.append (hzeros _)
  · have hall := (hzeros ((-d.place).toNat + 1 - (decimalDigits d.digits).length)).append hdigits
    refine Unspaced.append (fun c hc => hall c (List.mem_of_mem_take hc)) ?_
    exact unspaced_cons.mpr ⟨by decide, fun c hc => hall c (List.mem_of_mem_drop hc)⟩

theorem positional_ne_nil (d : Digits) : d.positional ≠ [] := by
  unfold Digits.positional
  dsimp only
  split
  · exact List.append_ne_nil_of_left_ne_nil (decimalDigits_ne_nil d.digits) _
  · exact List.append_ne_nil_of_right_ne_nil _ (List.cons_ne_nil _ _)

theorem unspaced_text (bits : UInt64) : Unspaced (text bits).toList := by
  unfold text
  split
  · decide
  · rw [String.toList_append]
    refine Unspaced.append ?_ ?_
    · split <;> decide
    · split
      · decide
      · split
        · decide
        · rw [String.toList_ofList]
          exact unspaced_positional _

theorem text_ne_empty (bits : UInt64) : (text bits).toList ≠ [] := by
  unfold text
  split
  · decide
  · rw [String.toList_append]
    refine List.append_ne_nil_of_right_ne_nil _ ?_
    split
    · decide
    · split
      · decide
      · rw [String.toList_ofList]
        exact positional_ne_nil _

end Double

namespace Setting

theorem unspaced_lowerKey {s : String} (h : Unspaced (lowerKey s).toList) : Unspaced s.toList := by
  rw [lowerKey, String.toList_map] at h
  refine unspaced_of_map ?_ h
  intro c hblank
  have hkelvin : c ≠ '\u212A' := by
    rintro rfl
    exact absurd hblank (by decide)
  rw [if_neg hkelvin, toLower_of_blank hblank]

/-- What is made of the value of a variable: the text itself, or something shown without blanks, and
then there are none in the text either. -/
theorem ofVariable_cases (s : String) :
    ofVariable s = text s ∨
    ∃ shown, (ofVariable s).text? = some shown ∧ Unspaced s.toList ∧ Unspaced shown.toList ∧
      shown.toList ≠ [] := by
  unfold ofVariable
  dsimp only
  split
  next hword =>
    exact .inr ⟨"true", rfl, unspaced_lowerKey (by rw [hword]; decide), by decide, by decide⟩
  next =>
    split
    next hword =>
      exact .inr ⟨"false", rfl, unspaced_lowerKey (by rw [hword]; decide), by decide, by decide⟩
    next =>
      split
      next n hread =>
        exact .inr ⟨intText n, rfl, unspaced_readInt64? hread, unspaced_intText n,
          intText_ne_empty n⟩
      next =>
        split
        next bits hread =>
          exact .inr ⟨Double.text bits, rfl, unspaced_readDouble? hread, Double.unspaced_text bits,
            Double.text_ne_empty bits⟩
        next => exact .inl rfl

/-- The text that the value of a variable is shown by; trimmed, it is the value trimmed only where it
is the value. -/
theorem exists_shown {s : String} (hs : trimText s ≠ "") :
    ∃ shown, (ofVariable s).text? = some shown ∧ trimText shown ≠ "" ∧
      (trimText shown = trimText s ↔ shown = s) := by
  rcases ofVariable_cases s with htext | ⟨shown, hshown, hs', hunspaced, hne⟩
  · exact ⟨s, by rw [htext]; rfl, hs, iff_of_true rfl rfl⟩
  · rw [trimText_of_unspaced hs']
    refine ⟨shown, hshown, ?_, by rw [trimText_of_unspaced hunspaced]⟩
    rw [trimText_of_unspaced hunspaced]
    rintro rfl
    exact hne rfl

end Setting

end ClusterOutbox
