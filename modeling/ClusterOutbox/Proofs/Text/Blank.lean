import ClusterOutbox.Proofs.Text.Digits
import ClusterOutbox.Text.Blank

namespace ClusterOutbox

/-- Characters none of which is blank. -/
def Unspaced (cs : List Char) : Prop := ∀ c ∈ cs, isBlank c = false

-- By the list: there are finitely many characters, and they are not to be gone through.
instance (cs : List Char) : Decidable (Unspaced cs) :=
  List.decidableBAll (fun c => isBlank c = false) cs

theorem Unspaced.append {cs ds : List Char} (hcs : Unspaced cs) (hds : Unspaced ds) :
    Unspaced (cs ++ ds) := by
  intro c hc
  rcases List.mem_append.mp hc with hc | hc
  · exact hcs c hc
  · exact hds c hc

theorem unspaced_cons {c : Char} {cs : List Char} :
    Unspaced (c :: cs) ↔ isBlank c = false ∧ Unspaced cs := List.forall_mem_cons

theorem unspaced_nil : Unspaced [] := fun _ hc => absurd hc List.not_mem_nil

theorem dropWhile_isBlank {cs : List Char} (h : ∀ c ∈ cs.head?, isBlank c = false) :
    cs.dropWhile isBlank = cs := by
  cases cs with
  | nil => rfl
  | cons c cs => rw [List.dropWhile_cons, h c rfl, if_neg Bool.false_ne_true]

/-- A text without a blank at its two ends. -/
structure Trimmed (s : String) : Prop where
  first : ∀ c ∈ s.toList.head?, isBlank c = false
  last : ∀ c ∈ s.toList.getLast?, isBlank c = false

theorem trimmed_of_unspaced {s : String} (h : Unspaced s.toList) : Trimmed s :=
  ⟨fun c hc => h c (List.mem_of_head? hc), fun c hc => h c (List.mem_of_getLast? hc)⟩

theorem Trimmed.trimText_eq {s : String} (h : Trimmed s) : trimText s = s := by
  have hlast : ∀ c ∈ s.toList.reverse.head?, isBlank c = false := by
    rw [List.head?_reverse]
    exact h.last
  rw [trimText, trimBlanks, dropWhile_isBlank h.first, dropWhile_isBlank hlast,
    List.reverse_reverse, String.ofList_toList]

/-- What is left between the blanks at the two ends begins and ends with no blank. -/
theorem trimmed_trimText (s : String) : Trimmed (trimText s) := by
  have hdrop : ∀ cs : List Char, ∀ c ∈ (cs.dropWhile isBlank).head?, isBlank c = false := by
    intro cs c hc
    have hnot := List.head?_dropWhile_not isBlank cs
    rw [Option.mem_def.mp hc] at hnot
    exact hnot
  constructor
  · -- Blanks dropped at the end leave a text that begins as before, or nothing.
    intro c hc
    rw [trimText, String.toList_ofList] at hc
    have hbegins : trimBlanks s.toList <+: s.toList.dropWhile isBlank :=
      List.reverse_suffix.mp (by
        rw [trimBlanks, List.reverse_reverse]
        exact List.dropWhile_suffix isBlank)
    obtain ⟨rest, hrest⟩ := hbegins
    refine hdrop s.toList c ?_
    rw [← hrest, List.head?_append, Option.mem_def.mp hc]
    rfl
  · intro c hc
    rw [trimText, String.toList_ofList, trimBlanks, List.getLast?_reverse] at hc
    exact hdrop _ c hc

theorem trimText_eq_empty_iff {s : String} :
    trimText s = "" ↔ ∀ c ∈ s.toList, isBlank c = true := by
  rw [← trimBlanks_eq_nil_iff, ← String.toList_inj, trimText, String.toList_ofList]
  rfl

theorem trimText_of_unspaced {s : String} (h : Unspaced s.toList) : trimText s = s :=
  (trimmed_of_unspaced h).trimText_eq

theorem digit_not_blank {c : Char} (h : isDecimalDigit c = true) : isBlank c = false := by
  obtain ⟨hlow, hhigh⟩ := digit_range h
  simp only [isBlank, Bool.or_eq_false_iff, Bool.and_eq_false_iff, decide_eq_false_iff_not,
    beq_eq_false_iff_ne]
  omega

theorem unspaced_digits {cs : List Char} (h : cs.all isDecimalDigit = true) : Unspaced cs :=
  fun c hc => digit_not_blank (List.all_eq_true.mp h c hc)

end ClusterOutbox
