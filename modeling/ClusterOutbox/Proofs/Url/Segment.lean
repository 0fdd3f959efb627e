import ClusterOutbox.Proofs.Url.Form
import ClusterOutbox.Url.Endpoint
import Mathlib.Data.List.DropRight

namespace ClusterOutbox

theorem forall_mem_splitWhere {isMark : Char → Bool} {cs part : List Char}
    (h : part ∈ splitWhere isMark cs) : ∀ c ∈ part, c ∈ cs ∧ isMark c = false := by
  induction cs generalizing part with
  | nil =>
    rw [splitWhere, List.mem_singleton] at h
    simp [h]
  | cons d cs ih =>
    obtain ⟨first, parts, hsplit⟩ := List.exists_cons_of_ne_nil (splitWhere_ne_nil isMark cs)
    rw [hsplit] at ih
    have hrest : ∀ part ∈ first :: parts, ∀ c ∈ part, c ∈ d :: cs ∧ isMark c = false :=
      fun part hpart c hc => ⟨List.mem_cons_of_mem d (ih hpart c hc).1, (ih hpart c hc).2⟩
    rw [splitWhere, hsplit] at h
    dsimp only at h
    split at h
    · rcases List.mem_cons.mp h with rfl | h
      · simp
      · exact hrest part h
    next hmark =>
      rcases List.mem_cons.mp h with rfl | h
      · intro c hc
        rcases List.mem_cons.mp hc with rfl | hc
        · exact ⟨List.mem_cons_self, by simpa using hmark⟩
        · exact hrest first List.mem_cons_self c hc
      · exact hrest part (List.mem_cons_of_mem _ h)

namespace Url

/-- A fact about all ASCII characters is settled by going over them. -/
theorem forall_ascii {P : Char → Prop} (h : ∀ n ∈ List.range 128, P (Char.ofNat n)) {c : Char}
    (hc : c.toNat < 128) : P c := by
  have hofNat := h c.toNat (List.mem_range.mpr hc)
  rwa [Char.ofNat_toNat] at hofNat

/-- Characters that stand in a segment as they are. -/
def isPlain (special : Bool) (c : Char) : Bool :=
  decide (c.toNat < 128) && !Percent.inPath c && !isSlash special c

/-- A segment of a path as it is written. -/
def IsSegment (special : Bool) (p : List Char) : Prop := ∀ c ∈ p, isPlain special c = true

variable {special : Bool}

theorem isPlain_iff {c : Char} : isPlain special c = true ↔
    c.toNat < 128 ∧ Percent.inPath c = false ∧ isSlash special c = false := by
  simp [isPlain, and_assoc]

theorem isBreak_of_isPlain {c : Char} (h : isPlain special c = true) : isBreak c = false := by
  obtain ⟨hc, hpath, -⟩ := isPlain_iff.mp h
  revert hpath
  exact forall_ascii (P := fun c => Percent.inPath c = false → isBreak c = false)
    (by decide +kernel) hc

theorem ne_slash_of_isPlain {c : Char} (h : isPlain special c = true) : c ≠ '/' := by
  rintro rfl
  have hslash := (isPlain_iff.mp h).2.2
  simp [isSlash] at hslash

theorem isSegment_nil : IsSegment special [] := fun _ hc => absurd hc List.not_mem_nil

theorem withoutBreaks_of_isSegment {p : List Char} (h : IsSegment special p) : withoutBreaks p = p :=
  List.filter_eq_self.mpr fun c hc => by simp [isBreak_of_isPlain (h c hc)]

theorem encode_of_uncoded {coded : Char → Bool} {cs : List Char}
    (h : ∀ c ∈ cs, c.toNat < 128 ∧ coded c = false) : Percent.encode coded cs = cs := by
  induction cs with
  | nil => rfl
  | cons c cs ih =>
    obtain ⟨hc, hcoded⟩ := h c List.mem_cons_self
    have hchar : Percent.encodeChar coded c = [c] := by
      rw [Percent.encodeChar, if_neg]
      simp [hcoded]
      omega
    rw [Percent.encode, List.flatMap_cons, hchar, ← Percent.encode,
      ih fun d hd => h d (List.mem_cons_of_mem c hd)]
    rfl

theorem encode_of_isSegment {p : List Char} (h : IsSegment special p) :
    Percent.encode Percent.inPath p = p :=
  encode_of_uncoded fun c hc => ⟨(isPlain_iff.mp (h c hc)).1, (isPlain_iff.mp (h c hc)).2.1⟩

/-- What coding leaves has only ASCII characters: those left as they are, and codes. -/
theorem mem_encode {coded : Char → Bool} {cs : List Char} {c : Char}
    (h : c ∈ Percent.encode coded cs) :
    (c ∈ cs ∧ c.toNat < 128 ∧ coded c = false) ∨ c = '%' ∨ c ∈ "0123456789ABCDEF".toList := by
  obtain ⟨d, hd, hc⟩ := List.mem_flatMap.mp h
  rcases Percent.mem_encodeChar hc with ⟨rfl, hplain⟩ | hcode
  · exact .inl ⟨hd, hplain⟩
  · exact .inr hcode

theorem isSegment_encode {p : List Char} (h : ∀ c ∈ p, isSlash special c = false) :
    IsSegment special (Percent.encode Percent.inPath p) := by
  intro c hc
  rcases mem_encode hc with ⟨hmem, hascii, hplain⟩ | rfl | hdigit
  · exact isPlain_iff.mpr ⟨hascii, hplain, h c hmem⟩
  · cases special <;> decide
  · have hdigits : ∀ s, ("0123456789ABCDEF".toList.all fun c => isPlain s c) = true := by decide
    exact List.all_eq_true.mp (hdigits special) c hdigit

/-- A path from the root through segments, as it is written. -/
def joined (segments : List (List Char)) : List Char := segments.flatMap fun p => '/' :: p

theorem joined_cons (p : List Char) (ps : List (List Char)) : joined (p :: ps) = '/' :: (p ++ joined ps) :=
  rfl

theorem joined_append (ps qs : List (List Char)) : joined (ps ++ qs) = joined ps ++ joined qs :=
  List.flatMap_append

theorem intercalate_cons_joined (p : List Char) (ps : List (List Char)) :
    ['/'].intercalate (p :: ps) = p ++ joined ps := by
  induction ps generalizing p with
  | nil => simp [joined, List.intercalate]
  | cons q ps ih => rw [List.intercalate_cons_cons, ih, joined_cons]; simp

theorem deliveryPath_eq : deliveryPath = joined ["v1".toList, "container-metrics".toList] := by
  decide

theorem splitWhere_joined {ps : List (List Char)} (h : ∀ p ∈ ps, IsSegment special p)
    {p : List Char} (hp : IsSegment special p) :
    splitWhere (isSlash special) (p ++ joined ps) = p :: ps := by
  have hunmarked {p : List Char} (hp : IsSegment special p) : ∀ c ∈ p, isSlash special c = false :=
    fun c hc => (isPlain_iff.mp (hp c hc)).2.2
  induction ps generalizing p with
  | nil =>
    rw [joined, List.flatMap_nil, List.append_nil]
    exact splitWhere_of_unmarked (hunmarked hp)
  | cons q ps ih =>
    rw [joined_cons, splitWhere_append_mark (hunmarked hp) (by simp [isSlash]),
      ih (fun r hr => h r (List.mem_cons_of_mem q hr)) (h q List.mem_cons_self)]

/-- Slashes at the end of a path stand for segments without a character. -/
theorem dropEndSlashes_joined {ps : List (List Char)} (h : ∀ p ∈ ps, IsSegment special p) :
    dropEndSlashes (joined ps) = joined (ps.rdropWhile (· = [])) := by
  change (joined ps).rdropWhile (· = '/') = _
  induction ps using List.reverseRecOn with
  | nil => rfl
  | append_singleton ps p ih =>
    have hps := ih fun q hq => h q (List.mem_append_left _ hq)
    have hlast : joined [p] = '/' :: p := by simp [joined]
    rw [joined_append, hlast]
    cases p using List.reverseRecOn with
    | nil =>
      rw [List.rdropWhile_concat_pos _ _ _ (by simp), List.rdropWhile_concat_pos _ _ _ (by simp), hps]
    | append_singleton p c =>
      have hc : c ≠ '/' := ne_slash_of_isPlain (h (p ++ [c]) (by simp) c (by simp))
      rw [List.rdropWhile_concat_neg _ ps _ (by simp)]
      have hassoc : joined ps ++ '/' :: (p ++ [c]) = (joined ps ++ '/' :: p) ++ [c] := by simp
      rw [hassoc, List.rdropWhile_concat_neg _ _ _ (by simpa using hc), ← hassoc, joined_append]
      simp [joined]

end Url

end ClusterOutbox
