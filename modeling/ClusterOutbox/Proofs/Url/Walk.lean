import ClusterOutbox.Proofs.Url.Segment

namespace ClusterOutbox.Url

variable {special file : Bool}

/-- Whether a segment stands for another one. -/
def isDots (p : List Char) : Bool := isDoubleDot p || isSingleDot p

theorem isPlain_of_letter {c : Char} (h : isAsciiLetter c = true) : isPlain special c = true := by
  have hascii : c.toNat < 128 := by
    simp only [isAsciiLetter, Bool.or_eq_true, Bool.and_eq_true, decide_eq_true_eq] at h
    have hle : c ≤ 'z' := by
      rcases h with h | h
      · exact h.2
      · exact Char.le_trans h.2 (by decide)
    exact Nat.lt_of_le_of_lt (show c.toNat ≤ 'z'.toNat from hle) (by decide)
  have hall : ∀ s : Bool, ∀ n ∈ List.range 128, isAsciiLetter (Char.ofNat n) = true →
      isPlain s (Char.ofNat n) = true := by decide +kernel
  exact forall_ascii (P := fun c => isAsciiLetter c = true → isPlain special c = true)
    (hall special) hascii h

theorem eq_of_isDrive {p : List Char} (h : isDrive p = true) :
    ∃ c mark, p = [c, mark] ∧ isAsciiLetter c = true ∧ (mark = ':' ∨ mark = '|') := by
  unfold isDrive at h
  split at h
  next c mark =>
    simp only [Bool.and_eq_true, Bool.or_eq_true, beq_iff_eq] at h
    exact ⟨c, mark, rfl, h⟩
  next => cases h

theorem isSegment_drive {c : Char} (h : isAsciiLetter c = true) : IsSegment special [c, ':'] := by
  intro d hd
  simp only [List.mem_cons, List.not_mem_nil, or_false] at hd
  rcases hd with rfl | rfl
  · exact isPlain_of_letter h
  · cases special <;> decide

theorem brokenDrive?_eq_none {p : List Char} (h : ∀ c ∈ p, isBreak c = false) (drive : List Char) :
    brokenDrive? drive p = none := by
  induction p generalizing drive with
  | nil => rfl
  | cons c p ih =>
    rw [brokenDrive?, if_pos (by simp [h c List.mem_cons_self])]
    exact ih (fun d hd => h d (List.mem_cons_of_mem c hd)) _

theorem brokenDrive?_eq_some {before part drive name : List Char}
    (h : brokenDrive? before part = some (drive, name)) :
    (∃ c, drive = [c, ':'] ∧ isAsciiLetter c = true) ∧ ∀ c ∈ name, c ∈ part := by
  induction part generalizing before with
  | nil => cases h
  | cons c part ih =>
    unfold brokenDrive? at h
    split at h
    · exact ⟨(ih h).1, fun d hd => List.mem_cons_of_mem c ((ih h).2 d hd)⟩
    · split at h
      next hdrive =>
        simp only [Bool.and_eq_true, beq_iff_eq] at hdrive
        obtain ⟨rfl, rfl⟩ := Prod.mk.inj (Option.some.inj h)
        obtain ⟨letter, mark, rfl, hletter, -⟩ := eq_of_isDrive hdrive.1.1
        obtain rfl : mark = ':' := by simpa using hdrive.1.2
        exact ⟨⟨letter, rfl, hletter⟩, fun d hd => List.mem_cons_of_mem c (List.mem_of_mem_filter hd)⟩
      · exact ⟨(ih h).1, fun d hd => List.mem_cons_of_mem c ((ih h).2 d hd)⟩

namespace Walk

variable {w : Walk}

/-- Entering a part puts segments on top of those entered before. -/
theorem exists_enter (w : Walk) (file : Bool) {part : List Char}
    (h : ∀ c ∈ part, isSlash special c = false) :
    ∃ added, (w.enter file part).segments = added ++ w.segments ∧ added ≠ [] ∧
      (∀ p ∈ added, IsSegment special p) ∧
      (file = false → added = [Percent.encode Percent.inPath (withoutBreaks part)]) := by
  have hcoded : IsSegment special (Percent.encode Percent.inPath (withoutBreaks part)) :=
    isSegment_encode fun c hc => h c (List.mem_of_mem_filter hc)
  unfold enter
  dsimp only
  split
  next hroot =>
    have hfile : file = true := (Bool.and_eq_true_iff.mp hroot).1
    split
    next hdrive =>
      obtain ⟨c, mark, heq, hletter, -⟩ := eq_of_isDrive hdrive
      rw [heq]
      exact ⟨[[c, ':']], rfl, by simp, by simpa using isSegment_drive hletter, by simp [hfile]⟩
    next =>
      split
      next drive name hbroken =>
        obtain ⟨⟨c, rfl, hletter⟩, hname⟩ := brokenDrive?_eq_some hbroken
        refine ⟨[Percent.encode Percent.inPath name, [c, ':']], rfl, by simp, ?_, by simp [hfile]⟩
        intro p hp
        simp only [List.mem_cons, List.not_mem_nil, or_false] at hp
        rcases hp with rfl | rfl
        · exact isSegment_encode fun c hc => h c (hname c hc)
        · exact isSegment_drive hletter
      next => exact ⟨[_], rfl, by simp, by simpa using hcoded, by simp [hfile]⟩
  next => exact ⟨[_], rfl, by simp, by simpa using hcoded, fun _ => rfl⟩

/-- Entering a segment as it is written enters just it, but directly under the root of a file a drive
with a bar is entered with a colon. -/
theorem enter_of_isSegment (w : Walk) {p : List Char} (h : IsSegment special p) :
    (w.enter file p).segments =
      (if file = true ∧ w.segments = [[]] ∧ isDrive p = true then p.take 1 ++ [':'] else p) ::
        w.segments := by
  have hbreaks := withoutBreaks_of_isSegment h
  have hcoded := encode_of_isSegment h
  have hbroken := brokenDrive?_eq_none (fun c hc => isBreak_of_isPlain (h c hc)) []
  unfold enter
  simp only [hbreaks, hcoded, hbroken, Bool.and_eq_true, beq_iff_eq]
  split
  next hroot =>
    split
    next hdrive => rw [if_pos ⟨hroot.1, hroot.2, hdrive⟩]
    next hdrive => rw [if_neg fun hall => hdrive hall.2.2]
  next hroot => rw [if_neg fun hall => hroot ⟨hall.1, hall.2.1⟩]

/-- A walk is under the root, inside segments of which something holds. -/
def Under (good : List Char → Prop) (w : Walk) : Prop :=
  ∃ inner, w.segments = inner ++ [[]] ∧ ∀ p ∈ inner, good p

variable {good : List Char → Prop}

theorem under_atRoot (good : List Char → Prop) : Walk.atRoot.Under good := ⟨[], rfl, by simp⟩

theorem Under.leave (h : w.Under good) : w.leave.Under good := by
  obtain ⟨inner, hinner, hgood⟩ := h
  unfold Walk.leave
  split
  next segment outer rest hsegments =>
    split
    · exact ⟨inner, hinner, hgood⟩
    · cases inner with
      | nil => simp [hsegments] at hinner
      | cons p inner =>
        rw [hsegments] at hinner
        exact ⟨inner, (List.cons.inj hinner).2, fun q hq => hgood q (List.mem_cons_of_mem p hq)⟩
  next => exact ⟨inner, hinner, hgood⟩

theorem insideText_eq (w : Walk) : w.insideText = ['/'].intercalate (w.segments.reverse ++ [[]]) := by
  unfold insideText
  generalize w.segments.reverse = ps
  induction ps with
  | nil => rfl
  | cons p ps ih =>
    obtain ⟨q, qs, hq⟩ := List.exists_cons_of_ne_nil (show ps ++ [[]] ≠ [] by simp)
    rw [List.flatMap_cons, ih, List.cons_append, hq, List.intercalate_cons_cons]

/-- A path leads from the root through segments. What holds of a segment without a character and of
every segment entered holds of all those that the path leads through. -/
theorem exists_follow {parts : List (List Char)} (h : w.Under good) (hempty : good [])
    (henter : ∀ part ∈ parts, isDots (withoutBreaks part) = false → ∀ w : Walk, ∃ added,
      (w.enter file part).segments = added ++ w.segments ∧ added ≠ [] ∧ ∀ p ∈ added, good p) :
    ∃ ps, (w.follow file parts).1 = joined ps ∧ ps ≠ [] ∧ ∀ p ∈ ps, good p := by
  have hjoined (inner : List (List Char)) : ['/'].intercalate ([] :: inner) = joined inner :=
    intercalate_cons_joined [] inner
  induction parts generalizing w with
  | nil =>
    obtain ⟨inner, hinner, hgood⟩ := h
    refine ⟨inner.reverse ++ [[]], ?_, by simp, ?_⟩
    · rw [follow, insideText_eq, hinner, ← hjoined]
      simp
    · intro p hp
      rcases List.mem_append.mp hp with hp | hp
      · exact hgood p (List.mem_reverse.mp hp)
      · rwa [List.mem_singleton.mp hp]
  | cons part rest ih =>
    have hrest := fun part' hpart' => henter part' (List.mem_cons_of_mem part hpart')
    unfold follow
    split
    · exact ih h.leave hrest
    next hdouble =>
      split
      · exact ih h hrest
      next hsingle =>
        have hdots : isDots (withoutBreaks part) = false := by simp [isDots, hdouble, hsingle]
        obtain ⟨added, hadded, hne, hgoodAdded⟩ := henter part List.mem_cons_self hdots w
        obtain ⟨inner, hinner, hgood⟩ := h
        have hall : ∀ p ∈ added ++ inner, good p := fun p hp =>
          (List.mem_append.mp hp).elim (hgoodAdded p) (hgood p)
        have hsegments : (w.enter file part).segments = (added ++ inner) ++ [[]] := by
          rw [hadded, hinner, List.append_assoc]
        dsimp only
        split
        · refine ⟨(added ++ inner).reverse, ?_, by simp [hne], ?_⟩
          · rw [text, hsegments, ← hjoined]
            simp
          · exact fun p hp => hall p (List.mem_reverse.mp hp)
        · exact ih ⟨added ++ inner, hsegments, hall⟩ hrest

/-- Inside a segment a path through segments as they are written, none of which stands for another,
leads where it says. -/
theorem follow_inside {parts : List (List Char)} (hw : 2 ≤ w.segments.length) (hparts : parts ≠ [])
    (h : ∀ p ∈ parts, IsSegment special p ∧ isDots p = false) :
    (w.follow file parts).1 = ['/'].intercalate (w.segments.reverse ++ parts) := by
  induction parts generalizing w with
  | nil => exact absurd rfl hparts
  | cons p rest ih =>
    obtain ⟨hsegment, hdots⟩ := h p List.mem_cons_self
    simp only [isDots, Bool.or_eq_false_iff] at hdots
    have henter : (w.enter file p).segments = p :: w.segments := by
      rw [enter_of_isSegment w hsegment, if_neg]
      rintro ⟨-, hroot, -⟩
      simp [hroot] at hw
    unfold follow
    rw [withoutBreaks_of_isSegment hsegment, if_neg (by simp [hdots.1]), if_neg (by simp [hdots.2])]
    dsimp only
    cases rest with
    | nil => simp [text, henter]
    | cons q rest =>
      rw [if_neg (by simp), ih (by rw [henter, List.length_cons]; omega) (by simp)
        fun r hr => h r (List.mem_cons_of_mem p hr), henter]
      simp

/-- The first segment of a path as it is entered: in a file a drive has a colon. -/
def entered (file : Bool) (p : List Char) : List Char :=
  if file = true ∧ isDrive p = true then p.take 1 ++ [':'] else p

/-- From the root such a path leads where it says but for its first segment. -/
theorem follow_atRoot {p : List Char} {ps : List (List Char)}
    (h : ∀ q ∈ p :: ps, IsSegment special q ∧ isDots q = false) :
    (Walk.atRoot.follow file (p :: ps)).1 = joined (entered file p :: ps) := by
  obtain ⟨hsegment, hdots⟩ := h p List.mem_cons_self
  simp only [isDots, Bool.or_eq_false_iff] at hdots
  have henter : (Walk.atRoot.enter file p).segments = [entered file p, []] := by
    rw [enter_of_isSegment _ hsegment, entered]
    simp [atRoot]
  have hjoined := intercalate_cons_joined [] (entered file p :: ps)
  rw [List.nil_append] at hjoined
  rw [← hjoined]
  unfold follow
  rw [withoutBreaks_of_isSegment hsegment, if_neg (by simp [hdots.1]), if_neg (by simp [hdots.2])]
  dsimp only
  cases ps with
  | nil => simp [text, henter]
  | cons q ps =>
    rw [if_neg (by simp), follow_inside (by simp [henter]) (by simp)
      fun r hr => h r (List.mem_cons_of_mem p hr), henter]
    rfl

/-- The characters of segments, each with the slash before it. -/
def size (ps : List (List Char)) : Nat := (joined ps).length

theorem size_cons (p : List Char) (ps : List (List Char)) : size (p :: ps) = p.length + 1 + size ps := by
  rw [size, joined_cons, List.length_cons, List.length_append, size]
  omega

theorem size_concat (ps : List (List Char)) (p : List Char) :
    size (ps ++ [p]) = size ps + (p.length + 1) := by
  rw [size, joined_append, List.length_append, ← size, ← size, size_cons]
  rfl

theorem size_reverse (ps : List (List Char)) : size ps.reverse = size ps := by
  induction ps with
  | nil => rfl
  | cons p ps ih => rw [List.reverse_cons, size_concat, ih, size_cons, Nat.add_comm]

theorem length_insideText (w : Walk) : w.insideText.length = size w.segments := by
  rw [← size_reverse, insideText]
  generalize w.segments.reverse = ps
  induction ps with
  | nil => rfl
  | cons p ps ih => rw [List.flatMap_cons, List.length_append, ih, size_cons]; simp

theorem length_text_le (w : Walk) : w.text.length ≤ size w.segments := by
  rw [← size_reverse, text]
  cases w.segments.reverse with
  | nil => exact Nat.zero_le _
  | cons p ps =>
    rw [intercalate_cons_joined, List.length_append, ← size, size_cons]
    omega

theorem size_leave_le (w : Walk) : size w.leave.segments ≤ size w.segments := by
  unfold leave
  split
  next segment outer rest hsegments =>
    split
    · exact Nat.le_refl _
    · rw [hsegments, size_cons segment]
      exact Nat.le_add_left _ _
  next => exact Nat.le_refl _

theorem size_enter (w : Walk) (file : Bool) {p : List Char} (h : IsSegment special p) :
    size (w.enter file p).segments = p.length + 1 + size w.segments := by
  rw [enter_of_isSegment w h, size_cons]
  split
  next hroot =>
    obtain ⟨c, mark, rfl, -⟩ := eq_of_isDrive hroot.2.2
    rfl
  next => rfl

theorem length_pos_of_isDots {p : List Char} (h : isDots p = true) : 1 ≤ p.length := by
  cases p with
  | nil => exact absurd h (by decide)
  | cons c p => exact Nat.le_add_left 1 _

/-- A segment that stands for another one is gone from the path. -/
theorem length_follow_le (w : Walk) (file : Bool) {parts : List (List Char)}
    (h : ∀ p ∈ parts, IsSegment special p) :
    (w.follow file parts).1.length ≤ size w.segments + size parts ∧
      ((∃ p ∈ parts, isDots p = true) →
        (w.follow file parts).1.length + 2 ≤ size w.segments + size parts) := by
  induction parts generalizing w with
  | nil => simp [follow, length_insideText, size]
  | cons p rest ih =>
    have hp := h p List.mem_cons_self
    have hrest := fun q hq => h q (List.mem_cons_of_mem p hq)
    rw [size_cons]
    unfold follow
    rw [withoutBreaks_of_isSegment hp]
    split
    next hdouble =>
      have hpos := length_pos_of_isDots (p := p) (by simp [isDots, hdouble])
      have hle := (ih w.leave hrest).1
      have hleave := size_leave_le w
      exact ⟨by omega, fun _ => by omega⟩
    next hdouble =>
      split
      next hsingle =>
        have hpos := length_pos_of_isDots (p := p) (by simp [isDots, hsingle])
        have hle := (ih w hrest).1
        exact ⟨by omega, fun _ => by omega⟩
      next hsingle =>
        have hsize := size_enter w file hp
        have hnot : isDots p = false := by simp [isDots, hdouble, hsingle]
        dsimp only
        split
        next hlast =>
          have hle := length_text_le (w.enter file p)
          dsimp only
          refine ⟨by omega, ?_⟩
          rintro ⟨q, hq, hdots⟩
          obtain rfl : rest = [] := List.isEmpty_iff.mp hlast
          obtain rfl := List.mem_singleton.mp hq
          exact absurd (hnot.symm.trans hdots) Bool.false_ne_true
        next =>
          obtain ⟨hle, hshort⟩ := ih (w.enter file p) hrest
          refine ⟨by omega, ?_⟩
          rintro ⟨q, hq, hdots⟩
          rcases List.mem_cons.mp hq with rfl | hq
          · exact absurd (hnot.symm.trans hdots) Bool.false_ne_true
          · have := hshort ⟨q, hq, hdots⟩
            omega

end Walk

end ClusterOutbox.Url
