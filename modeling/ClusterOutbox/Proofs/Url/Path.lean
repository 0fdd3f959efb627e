import ClusterOutbox.Proofs.Url.Walk
import Mathlib.Tactic.SplitIfs

namespace ClusterOutbox.Url

/-- The ways to write a segment that stands for another one. -/
def dotForms : List (List Char) := dotCodes ++ dotCodes.flatMap fun a => dotCodes.map (a ++ ·)

theorem mem_dotForms {p : List Char} (h : isDots p = true) : p ∈ dotForms := by
  simp only [isDots, isDoubleDot, isSingleDot, Bool.or_eq_true, List.any_eq_true, beq_iff_eq,
    List.contains_eq_mem, decide_eq_true_eq] at h
  rcases h with ⟨a, ha, b, hb, rfl⟩ | h
  · exact List.mem_append_right _ (List.mem_flatMap.mpr ⟨a, ha, List.mem_map.mpr ⟨b, hb, rfl⟩⟩)
  · exact List.mem_append_left _ h

theorem eq_dot_of_utf8EncodeChar {c : Char} {bs : List UInt8}
    (h : String.utf8EncodeChar c = 46 :: bs) : c = '.' := by
  have hlast : c.val.toNat < 1114112 := by
    rcases c.valid with h | h <;> omega
  refine Char.ext ?_
  rw [← UInt32.toNat_inj]
  change c.val.toNat = 46
  unfold String.utf8EncodeChar at h
  generalize c.val.toNat = n at h hlast
  simp only at h
  split_ifs at h <;>
    simp only [List.cons.injEq, ← UInt8.toNat_inj, UInt8.toNat_ofNat'] at h <;>
    have hfirst := h.1 <;> simp at hfirst <;> omega

/-- A dot is never coded, so coding turns no segment into one that stands for another. -/
theorem isDots_of_encode {p : List Char}
    (h : isDots (Percent.encode Percent.inPath p) = true) : isDots p = true := by
  have hcodes : ∀ form ∈ dotForms, ∀ n ∈ List.range 256,
      Percent.encodeByte n.toUInt8 <:+: form → n = 46 := by decide +kernel
  have huncoded : ∀ c ∈ p, c.toNat < 128 ∧ Percent.inPath c = false := by
    intro c hc
    by_cases hcoded : (decide (128 ≤ c.toNat) || Percent.inPath c) = true
    · have hchar : Percent.encodeChar Percent.inPath c =
          (String.utf8EncodeChar c).flatMap Percent.encodeByte := by
        rw [Percent.encodeChar, if_pos hcoded, Percent.utf8Bytes_singleton]
      obtain ⟨b, bs, hbytes⟩ := List.exists_cons_of_ne_nil (String.utf8EncodeChar_ne_nil (c := c))
      have hinfix : Percent.encodeByte b <:+: Percent.encode Percent.inPath p := by
        obtain ⟨before, after, rfl⟩ := List.append_of_mem hc
        refine ⟨Percent.encode Percent.inPath before,
          bs.flatMap Percent.encodeByte ++ Percent.encode Percent.inPath after, ?_⟩
        simp [Percent.encode, hchar, hbytes]
      have hb : b.toNat = 46 := hcodes _ (mem_dotForms h) b.toNat
        (List.mem_range.mpr b.toNat_lt) (by simpa using hinfix)
      obtain rfl : b = 46 := UInt8.toNat_inj.mp hb
      obtain rfl := eq_dot_of_utf8EncodeChar hbytes
      exact absurd hcoded (by decide)
    · simp only [Bool.or_eq_true, decide_eq_true_eq, not_or, Bool.not_eq_true] at hcoded
      exact ⟨by omega, hcoded.2⟩
  rwa [encode_of_uncoded huncoded] at h

variable {scheme : List Char}

theorem isSpecial_of_isFile (h : isFile scheme = true) : isSpecial scheme = true := by
  simp [isSpecial, h]

/-- The segments of a path as a reader of addresses leaves them. In all but files none of them stands
for another one; the first of a file has a character, unless it is the only one. -/
structure Written (scheme : List Char) (segments : List (List Char)) : Prop where
  segment : ∀ p ∈ segments, IsSegment (isSpecial scheme) p
  dots : isFile scheme = false → ∀ p ∈ segments, isDots p = false
  first : isFile scheme = true → segments = [[]] ∨ ∃ p rest, segments = p :: rest ∧ p ≠ []

theorem dropWhile_joined {special : Bool} {ps : List (List Char)} (h : ∀ p ∈ ps, IsSegment special p) :
    '/' :: (joined ps).dropWhile (· = '/') =
      joined (if ps.dropWhile (· = []) = [] then [[]] else ps.dropWhile (· = [])) := by
  induction ps with
  | nil => rfl
  | cons p ps ih =>
    rw [joined_cons, List.dropWhile_cons_of_pos (by simp)]
    cases p with
    | nil =>
      rw [List.dropWhile_cons_of_pos (by simp), List.nil_append,
        ih fun q hq => h q (List.mem_cons_of_mem _ hq)]
    | cons c p =>
      have hc : c ≠ '/' := ne_slash_of_isPlain (h (c :: p) List.mem_cons_self c List.mem_cons_self)
      rw [List.cons_append, List.dropWhile_cons_of_neg (by simpa using hc),
        List.dropWhile_cons_of_neg (by simp), if_neg (by simp)]
      rfl

/-- From the root a path leads through segments as they are written. -/
theorem exists_followPath (scheme cs : List Char) :
    ∃ ps, (followPath scheme .atRoot cs).1 = joined ps ∧ ps ≠ [] ∧ Written scheme ps := by
  let good := fun p => IsSegment (isSpecial scheme) p ∧ (isFile scheme = false → isDots p = false)
  have hempty : good [] := ⟨isSegment_nil, fun _ => by decide⟩
  have henter : ∀ part ∈ splitWhere (isSlash (isSpecial scheme)) cs,
      isDots (withoutBreaks part) = false → ∀ w : Walk, ∃ added,
        (w.enter (isFile scheme) part).segments = added ++ w.segments ∧ added ≠ [] ∧
          ∀ p ∈ added, good p := by
    intro part hpart hdots w
    obtain ⟨added, hadded, hne, hsegment, hplain⟩ := w.exists_enter (isFile scheme)
      fun c hc => (forall_mem_splitWhere hpart c hc).2
    refine ⟨added, hadded, hne, fun p hp => ⟨hsegment p hp, fun hfile => ?_⟩⟩
    rw [hplain hfile] at hp
    obtain rfl := List.mem_singleton.mp hp
    by_contra hcoded
    exact Bool.false_ne_true (hdots.symm.trans (isDots_of_encode (by simpa using hcoded)))
  obtain ⟨ps, hfollow, hne, hgood⟩ := Walk.exists_follow (Walk.under_atRoot good) hempty henter
  unfold followPath
  dsimp only
  rw [hfollow]
  cases hfile : isFile scheme with
  | false =>
    rw [if_neg Bool.false_ne_true]
    refine ⟨ps, rfl, hne, fun p hp => (hgood p hp).1, fun h p hp => (hgood p hp).2 h, ?_⟩
    intro h
    exact absurd (hfile.symm.trans h) Bool.false_ne_true
  | true =>
    rw [if_pos rfl, dropWhile_joined fun p hp => (hgood p hp).1]
    refine ⟨_, rfl, ?_, ?_, ?_, ?_⟩
    · split
      · simp
      next h => exact h
    · intro p hp
      split at hp
      · rw [List.mem_singleton.mp hp]
        exact isSegment_nil
      · exact (hgood p ((List.dropWhile_suffix _).subset hp)).1
    · intro h
      exact absurd (hfile.symm.trans h).symm Bool.false_ne_true
    · intro _
      split
      · exact .inl rfl
      next h =>
        obtain ⟨p, rest, hp⟩ := List.exists_cons_of_ne_nil h
        refine .inr ⟨p, rest, hp, ?_⟩
        have hhead := List.head_dropWhile_not (fun p => decide (p = [])) h
        simpa [hp] using hhead

theorem follow_beforeRoot (file : Bool) {parts : List (List Char)} (h : parts ≠ []) :
    Walk.beforeRoot.follow file ([] :: parts) = Walk.atRoot.follow file parts := by
  have henter : Walk.beforeRoot.enter file [] = Walk.atRoot := by cases file <;> rfl
  have hdouble : isDoubleDot (withoutBreaks []) = false := by decide
  have hsingle : isSingleDot (withoutBreaks []) = false := by decide
  rw [Walk.follow, if_neg (by simp [hdouble]), if_neg (by simp [hsingle])]
  dsimp only
  rw [henter, if_neg (by simpa using h)]

/-- The first slash leads to the root. -/
theorem followPath_beforeRoot (scheme cs : List Char) :
    followPath scheme .beforeRoot ('/' :: cs) = followPath scheme .atRoot cs := by
  have hsplit : splitWhere (isSlash (isSpecial scheme)) ('/' :: cs) =
      [] :: splitWhere (isSlash (isSpecial scheme)) cs :=
    splitWhere_append_mark (fun _ hc => absurd hc List.not_mem_nil) (by simp [isSlash]) cs
  unfold followPath
  rw [hsplit, follow_beforeRoot _ (splitWhere_ne_nil _ _)]

theorem pathAfter_slash (scheme : List Char) (bare : Bool) (cs : List Char) :
    pathAfter scheme bare ('/' :: cs) = followPath scheme .atRoot cs := by
  unfold pathAfter
  split
  · split
    · exact followPath_beforeRoot scheme cs
    · rfl
  · exact followPath_beforeRoot scheme cs

theorem exists_pathAfter (scheme cs : List Char) :
    ∃ ps, (pathAfter scheme false cs).1 = joined ps ∧ Written scheme ps := by
  have hroot (cs : List Char) : ∃ ps, (followPath scheme .atRoot cs).1 = joined ps ∧ Written scheme ps := by
    obtain ⟨ps, hps, -, hwritten⟩ := exists_followPath scheme cs
    exact ⟨ps, hps, hwritten⟩
  unfold pathAfter
  split
  next => exact hroot _
  next hspecial =>
    split
    · refine ⟨[], rfl, by simp, by simp, fun hfile => ?_⟩
      exact absurd (isSpecial_of_isFile hfile) hspecial
    next cs =>
      rw [followPath_beforeRoot]
      exact hroot _
    · exact hroot _

/-- The text of segments that are written is read as these segments. -/
theorem followPath_joined {p : List Char} {ps : List (List Char)}
    (h : ∀ q ∈ p :: ps, IsSegment (isSpecial scheme) q) :
    (followPath scheme .atRoot (p ++ joined ps)).1 =
      if isFile scheme = true then
        '/' :: (Walk.atRoot.follow (isFile scheme) (p :: ps)).1.dropWhile (· = '/')
      else (Walk.atRoot.follow (isFile scheme) (p :: ps)).1 := by
  rw [followPath, splitWhere_joined (fun q hq => h q (List.mem_cons_of_mem p hq)) (h p List.mem_cons_self)]

/-- A drive at the beginning of a path is written with a bar. -/
def BeginsBarred (ps : List (List Char)) : Prop :=
  ∃ c rest, ps = [c, '|'] :: rest ∧ isAsciiLetter c = true

theorem entered_eq_iff {file : Bool} {p : List Char} {ps : List (List Char)} :
    Walk.entered file p = p ↔ ¬ (file = true ∧ BeginsBarred (p :: ps)) := by
  unfold Walk.entered
  split
  next hdrive =>
    obtain ⟨c, mark, rfl, hletter, hmark⟩ := eq_of_isDrive hdrive.2
    rcases hmark with rfl | rfl
    · simp [BeginsBarred]
    · simp [BeginsBarred, hdrive.1, hletter]
  next hdrive =>
    refine ⟨?_, fun _ => rfl⟩
    rintro - ⟨hfile, c, rest, heq, hletter⟩
    obtain ⟨rfl, -⟩ := List.cons.inj heq
    exact hdrive ⟨hfile, by simp [isDrive, hletter]⟩

theorem entered_spec (file : Bool) {special : Bool} {p : List Char} (h : IsSegment special p)
    (hne : p ≠ []) :
    IsSegment special (Walk.entered file p) ∧ Walk.entered file p ≠ [] := by
  unfold Walk.entered
  split
  next hdrive =>
    obtain ⟨c, mark, rfl, hletter, -⟩ := eq_of_isDrive hdrive.2
    exact ⟨isSegment_drive hletter, by simp⟩
  next => exact ⟨h, hne⟩

/-- Following a path through written segments makes it no longer, and shorter where a segment stands
for another one. -/
theorem length_followPath_joined {p : List Char} {ps : List (List Char)}
    (h : ∀ q ∈ p :: ps, IsSegment (isSpecial scheme) q) (hdots : ∃ q ∈ p :: ps, isDots q = true) :
    (followPath scheme .atRoot (p ++ joined ps)).1.length < (joined (p :: ps)).length := by
  have henter : ∀ part ∈ p :: ps, isDots (withoutBreaks part) = false → ∀ w : Walk, ∃ added,
      (w.enter (isFile scheme) part).segments = added ++ w.segments ∧ added ≠ [] ∧ ∀ q ∈ added, True := by
    intro part hpart _ w
    obtain ⟨added, hadded, hne, -⟩ := w.exists_enter (isFile scheme)
      fun c hc => (isPlain_iff.mp (h part hpart c hc)).2.2
    exact ⟨added, hadded, hne, fun _ _ => trivial⟩
  obtain ⟨qs, hfollow, hne, -⟩ :=
    Walk.exists_follow (Walk.under_atRoot fun _ => True) trivial henter
  have hshort := (Walk.atRoot.length_follow_le (isFile scheme) h).2 hdots
  have hroot : Walk.size Walk.atRoot.segments = 1 := rfl
  rw [followPath_joined h, ← Walk.size]
  rw [hfollow] at hshort ⊢
  obtain ⟨q, rest, rfl⟩ := List.exists_cons_of_ne_nil hne
  split
  · have hdrop : ((joined (q :: rest)).dropWhile (· = '/')).length ≤ (q ++ joined rest).length := by
      rw [joined_cons, List.dropWhile_cons_of_pos (by simp)]
      exact (List.dropWhile_suffix _).length_le
    rw [joined_cons, List.length_cons] at hshort
    rw [List.length_cons]
    omega
  · omega

/-- A path through written segments reads back as it is, unless one of them stands for another one or,
in a file, the first is a drive written with a bar. -/
theorem pathAfter_joined_iff (bare : Bool) {p : List Char} {ps : List (List Char)}
    (h : ∀ q ∈ p :: ps, IsSegment (isSpecial scheme) q) (hfirst : isFile scheme = true → p ≠ []) :
    (pathAfter scheme bare (joined (p :: ps))).1 = joined (p :: ps) ↔
      (∀ q ∈ p :: ps, isDots q = false) ∧ ¬ (isFile scheme = true ∧ BeginsBarred (p :: ps)) := by
  rw [joined_cons, pathAfter_slash, ← joined_cons]
  by_cases hdots : ∃ q ∈ p :: ps, isDots q = true
  · have hshort := length_followPath_joined h hdots
    obtain ⟨q, hq, hqdots⟩ := hdots
    refine ⟨fun heq => absurd (congrArg List.length heq) (Nat.ne_of_lt hshort), fun hall => ?_⟩
    exact absurd ((hall.1 q hq).symm.trans hqdots) Bool.false_ne_true
  · have hplain : ∀ q ∈ p :: ps, isDots q = false := fun q hq => by
      by_contra hq'
      exact hdots ⟨q, hq, by simpa using hq'⟩
    have hread : (followPath scheme .atRoot (p ++ joined ps)).1 =
        joined (Walk.entered (isFile scheme) p :: ps) := by
      rw [followPath_joined h, Walk.follow_atRoot fun q hq => ⟨h q hq, hplain q hq⟩]
      split
      next hfile =>
        obtain ⟨hsegment, hne⟩ := entered_spec (isFile scheme) (h p List.mem_cons_self) (hfirst hfile)
        have hentered : ∀ q ∈ Walk.entered (isFile scheme) p :: ps, IsSegment (isSpecial scheme) q := by
          rintro q (_ | ⟨_, hq⟩)
          · exact hsegment
          · exact h q (List.mem_cons_of_mem p hq)
        rw [dropWhile_joined hentered, List.dropWhile_cons_of_neg (by simpa using hne), if_neg (by simp)]
      next => rfl
    have hsame : joined (Walk.entered (isFile scheme) p :: ps) = joined (p :: ps) ↔
        Walk.entered (isFile scheme) p = p := by
      rw [joined_cons, joined_cons]
      simp
    rw [hread, hsame, entered_eq_iff]
    exact ⟨fun hbar => ⟨hplain, hbar⟩, fun hall => hall.2⟩

end ClusterOutbox.Url
