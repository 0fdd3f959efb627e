import ClusterOutbox.Proofs.Url.Parser
import ClusterOutbox.Settings.Load

namespace ClusterOutbox

theorem rdropWhile_cons_of_neg {α : Type} {p : α → Bool} {a : α} (h : ¬ p a = true) (l : List α) :
    (a :: l).rdropWhile p = a :: l.rdropWhile p := by
  induction l using List.reverseRecOn with
  | nil => simp [List.rdropWhile_singleton, h]
  | append_singleton l b ih =>
    rw [← List.cons_append]
    by_cases hb : p b = true
    · rw [List.rdropWhile_concat_pos _ _ _ hb, List.rdropWhile_concat_pos _ _ _ hb, ih]
    · rw [List.rdropWhile_concat_neg _ _ _ hb, List.rdropWhile_concat_neg _ _ _ hb, List.cons_append]

namespace Url

variable {u : Url} {scheme : List Char} {ps : List (List Char)}

/-- The parts of a path between slashes, the first of them before the first slash. -/
def pathParts (u : Url) : List (List Char) := splitWhere (· == '/') u.path.text

/-- What a second reading changes of the path of an address: a text without structure that is empty,
and of a file a segment that stands for another one, or a drive at the beginning written with a bar. -/
def Unsettled (u : Url) : Prop :=
  u.path = .plain [] ∨ isFile u.scheme = true ∧
    ((∃ p ∈ u.pathParts, isDots p = true) ∨ BeginsBarred (u.pathParts.drop 1))

/-- The path of deliveries below an address, as it stands before it is read. -/
def pathBelow (base : Url) : List Char := dropEndSlashes base.path.text ++ deliveryPath

/-- The segments of the path of deliveries below other segments. -/
def segmentsBelow (ps : List (List Char)) : List (List Char) :=
  ps.rdropWhile (· = []) ++ ["v1".toList, "container-metrics".toList]

theorem withPath_plain {t : List Char} (h : u.path = .plain t) (cs : List Char) :
    (u.withPath cs).path.text = match cs with
      | '/' :: rest => ['%', '2', 'F'] ++ Percent.encode Percent.isControl rest
      | cs => Percent.encode Percent.isControl cs := by
  unfold withPath
  rw [h]
  rfl

theorem withPath_rooted {t : List Char} (h : u.path = .rooted t) (cs : List Char) :
    (u.withPath cs).path.text = (pathAfter u.scheme (u.host == some []) cs).1 := by
  unfold withPath
  rw [h]
  rfl

theorem isSegment_unspecial {special : Bool} {p : List Char} (h : IsSegment special p) :
    IsSegment false p := by
  intro c hc
  obtain ⟨hascii, hpath, -⟩ := isPlain_iff.mp (h c hc)
  exact isPlain_iff.mpr ⟨hascii, hpath, by simp [isSlash, ne_slash_of_isPlain (h c hc)]⟩

theorem pathParts_rooted (h : u.path = .rooted (joined ps)) (hwritten : Written u.scheme ps) :
    u.pathParts = [] :: ps := by
  have hslash : isSlash false = (· == '/') := funext fun c => by simp [isSlash]
  unfold pathParts
  rw [h, ← hslash]
  exact splitWhere_joined (fun p hp => isSegment_unspecial (hwritten.segment p hp)) isSegment_nil

theorem unsettled_rooted (h : u.path = .rooted (joined ps)) (hwritten : Written u.scheme ps) :
    u.Unsettled ↔
      isFile u.scheme = true ∧ ((∃ p ∈ ps, isDots p = true) ∨ BeginsBarred ps) := by
  have hempty : isDots [] = false := by decide
  simp [Unsettled, h, pathParts_rooted h hwritten, hempty]

theorem forall_dots_segmentsBelow :
    (∀ p ∈ segmentsBelow ps, isDots p = false) ↔ ∀ p ∈ ps, isDots p = false := by
  have hempty : isDots [] = false := by decide
  have hdelivery : ∀ p ∈ ["v1".toList, "container-metrics".toList], isDots p = false := by decide
  constructor
  · intro h p hp
    have hsplit : ps.rdropWhile (· = []) ++ ps.rtakeWhile (· = []) = ps :=
      List.rdropWhile_append_rtakeWhile
    rw [← hsplit] at hp
    rcases List.mem_append.mp hp with hp | hp
    · exact h p (List.mem_append_left _ hp)
    · obtain rfl : p = [] := by simpa using List.mem_rtakeWhile_imp hp
      exact hempty
  · intro h p hp
    rcases List.mem_append.mp hp with hp | hp
    · exact h p ((List.rdropWhile_prefix _ _).subset hp)
    · exact hdelivery p hp

theorem segmentsBelow_cons {p : List Char} (hp : p ≠ []) (ps : List (List Char)) :
    segmentsBelow (p :: ps) = p :: segmentsBelow ps := by
  rw [segmentsBelow, rdropWhile_cons_of_neg (by simpa using hp), List.cons_append, segmentsBelow]

theorem beginsBarred_cons {p : List Char} :
    BeginsBarred (p :: ps) ↔ ∃ c, p = [c, '|'] ∧ isAsciiLetter c = true := by
  simp [BeginsBarred]

/-- In a file the first segment, when it has a character, stays the first. -/
theorem segmentsBelow_file (hwritten : Written scheme ps) (hfile : isFile scheme = true) :
    ∃ p rest, segmentsBelow ps = p :: rest ∧ p ≠ [] ∧
      (BeginsBarred (segmentsBelow ps) ↔ BeginsBarred ps) := by
  rcases hwritten.first hfile with rfl | ⟨p, rest, rfl, hne⟩
  · refine ⟨"v1".toList, ["container-metrics".toList], by decide, by decide, ?_⟩
    have hbelow : segmentsBelow [[]] = ["v1".toList, "container-metrics".toList] := by decide
    rw [hbelow, beginsBarred_cons, beginsBarred_cons]
    simp
  · rw [segmentsBelow_cons hne, beginsBarred_cons, beginsBarred_cons]
    exact ⟨p, segmentsBelow rest, rfl, hne, Iff.rfl⟩

theorem pathBelow_rooted (h : u.path = .rooted (joined ps)) (hwritten : Written u.scheme ps) :
    u.pathBelow = joined (segmentsBelow ps) := by
  rw [pathBelow, h, UrlPath.text, dropEndSlashes_joined hwritten.segment, deliveryPath_eq,
    segmentsBelow, joined_append]

theorem isSegment_segmentsBelow (hwritten : Written scheme ps) :
    ∀ p ∈ segmentsBelow ps, IsSegment (isSpecial scheme) p := by
  have hdelivery : ∀ special, ∀ p ∈ ["v1".toList, "container-metrics".toList],
      (p.all fun c => isPlain special c) = true := by decide
  intro p hp
  rcases List.mem_append.mp hp with hp | hp
  · exact hwritten.segment p ((List.rdropWhile_prefix _ _).subset hp)
  · exact List.all_eq_true.mp (hdelivery _ p hp)

/-- Below a path of segments the path of deliveries reads back as it is, unless the reading changes
what stands before it. -/
theorem withPath_below_rooted (h : u.path = .rooted (joined ps)) (hwritten : Written u.scheme ps) :
    (u.withPath u.pathBelow).path.text = u.pathBelow ↔ ¬ u.Unsettled := by
  have hsegment := isSegment_segmentsBelow hwritten
  rw [withPath_rooted h, pathBelow_rooted h hwritten, unsettled_rooted h hwritten]
  cases hfile : isFile u.scheme with
  | false =>
    obtain ⟨p, rest, hbelow⟩ := List.exists_cons_of_ne_nil (l := segmentsBelow ps)
      (by simp [segmentsBelow])
    rw [hbelow] at hsegment ⊢
    rw [pathAfter_joined_iff _ hsegment (by simp [hfile]), ← hbelow, forall_dots_segmentsBelow]
    simpa [hfile] using hwritten.dots hfile
  | true =>
    obtain ⟨p, rest, hbelow, hne, hbarred⟩ := segmentsBelow_file hwritten hfile
    rw [hbelow] at hsegment ⊢
    rw [pathAfter_joined_iff _ hsegment fun _ => hne, ← hbelow, forall_dots_segmentsBelow, hbarred]
    simp [hfile]

/-- Below a path without structure the path of deliveries reads back as it is, if there is one. -/
theorem withPath_below_plain {t : List Char} (h : u.path = .plain t)
    (hwritten : PathWritten u.scheme u.path) :
    (u.withPath u.pathBelow).path.text = u.pathBelow ↔ ¬ u.Unsettled := by
  rw [h] at hwritten
  obtain ⟨hfile, hhead, hplain⟩ := hwritten
  have hunsettled : u.Unsettled ↔ t = [] := by simp [Unsettled, h, hfile]
  rw [hunsettled, withPath_plain h, pathBelow, h, UrlPath.text]
  cases t with
  | nil => decide
  | cons c t =>
    have hc : c ≠ '/' := by simpa using hhead
    have hdrop : dropEndSlashes (c :: t) = c :: dropEndSlashes t :=
      rdropWhile_cons_of_neg (by simpa using hc) t
    have hdelivery : (deliveryPath.all fun d =>
        decide (d.toNat < 128) && !Percent.isControl d) = true := by decide
    have hbelow : ∀ d ∈ dropEndSlashes (c :: t) ++ deliveryPath,
        d.toNat < 128 ∧ Percent.isControl d = false := by
      intro d hd
      rcases List.mem_append.mp hd with hd | hd
      · exact hplain d ((List.rdropWhile_prefix _ _).subset hd)
      · simpa using List.all_eq_true.mp hdelivery d hd
    rw [hdrop, List.cons_append] at hbelow ⊢
    simp [encode_of_uncoded hbelow, hc]

theorem withPath_below_iff (hwritten : PathWritten u.scheme u.path) :
    (u.withPath u.pathBelow).path.text = u.pathBelow ↔ ¬ u.Unsettled := by
  cases hpath : u.path with
  | rooted t =>
    have hrooted := hwritten
    rw [hpath] at hrooted
    obtain ⟨ps, rfl, hsegments⟩ := hrooted
    exact withPath_below_rooted hpath hsegments
  | plain t => exact withPath_below_plain hpath hwritten

end Url

end ClusterOutbox
