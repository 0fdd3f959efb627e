import ClusterOutbox.Proofs.Url.Path

namespace ClusterOutbox.Url

/-- A path as a reader of addresses leaves it: segments from the root, or a text without structure,
which begins with no slash and is that of no file. -/
def PathWritten (scheme : List Char) : UrlPath → Prop
  | .rooted t => ∃ ps, t = joined ps ∧ Written scheme ps
  | .plain t => isFile scheme = false ∧ t.head? ≠ some '/' ∧
    ∀ c ∈ t, c.toNat < 128 ∧ Percent.isControl c = false

variable {scheme cs : List Char} {u : Url}

theorem pathWritten_followPath (scheme cs : List Char) :
    PathWritten scheme (.rooted (followPath scheme .atRoot cs).1) := by
  obtain ⟨ps, hps, -, hwritten⟩ := exists_followPath scheme cs
  exact ⟨ps, hps, hwritten⟩

theorem pathWritten_pathAfter (scheme cs : List Char) :
    PathWritten scheme (.rooted (pathAfter scheme false cs).1) := exists_pathAfter scheme cs

theorem readAuthority?_path (h : readAuthority? scheme cs = some u) :
    u.scheme = scheme ∧ PathWritten scheme u.path := by
  unfold readAuthority? at h
  obtain ⟨⟨⟨username, password⟩, rest⟩, -, h⟩ := Option.bind_eq_some_iff.mp h
  dsimp only at h
  split at h
  · cases h
  · split at h
    all_goals
      obtain ⟨host, -, h⟩ := Option.bind_eq_some_iff.mp h
      obtain ⟨⟨port, rest⟩, -, h⟩ := Option.bind_eq_some_iff.mp h
      obtain rfl := Option.some.inj h
      exact ⟨rfl, pathWritten_pathAfter scheme _⟩

theorem readFile?_path (h : readFile? scheme cs = some u) :
    u.scheme = scheme ∧ PathWritten scheme u.path := by
  unfold readFile? at h
  dsimp only at h
  split at h
  · split at h
    all_goals
      obtain ⟨host, -, h⟩ := Option.bind_eq_some_iff.mp h
      split at h
      · obtain rfl := Option.some.inj h
        exact ⟨rfl, pathWritten_followPath scheme _⟩
      · obtain rfl := Option.some.inj h
        exact ⟨rfl, pathWritten_pathAfter scheme _⟩
  · obtain rfl := Option.some.inj h
    exact ⟨rfl, pathWritten_followPath scheme _⟩

theorem pathWritten_plain (hfile : isFile scheme = false) (h : cs.head? ≠ some '/') :
    PathWritten scheme (.plain (Percent.encode Percent.isControl cs)) := by
  refine ⟨hfile, ?_, ?_⟩
  · cases cs with
    | nil => simp [Percent.encode]
    | cons c cs =>
      have hc : c ≠ '/' := by simpa using h
      rw [Percent.encode, List.flatMap_cons, Percent.encodeChar, Percent.utf8Bytes_singleton]
      split
      · obtain ⟨b, bs, hb⟩ := List.exists_cons_of_ne_nil (String.utf8EncodeChar_ne_nil (c := c))
        simp [hb, Percent.encodeByte]
      · simpa using hc
  · intro c hc
    have hdigits : ("0123456789ABCDEF".toList.all fun c =>
        decide (c.toNat < 128) && !Percent.isControl c) = true := by decide
    rcases mem_encode hc with ⟨-, hplain⟩ | rfl | hdigit
    · exact hplain
    · decide
    · simpa using List.all_eq_true.mp hdigits c hdigit

theorem exists_of_head?_splitPath {c : Char} (h : (splitPath cs).1.head? = some c) :
    ∃ rest, cs = c :: rest := by
  cases cs with
  | nil => simp [splitPath] at h
  | cons d cs =>
    simp only [splitPath, List.takeWhile_cons] at h
    split at h
    · exact ⟨cs, by rw [Option.some.inj h]⟩
    · cases h

/-- Every address that is read has its path written. -/
theorem pathWritten_parse? {s : String} (h : parse? s = some u) : PathWritten u.scheme u.path := by
  unfold parse? at h
  obtain ⟨⟨scheme, rest⟩, -, h⟩ := Option.bind_eq_some_iff.mp h
  dsimp only at h
  split at h
  · obtain ⟨rfl, hpath⟩ := readFile?_path h
    exact hpath
  next hfile =>
    split at h
    · obtain ⟨rfl, hpath⟩ := readAuthority?_path h
      exact hpath
    · split at h
      · obtain ⟨rfl, hpath⟩ := readAuthority?_path h
        exact hpath
      · obtain rfl := Option.some.inj h
        exact pathWritten_followPath _ _
      next hslash =>
        obtain rfl := Option.some.inj h
        refine pathWritten_plain (Bool.eq_false_iff.mpr hfile) fun hhead => ?_
        obtain ⟨rest, hrest⟩ := exists_of_head?_splitPath hhead
        exact hslash rest hrest

end ClusterOutbox.Url
