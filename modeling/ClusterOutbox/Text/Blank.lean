namespace ClusterOutbox

/-- The characters with the White_Space property of Unicode. -/
def isBlank (c : Char) : Bool :=
  let n := c.toNat
  (9 ≤ n && n ≤ 13) || n == 0x20 || n == 0x85 || n == 0xA0 || n == 0x1680 ||
    (0x2000 ≤ n && n ≤ 0x200A) || n == 0x2028 || n == 0x2029 || n == 0x202F || n == 0x205F ||
    n == 0x3000

/-- Drops the blanks at both ends of a list of characters. -/
def trimBlanks (cs : List Char) : List Char :=
  ((cs.dropWhile isBlank).reverse.dropWhile isBlank).reverse

/-- A text without the blanks at its two ends. -/
def trimText (s : String) : String :=
  String.ofList (trimBlanks s.toList)

theorem trimBlanks_eq_nil_iff {cs : List Char} :
    trimBlanks cs = [] ↔ ∀ c ∈ cs, isBlank c = true := by
  have drop_nil : ∀ xs : List Char, xs.dropWhile isBlank = [] ↔ ∀ c ∈ xs, isBlank c = true := by
    intro xs
    induction xs with
    | nil => simp
    | cons x xs ih =>
      by_cases hx : isBlank x = true
      · simp [hx, ih]
      · simp [hx]
  constructor
  · intro h
    have hr : (cs.dropWhile isBlank).reverse.dropWhile isBlank = [] := by
      simpa [trimBlanks] using h
    have hall := (drop_nil _).mp hr
    have hsplit := List.takeWhile_append_dropWhile (p := isBlank) (l := cs)
    intro c hc
    rw [← hsplit] at hc
    rcases List.mem_append.mp hc with hc | hc
    · have := List.all_takeWhile (p := isBlank) (l := cs)
      exact List.all_eq_true.mp this c hc
    · exact hall c (List.mem_reverse.mpr hc)
  · intro h
    simp [trimBlanks, (drop_nil cs).mpr h]

/-- Whether a text has only blanks, the empty text included. -/
def isBlankText (s : String) : Bool :=
  s.toList.all isBlank

end ClusterOutbox
