import ClusterOutbox.Proofs.Text.Blank
import ClusterOutbox.Proofs.Time.Calendar
import ClusterOutbox.Time.Rfc3339

namespace ClusterOutbox.Rfc3339

variable {ds rest : List Char} {width n : Nat}

/-- Digits read back before a character that is none, or where there is no room for another one. -/
theorem readDigits_append (hne : ds ≠ []) (h : ds.all isDecimalDigit = true)
    (hroom : ds.length ≤ width)
    (hstop : ds.length = width ∨ ∀ c ∈ rest.head?, isDecimalDigit c = false) :
    readDigits width (ds ++ rest) = some (digitsValue ds, rest) := by
  have htaken : ((ds ++ rest).take width).takeWhile isDecimalDigit = ds := by
    rw [List.take_append, List.take_of_length_le hroom]
    rcases hstop with hfull | hstop
    · rw [hfull, Nat.sub_self, List.take_zero]
      exact (takeWhile_digits h (by simp)).1
    · refine (takeWhile_digits h ?_).1
      intro c hc
      cases rest with
      | nil => simp at hc
      | cons d rest =>
        cases hk : width - ds.length with
        | zero => simp [hk] at hc
        | succ k => exact hstop c (by simpa [hk] using hc)
  simp only [readDigits, htaken, if_neg hne, List.drop_left]

theorem stops_at {mark : Char} (h : isDecimalDigit mark = false) (rest : List Char) :
    ∀ c ∈ (mark :: rest).head?, isDecimalDigit c = false := by
  intro c hc
  rwa [← Option.some.inj hc]

theorem dropWhile_isBlank_append (hne : ds ≠ []) (h : ds.all isDecimalDigit = true) :
    (ds ++ rest).dropWhile isBlank = ds ++ rest := by
  refine dropWhile_isBlank ?_
  intro c hc
  obtain ⟨d, ds, rfl⟩ := List.exists_cons_of_ne_nil hne
  obtain rfl : d = c := by simpa using hc
  exact digit_not_blank (List.all_eq_true.mp h d List.mem_cons_self)

theorem fixedDigits_ne_nil (width n : Nat) : fixedDigits (width + 1) n ≠ [] := by
  simp [fixedDigits]

/-- A number of two digits reads back within the bounds that it keeps. -/
theorem readField_fixedDigits {low high : Nat} (hlow : low ≤ n) (hhigh : n ≤ high)
    (hlt : high < 100) (rest : List Char) :
    readField low high (fixedDigits 2 n ++ rest) = some (n, rest) := by
  have hdigits := all_fixedDigits 2 n
  have hne := fixedDigits_ne_nil 1 n
  have hvalue : digitsValue (fixedDigits 2 n) = n := by
    rw [digitsValue_fixedDigits]
    exact Nat.mod_eq_of_lt (show n < 100 by omega)
  have hlength := length_fixedDigits 2 n
  rw [readField, dropWhile_isBlank_append hne hdigits,
    readDigits_append hne hdigits (Nat.le_of_eq hlength) (.inl hlength), hvalue]
  exact if_pos ⟨hlow, hhigh⟩

theorem readMark_cons {mark : Char} (h : isBlank mark = false) (rest : List Char) :
    readMark mark (mark :: rest) = some rest := by
  rw [readMark, List.dropWhile_cons, h, if_neg Bool.false_ne_true]
  exact if_pos rfl

/-- Digits that no sign precedes are a year of at most four. -/
theorem readYear_digits (hne : ds ≠ []) (h : ds.all isDecimalDigit = true) (hfour : ds.length = 4)
    (rest : List Char) : readYear (ds ++ rest) = some ((digitsValue ds : Int), rest) := by
  have hread : readDigits 4 (ds ++ rest) = some (digitsValue ds, rest) :=
    readDigits_append hne h (Nat.le_of_eq hfour) (.inl hfour)
  rw [readYear, dropWhile_isBlank_append hne h]
  obtain ⟨d, ds, rfl⟩ := List.exists_cons_of_ne_nil hne
  obtain ⟨hlow, hhigh⟩ := digit_range (List.all_eq_true.mp h d List.mem_cons_self)
  split
  next heq =>
    obtain rfl : d = '-' := (List.cons.inj heq).1
    exact absurd hlow (by decide)
  next heq =>
    obtain rfl : d = '+' := (List.cons.inj heq).1
    exact absurd hlow (by decide)
  next => rw [hread, Option.map_some]

/-- A year reads back before the mark that follows it. -/
theorem readYear_yearText (y : Int) (rest : List Char) :
    readYear (yearText y ++ '-' :: rest) = some (y, '-' :: rest) := by
  unfold yearText
  split
  next hcommon =>
    have hvalue : digitsValue (fixedDigits 4 y.toNat) = y.toNat := by
      rw [digitsValue_fixedDigits]
      exact Nat.mod_eq_of_lt (show y.toNat < 10000 by omega)
    have hyear : ((y.toNat : Nat) : Int) = y := Int.toNat_of_nonneg hcommon.1
    rw [readYear_digits (fixedDigits_ne_nil 3 y.toNat) (all_fixedDigits 4 y.toNat)
      (length_fixedDigits 4 y.toNat), hvalue, hyear]
  next hcommon =>
    have hstop := stops_at (show isDecimalDigit '-' = false by decide) rest
    have hread : readDigits (paddedDigits 4 y.natAbs ++ '-' :: rest).length
        (paddedDigits 4 y.natAbs ++ '-' :: rest) = some (y.natAbs, '-' :: rest) := by
      rw [readDigits_append (paddedDigits_ne_nil 4 y.natAbs) (all_paddedDigits 4 y.natAbs)
        (by rw [List.length_append]; exact Nat.le_add_right _ _) (.inr hstop),
        digitsValue_paddedDigits]
    by_cases hneg : y < 0
    · have hyear : -((y.natAbs : Nat) : Int) = y := by omega
      rw [if_pos hneg, List.cons_append, readYear, List.dropWhile_cons, if_neg (by decide)]
      simp only [hread, Option.map_some, hyear]
    · have hyear : ((y.natAbs : Nat) : Int) = y := by omega
      rw [if_neg hneg, List.cons_append, readYear, List.dropWhile_cons, if_neg (by decide)]
      simp only [hread, Option.map_some, hyear]

/-- The point and the digits of a fraction of a second read back as nanoseconds. -/
theorem readFraction_digits {zeros : Nat} (hwidth : width + 1 + zeros = 9)
    (hn : n < Nat.pow 10 (width + 1)) (hstop : ∀ c ∈ rest.head?, isDecimalDigit c = false) :
    readFraction ('.' :: (fixedDigits (width + 1) n ++ rest)) =
      some (n * Nat.pow 10 zeros, rest) := by
  have hdigits := all_fixedDigits (width + 1) n
  have hlength := length_fixedDigits (width + 1) n
  have hread := readDigits_append (fixedDigits_ne_nil width n) hdigits
    (show (fixedDigits (width + 1) n).length ≤ 9 by omega) (.inr hstop)
  have hrest : rest.dropWhile isDecimalDigit = rest :=
    (takeWhile_digits (show [].all isDecimalDigit = true from rfl) hstop).2
  have hzeros : 9 - ((fixedDigits (width + 1) n ++ rest).length - rest.length) = zeros := by
    rw [List.length_append, hlength]
    omega
  simp only [readFraction, hread, hrest, hzeros, digitsValue_fixedDigits, Nat.mod_eq_of_lt hn]

theorem readFraction_fractionText (hn : n < 1000000000) :
    readFraction (fractionText n ++ ['Z']) = some (n, ['Z']) := by
  have hstop := stops_at (show isDecimalDigit 'Z' = false by decide) []
  unfold fractionText
  split
  next hzero =>
    subst hzero
    rfl
  split
  next hmillis =>
    have hback : n / 1000000 * Nat.pow 10 6 = n := by
      rw [show Nat.pow 10 6 = 1000000 from rfl]
      omega
    rw [List.cons_append, readFraction_digits (show 2 + 1 + 6 = 9 from rfl)
      (show n / 1000000 < 1000 by omega) hstop, hback]
  split
  next hmicros =>
    have hback : n / 1000 * Nat.pow 10 3 = n := by
      rw [show Nat.pow 10 3 = 1000 from rfl]
      omega
    rw [List.cons_append, readFraction_digits (show 5 + 1 + 3 = 9 from rfl)
      (show n / 1000 < 1000000 by omega) hstop, hback]
  next =>
    rw [List.cons_append, readFraction_digits (show 8 + 1 + 0 = 9 from rfl) hn hstop]
    exact congrArg (fun m => some (m, ['Z'])) (Nat.mul_one n)

theorem bind_of_eq {α β : Type} {o : Option α} {a : α} (h : o = some a) (f : α → Option β) :
    (o >>= f) = f a := by
  rw [h]
  rfl

theorem ofParts?_self (t : Stamp) : Stamp.ofParts? t.seconds t.nanos = some t := by
  rw [Stamp.ofParts?, dif_pos ⟨⟨t.first_le, t.le_last⟩, t.nanos_lt, t.leap_ends_minute⟩]

/-- A time of day and the day are the seconds of a time, and a sixtieth second stands for a leap
second after the last one of its minute. -/
theorem ofParts?_timeOfDay (t : Stamp) :
    let second := (t.seconds % 86400).toNat
    let shown := second % 60 + t.nanos / 1000000000
    Stamp.ofParts? (t.seconds / 86400 * 86400 + (second / 3600 : Nat) * 3600 +
        (second / 60 % 60 : Nat) * 60 + (shown - shown / 60 : Nat))
      (shown / 60 * 1000000000 + t.nanos % 1000000000) = some t := by
  intro second shown
  have hnanos := t.nanos_lt
  have hleap := t.leap_ends_minute
  have hminute : t.nanos / 1000000000 = 0 ∨ t.nanos / 1000000000 = 1 ∧ second % 60 = 59 := by omega
  have hcarry : shown / 60 = t.nanos / 1000000000 := by omega
  have hshown : shown - t.nanos / 1000000000 = second % 60 := Nat.add_sub_cancel _ _
  have hseconds : t.seconds / 86400 * 86400 + (second / 3600 : Nat) * 3600 +
      (second / 60 % 60 : Nat) * 60 + (second % 60 : Nat) = t.seconds := by omega
  rw [hcarry, hshown, hseconds, Nat.div_add_mod', ofParts?_self]

/-- A time reads back from its text to the nanosecond, from the first year of the calendar to the
last; one in a leap second too. -/
theorem read_write (t : Stamp) : read (write t) = some t := by
  have hnanos := t.nanos_lt
  have hleap := t.leap_ends_minute
  let date := Date.ofDays (t.seconds / 86400)
  let second := (t.seconds % 86400).toNat
  have hsecond : second < 86400 := by omega
  have hmonth : 1 ≤ date.month ∧ date.month ≤ 12 := Date.month_ofDays _
  have hday : 1 ≤ date.day ∧ date.day ≤ 31 := Date.day_ofDays _
  have hdays : Date.toDays? ⟨date.year, date.month, date.day⟩ = some (t.seconds / 86400) :=
    Date.toDays?_ofDays _
  have hfraction := readFraction_fractionText (show t.nanos % 1000000000 < 1000000000 by omega)
  have hoffset : readOffset (['Z'].dropWhile isBlank) = some (0, []) := by decide
  have hwrite : write t = yearText date.year ++ '-' :: (fixedDigits 2 date.month ++
      '-' :: (fixedDigits 2 date.day ++ 'T' :: (fixedDigits 2 (second / 3600) ++
      ':' :: (fixedDigits 2 (second / 60 % 60) ++
      ':' :: (fixedDigits 2 (second % 60 + t.nanos / 1000000000) ++
        (fractionText (t.nanos % 1000000000) ++ ['Z'])))))) := by
    simp only [write, date, second, List.append_assoc, List.cons_append]
  rw [hwrite]
  -- Each part is read off the front and leaves the rest.
  refine (bind_of_eq (readYear_yearText _ _) _).trans ?_
  refine (bind_of_eq (readMark_cons (by decide) _) _).trans ?_
  refine (bind_of_eq (readField_fixedDigits hmonth.1 hmonth.2 (by decide) _) _).trans ?_
  refine (bind_of_eq (readMark_cons (by decide) _) _).trans ?_
  refine (bind_of_eq (readField_fixedDigits hday.1 hday.2 (by decide) _) _).trans ?_
  refine (if_pos (.inl rfl)).trans ?_
  refine (bind_of_eq (readField_fixedDigits (Nat.zero_le _) (by omega) (by decide) _) _).trans ?_
  refine (bind_of_eq (readMark_cons (by decide) _) _).trans ?_
  refine (bind_of_eq (readField_fixedDigits (Nat.zero_le _) (by omega) (by decide) _) _).trans ?_
  refine (bind_of_eq (readMark_cons (by decide) _) _).trans ?_
  refine (bind_of_eq (readField_fixedDigits (Nat.zero_le _) (by omega) (by decide) _) _).trans ?_
  refine (bind_of_eq hfraction _).trans ?_
  refine (bind_of_eq hoffset _).trans ?_
  refine (if_neg (by decide)).trans ?_
  refine (bind_of_eq hdays _).trans ?_
  refine (bind_of_eq (ofParts?_timeOfDay t) _).trans ?_
  rw [Int.sub_zero, ofParts?_self]

/-- The leap second after the last minute of the calendar, to its last nanosecond. -/
example : String.ofList (write ⟨8210266876799, 1999999999, by decide, by decide, by decide, by decide⟩) =
    "+262142-12-31T23:59:60.999999999Z" := by decide +kernel

end ClusterOutbox.Rfc3339
