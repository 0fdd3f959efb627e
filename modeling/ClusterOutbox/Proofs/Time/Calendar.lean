import ClusterOutbox.Time.Calendar

namespace ClusterOutbox

namespace Date

/-- The year of a day within an era of four centuries, both counted from the first of March. -/
def yearOfEra (d : Int) : Int := (d - d / 1460 + d / 36524 - d / 146096) / 365

/-- The day of an era on which one of its years begins. -/
def yearStart (y : Int) : Int := 365 * y + y / 4 - y / 100

/-- The month of a day within a year that begins in March. -/
def monthOfYear (d : Int) : Int := (5 * d + 2) / 153

/-- The day of such a year on which one of its months begins. -/
def monthStart (m : Int) : Int := (153 * m + 2) / 5

/-- The month of the calendar: the last two months of a year that begins in March open the next. -/
def civilMonth (m : Int) : Int := if m < 10 then m + 3 else m - 9

variable {d m : Int}

theorem yearOfEra_bounds (h : 0 ≤ d) (hlt : d < 146097) :
    0 ≤ yearOfEra d ∧ yearOfEra d < 400 := by
  unfold yearOfEra
  omega

/-- A day lies within the year that it is counted to. -/
theorem yearStart_yearOfEra (h : 0 ≤ d) (hlt : d < 146097) :
    yearStart (yearOfEra d) ≤ d ∧ d ≤ yearStart (yearOfEra d) + 365 := by
  have hyear := yearOfEra_bounds h hlt
  have hdef : yearOfEra d = (d - d / 1460 + d / 36524 - d / 146096) / 365 := rfl
  generalize yearOfEra d = y at *
  unfold yearStart
  have hleap : y / 4 ≤ d / 1460 := by omega
  -- Within one century the rounding of its days is that of the leap days alone.
  have hcentury : d / 36524 = 0 ∨ d / 36524 = 1 ∨ d / 36524 = 2 ∨ d / 36524 = 3 ∨
      d / 36524 = 4 := by omega
  rcases hcentury with h | h | h | h | h <;> omega

theorem monthOfYear_bounds (h : 0 ≤ d) (hle : d ≤ 365) : 0 ≤ monthOfYear d ∧ monthOfYear d < 12 := by
  unfold monthOfYear
  omega

theorem monthStart_monthOfYear (d : Int) :
    monthStart (monthOfYear d) ≤ d ∧ d ≤ monthStart (monthOfYear d) + 30 := by
  unfold monthStart monthOfYear
  omega

theorem civilMonth_bounds (h : 0 ≤ m) (hlt : m < 12) : 1 ≤ civilMonth m ∧ civilMonth m ≤ 12 := by
  unfold civilMonth
  split <;> omega

/-- The months of the calendar count from March again. -/
theorem civilMonth_back (h : 0 ≤ m) (hlt : m < 12) :
    (((civilMonth m).toNat + 9) % 12 : Nat) = m := by
  unfold civilMonth
  split <;> omega

/-- A day number in parts: the era, the year and the month of a day, and its place in that month. -/
structure Parts (z : Int) where
  era : Int
  year : Int
  month : Int
  day : Int
  year_bounds : 0 ≤ year ∧ year < 400
  month_bounds : 0 ≤ month ∧ month < 12
  day_bounds : 0 ≤ day ∧ day ≤ 30
  days : era * 146097 + yearStart year + monthStart month + day = z + 719468
  date : ofDays z = ⟨year + era * 400 + (if civilMonth month ≤ 2 then 1 else 0),
    (civilMonth month).toNat, (day + 1).toNat⟩

def parts (z : Int) : Parts z :=
  let era := (z + 719468) / 146097
  let dayOfEra := (z + 719468) % 146097
  let dayOfYear := dayOfEra - yearStart (yearOfEra dayOfEra)
  let month := monthOfYear dayOfYear
  have hera : 0 ≤ dayOfEra ∧ dayOfEra < 146097 := by omega
  have hyear := yearStart_yearOfEra hera.1 hera.2
  have hday : 0 ≤ dayOfYear ∧ dayOfYear ≤ 365 := by omega
  have hmonth : monthStart month ≤ dayOfYear ∧ dayOfYear ≤ monthStart month + 30 :=
    monthStart_monthOfYear dayOfYear
  { era, month
    year := yearOfEra dayOfEra
    day := dayOfYear - monthStart month
    year_bounds := yearOfEra_bounds hera.1 hera.2
    month_bounds := monthOfYear_bounds hday.1 hday.2
    day_bounds := by omega
    days := by omega
    date := rfl }

/-- Counting back from a date gives the day number that it came from. -/
theorem toDays_ofDays (z : Int) : (ofDays z).toDays = z := by
  obtain ⟨era, year, month, day, hyear, hmonth, hday, hdays, hdate⟩ := parts z
  have hback := civilMonth_back hmonth.1 hmonth.2
  have hcivil := civilMonth_bounds hmonth.1 hmonth.2
  have hfirst : (civilMonth month).toNat ≤ 2 ↔ civilMonth month ≤ 2 := by omega
  unfold yearStart monthStart at hdays
  rw [hdate]
  simp only [toDays, hback, hfirst]
  split <;> omega

theorem toDays?_ofDays (z : Int) : (ofDays z).toDays? = some z := by
  rw [toDays?, toDays_ofDays, if_pos rfl]

theorem month_ofDays (z : Int) : 1 ≤ (ofDays z).month ∧ (ofDays z).month ≤ 12 := by
  obtain ⟨era, year, month, day, -, hmonth, -, -, hdate⟩ := parts z
  have hcivil := civilMonth_bounds hmonth.1 hmonth.2
  rw [hdate]
  dsimp only
  omega

theorem day_ofDays (z : Int) : 1 ≤ (ofDays z).day ∧ (ofDays z).day ≤ 31 := by
  obtain ⟨era, year, month, day, -, -, hday, -, hdate⟩ := parts z
  rw [hdate]
  dsimp only
  omega

end Date

end ClusterOutbox
