import ClusterOutbox.Proofs.Store.Migration

namespace ClusterOutbox

namespace Schema

variable {s : Schema}

/-- The migrations recorded, by version; there are none where there is no table of them. -/
def recorded (s : Schema) : List (Int × String) := (s.history.getD ∅).entries

def versions (s : Schema) : List Int := s.recorded.map (·.1)

/-- The numbers of 32 bits. -/
def IsReadable (version : Int) : Prop := -2147483648 ≤ version ∧ version ≤ 2147483647

/-- The versions are listed in increasing order, so the last one is the greatest. -/
theorem version_eq_max (s : Schema) : s.version = s.versions.max?.getD 0 := by
  have hversion : s.version = (s.recorded.getLast?.map (·.1)).getD 0 := by
    cases h : s.history with
    | none => simp [version, recorded, h]; rfl
    | some m => simp [version, recorded, h]
  have hmax : s.versions.max? = s.recorded.getLast?.map (·.1) := by
    cases hlast : s.recorded.getLast? with
    | none =>
      have hnil : s.recorded = [] := List.getLast?_eq_none_iff.mp hlast
      simp [versions, hnil]
    | some last =>
      obtain ⟨front, hfront⟩ := List.getLast?_eq_some_iff.mp hlast
      have hincreasing := (s.history.getD ∅).increasing
      change s.recorded.Pairwise _ at hincreasing
      rw [hfront] at hincreasing
      refine List.max?_eq_some_iff.mpr ⟨?_, ?_⟩
      · rw [versions, hfront]
        simp
      · intro version hmem
        rw [versions, hfront, List.map_append] at hmem
        rcases List.mem_append.mp hmem with hmem | hmem
        · obtain ⟨e, he, rfl⟩ := List.mem_map.mp hmem
          have hlt := (List.pairwise_append.mp hincreasing).2.2 e he last (by simp)
          exact Int.le_of_lt (Int.compare_eq_lt.mp hlt)
        · obtain rfl : version = last.1 := by simpa using hmem
          exact Int.le_refl _
  rw [hversion, hmax]

theorem unreadable_iff : s.Unreadable ↔ ¬ IsReadable s.version := by
  unfold Unreadable IsReadable
  omega

/-- Only a table of migrations gives a version other than zero. -/
theorem tracked_eq_self (h : s.version ≠ 0) : s.tracked = s := by
  obtain ⟨history, items, taken, saved⟩ := s
  cases history with
  | none => exact absurd rfl h
  | some m => rfl

theorem recorded_migrated (h : s.Due) :
    s.migrated.recorded = s.recorded ++ [(1, "resource_records")] :=
  SortedMap.insertEntry_of_lt (tracked_entries_lt h)

/-- What migrations make of a database whose greatest version is `newest`, or that has none. -/
structure Converges (s : Schema) (newest : Int) : Prop where
  fails_iff : (∃ e, s.migrate.1 = .error e) ↔ ¬ IsReadable newest
  refused : ¬ IsReadable newest → s.migrate =
    (.error (.invalidData (StoreError.columnText 0 ++ ": " ++ intText newest ++ " out of range")), s)
  migrates : IsReadable newest → newest < 1 → ∃ t, s.migrate = (.ok (), t) ∧
    t.recorded = s.recorded ++ [(1, "resource_records")] ∧ t.history.isSome ∧
    t.items = s.items ++ SchemaItem.all ∧ t.taken = s.taken ∧ t.saved = none
  kept : IsReadable newest → 1 ≤ newest → s.migrate = (.ok (), s)
  again : IsReadable newest → ∀ n, (s.after (n + 1)).migrate = (.ok (), s.after 1)

theorem migrate_of_unreadable (h : ¬ IsReadable s.version) : s.migrate = (.error
    (.invalidData (StoreError.columnText 0 ++ ": " ++ intText s.version ++ " out of range")), s) := by
  have hzero : s.version ≠ 0 := fun hzero => h (hzero ▸ ⟨by decide, by decide⟩)
  have hout : s.version < -2147483648 ∨ 2147483647 < s.version := unreadable_iff.mpr h
  rw [migrate_eq, if_pos hout, tracked_eq_self hzero]
  rfl

theorem migrate_of_current (h : IsReadable s.version) (hcurrent : 1 ≤ s.version) :
    s.migrate = (.ok (), s) := by
  have hin : ¬ (s.version < -2147483648 ∨ 2147483647 < s.version) :=
    fun hout => unreadable_iff.mp hout h
  have hdone : ¬ s.version < currentVersion := by
    simp only [currentVersion]
    omega
  rw [migrate_eq, if_neg hin, if_neg hdone, tracked_eq_self (by omega)]

theorem migrate_of_due (hopen : s.inTransaction = false) (hdue : s.Due) (hfree : ¬ s.Blocked) :
    s.migrate = (.ok (), s.migrated) := by
  have hreadable : ¬ s.Unreadable := by
    obtain ⟨hlow, hhigh⟩ := hdue
    simp only [currentVersion] at hhigh
    rintro (h | h) <;> omega
  have houtcome := s.migration_migrate.outcome hopen
  refine Prod.ext ?_ ?_
  all_goals
    generalize s.migrate.1 = result at houtcome
    generalize s.migrate.2 = t at houtcome
    cases houtcome with
    | applied => rfl
    | refused hun => exact absurd hun hreadable
    | kept _ hnot => exact absurd hdue hnot
    | stopped _ hblocked => exact absurd hblocked hfree

/-- One migration brings a database to a state that further ones keep. -/
theorem after_succ (h : (s.after 1).migrate = (.ok (), s.after 1)) (n : Nat) :
    s.after (n + 1) = s.after 1 := by
  induction n with
  | zero => rfl
  | succ n ih => rw [after, ih, h]

/-- Where no title that the first migration needs is taken, migrations converge: a greatest version
of more than 32 bits is refused and nothing changes, one below the first calls for the first migration
alone, and whatever a migration has accepted every further one leaves as it is. -/
theorem migrations_converge (hopen : s.inTransaction = false) (hfree : s.Due → ¬ s.Blocked) :
    s.Converges (s.versions.max?.getD 0) := by
  rw [← version_eq_max]
  have hsaved : s.saved = none := by simpa [inTransaction] using hopen
  have hdue (hin : IsReadable s.version) (hnew : s.version < 1) : s.Due := ⟨hin.1, hnew⟩
  refine ⟨⟨?_, ?_⟩, migrate_of_unreadable, ?_, migrate_of_current, ?_⟩
  · rintro ⟨e, he⟩ hin
    by_cases hnew : s.version < 1
    · rw [migrate_of_due hopen (hdue hin hnew) (hfree (hdue hin hnew))] at he
      cases he
    · rw [migrate_of_current hin (by omega)] at he
      cases he
  · intro hout
    exact ⟨_, congrArg Prod.fst (migrate_of_unreadable hout)⟩
  · intro hin hnew
    refine ⟨s.migrated, migrate_of_due hopen (hdue hin hnew) (hfree (hdue hin hnew)), ?_⟩
    exact ⟨recorded_migrated (hdue hin hnew), rfl, rfl, rfl, hsaved⟩
  · intro hin n
    have hstill : (s.after 1).migrate = (.ok (), s.after 1) := by
      by_cases hnew : s.version < 1
      · have hafter : s.after 1 = s.migrated := congrArg Prod.snd
          (migrate_of_due hopen (hdue hin hnew) (hfree (hdue hin hnew)))
        have hversion := version_migrated (hdue hin hnew)
        rw [hafter]
        refine migrate_of_current ?_ (Int.le_of_eq hversion.symm)
        rw [hversion]
        exact ⟨by decide, by decide⟩
      · have hkept := migrate_of_current hin (by omega)
        have hafter : s.after 1 = s := congrArg Prod.snd hkept
        rw [hafter, hkept]
    rw [after_succ hstill, hstill]

/-- A database with a gap in its history, whose versions are all older than the first migration. -/
def prehistoric : Schema :=
  { empty with history := some ((∅ : SortedMap Int String).insert (-7) "earlier" |>.insert 0 "earlier") }

theorem migrations_converge_prehistoric :
    prehistoric.inTransaction = false ∧ (prehistoric.Due → ¬ prehistoric.Blocked) ∧
      prehistoric.versions = [-7, 0] ∧ prehistoric.Converges 0 := by
  have hfree : prehistoric.Due → ¬ prehistoric.Blocked := by decide +kernel
  exact ⟨rfl, hfree, rfl, migrations_converge rfl hfree⟩

end Schema

end ClusterOutbox
