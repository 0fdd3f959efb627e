import ClusterOutbox.Proofs.SortedMap
import ClusterOutbox.Store.Migration
import Mathlib.Data.List.Nodup

namespace ClusterOutbox

/-- The items of the first migration in the order of their creation. -/
def SchemaItem.all : List SchemaItem := [.records, .identityIndex, .sentAtIndex, .updatedIndex]

namespace Schema

variable {s : Schema} {items : List SchemaItem}

/-- The database once it has a table of migrations. -/
def tracked (s : Schema) : Schema := { s with history := some (s.history.getD ∅) }

def adding (items : List SchemaItem) (s : Schema) : Schema := { s with items := s.items ++ items }

/-- The version recorded is no number of 32 bits. -/
def Unreadable (s : Schema) : Prop := s.version < -2147483648 ∨ 2147483647 < s.version

/-- The version recorded is one that calls for the first migration. -/
def Due (s : Schema) : Prop := -2147483648 ≤ s.version ∧ s.version < currentVersion

/-- A title that the first migration needs is taken. -/
def Blocked (s : Schema) : Prop := ∃ item ∈ SchemaItem.all, s.isTaken item = true

instance (s : Schema) : Decidable s.Due := inferInstanceAs (Decidable (_ ∧ _))

instance (s : Schema) : Decidable s.Blocked :=
  inferInstanceAs (Decidable (∃ item ∈ SchemaItem.all, _))

/-- The database after the first migration. -/
def migrated (s : Schema) : Schema :=
  { s.adding SchemaItem.all with
    history := some ((s.history.getD ∅).insert 1 "resource_records") }

/-- The database in the middle of the first migration, which has come to a title that is taken. -/
def halted (s : Schema) : Schema :=
  { s.tracked.adding (SchemaItem.all.takeWhile fun item => !s.isTaken item) with
    saved := some s.items }

/-- The database without what an open transaction has done. -/
def restored (s : Schema) : Schema :=
  match s.saved with
  | some items => { s with items, saved := none }
  | none => s

theorem restored_tracked (h : s.inTransaction = false) : s.tracked.restored = s.tracked := by
  have hsaved : s.saved = none := by simpa [inTransaction] using h
  simp [restored, tracked, hsaved]

theorem restored_halted (h : s.inTransaction = false) : s.halted.restored = s.tracked := by
  have hsaved : s.saved = none := by simpa [inTransaction] using h
  simp [halted, restored, tracked, adding, hsaved]

theorem version_tracked (s : Schema) : s.tracked.version = s.version := by
  cases h : s.history with
  | none => simp [version, tracked, h]; rfl
  | some m => simp [version, tracked, h]

theorem adding_adding (a b : List SchemaItem) (s : Schema) :
    (s.adding a).adding b = s.adding (a ++ b) := by
  simp [adding, List.append_assoc]

theorem isTaken_adding {item : SchemaItem} (h : item ∉ items) :
    (s.adding items).isTaken item = s.isTaken item := by
  have hitems : (s.items ++ items).contains item = s.items.contains item := by
    simp [List.contains_eq_mem, h]
  simp only [isTaken, adding, hitems]

theorem runAll_cons_ok {f : Schema → Except EngineError Unit × Schema} {t : Schema}
    (h : f s = (.ok (), t)) (rest : List (Schema → Except EngineError Unit × Schema)) :
    s.runAll (f :: rest) = t.runAll rest := by
  rw [runAll, h]

theorem runAll_cons_error {f : Schema → Except EngineError Unit × Schema} {t : Schema}
    {e : EngineError} (h : f s = (.error e, t))
    (rest : List (Schema → Except EngineError Unit × Schema)) :
    s.runAll (f :: rest) = (.error e, t) := by
  rw [runAll, h]

def creations (items : List SchemaItem) : List (Schema → Except EngineError Unit × Schema) :=
  items.map fun item s => s.create item

theorem takeWhile_congr {α : Type} {p q : α → Bool} {as : List α} (h : ∀ a ∈ as, p a = q a) :
    as.takeWhile p = as.takeWhile q := by
  induction as with
  | nil => rfl
  | cons a as ih =>
    rw [List.takeWhile_cons, List.takeWhile_cons, h a (by simp),
      ih fun b hb => h b (List.mem_cons_of_mem a hb)]

/-- Items are created up to the first whose title is taken. -/
theorem runAll_creations (items : List SchemaItem)
    (rest : List (Schema → Except EngineError Unit × Schema)) (hnodup : items.Nodup) :
    ((∀ item ∈ items, s.isTaken item = false) ∧
      s.runAll (creations items ++ rest) = (s.adding items).runAll rest) ∨
    ((∃ item ∈ items, s.isTaken item = true) ∧
      ∃ e, s.runAll (creations items ++ rest) =
        (.error e, s.adding (items.takeWhile fun item => !s.isTaken item))) := by
  induction items generalizing s with
  | nil =>
    left
    exact ⟨by simp, by simp [creations, adding]⟩
  | cons item items ih =>
    obtain ⟨hnew, hnodup⟩ := List.nodup_cons.mp hnodup
    cases htaken : s.isTaken item with
    | true =>
      right
      have hcreate : s.create item = (.error (Database.plainError
          (item.kind ++ " " ++ item.title ++ " already exists")), s) := by
        rw [create, if_pos htaken]
      have hnone : s.adding ((item :: items).takeWhile fun item => !s.isTaken item) = s := by
        simp [htaken, adding]
      rw [hnone]
      exact ⟨⟨item, by simp, htaken⟩, _, runAll_cons_error hcreate _⟩
    | false =>
      have hcreate : s.create item = (.ok (), s.adding [item]) := by
        rw [create, if_neg (by simp [htaken])]
        rfl
      have hrun : s.runAll (creations (item :: items) ++ rest) =
          (s.adding [item]).runAll (creations items ++ rest) := runAll_cons_ok hcreate _
      -- What has just been created takes no title of the items that follow.
      have hsame : ∀ other ∈ items, (s.adding [item]).isTaken other = s.isTaken other := by
        intro other hother
        refine isTaken_adding ?_
        rw [List.mem_singleton]
        rintro rfl
        exact hnew hother
      rcases ih (s := s.adding [item]) hnodup with ⟨hfree, hrest⟩ | ⟨⟨other, hother, ht⟩, e, hrest⟩
      · left
        refine ⟨?_, ?_⟩
        · intro other hother
          rcases List.mem_cons.mp hother with rfl | hother
          · exact htaken
          · rw [← hsame other hother]
            exact hfree other hother
        · rw [hrun, hrest, adding_adding, List.singleton_append]
      · right
        refine ⟨⟨other, List.mem_cons_of_mem _ hother, hsame other hother ▸ ht⟩, e, ?_⟩
        have hwhile : items.takeWhile (fun other => !(s.adding [item]).isTaken other) =
            items.takeWhile fun other => !s.isTaken other :=
          takeWhile_congr fun other hother => by rw [hsame other hother]
        rw [hrun, hrest, adding_adding, hwhile]
        simp [htaken]

theorem entries_lt {h : SortedMap Int String} (hs : s.history = some h) (hv : s.version < 1) :
    ∀ e ∈ h.entries, compare e.1 1 = .lt := by
  intro e he
  obtain ⟨last, hlast⟩ : ∃ last, h.entries.getLast? = some last := by
    cases hl : h.entries.getLast? with
    | none => simp [List.getLast?_eq_none_iff.mp hl] at he
    | some last => exact ⟨last, rfl⟩
  have hversion : last.1 < 1 := by simpa [version, hs, hlast] using hv
  obtain ⟨front, hfront⟩ := List.getLast?_eq_some_iff.mp hlast
  have hincreasing := h.increasing
  rw [hfront] at he hincreasing
  rcases List.mem_append.mp he with he | he
  · have hlt : e.1 < last.1 :=
      Int.compare_eq_lt.mp ((List.pairwise_append.mp hincreasing).2.2 e he last (by simp))
    exact Int.compare_eq_lt.mpr (by omega)
  · obtain rfl := List.mem_singleton.mp he
    exact Int.compare_eq_lt.mpr hversion

theorem tracked_entries_lt (h : s.Due) :
    ∀ e ∈ (s.history.getD ∅).entries, compare e.1 1 = .lt :=
  entries_lt (s := s.tracked) rfl (by rw [version_tracked]; exact h.2)

theorem version_migrated (h : s.Due) : s.migrated.version = 1 := by
  have hentries : ((s.history.getD ∅).insert 1 "resource_records").entries =
      (s.history.getD ∅).entries ++ [(1, "resource_records")] :=
    SortedMap.insertEntry_of_lt (tracked_entries_lt h)
  simp [version, migrated, hentries]

/-- What one migration comes to. -/
inductive Migration (s : Schema) : Except StoreError Unit → Schema → Prop
  | unreadable {e : StoreError} : s.Unreadable → Migration s (.error e) s.tracked
  | current : ¬ s.Unreadable → ¬ s.Due → Migration s (.ok ()) s.tracked
  | applied : s.Due → s.inTransaction = false → ¬ s.Blocked → Migration s (.ok ()) s.migrated
  | blocked {e : StoreError} : s.Due → s.inTransaction = false → s.Blocked →
    Migration s (.error e) s.halted
  | nested {e : StoreError} : s.Due → s.inTransaction = true → Migration s (.error e) s.tracked

theorem migrate_eq (s : Schema) : s.migrate =
    if s.version < -2147483648 ∨ 2147483647 < s.version then
      (.error (.ofEngine (.outOfRange 0 s.version)), s.tracked)
    else if s.version < currentVersion then
      ((s.tracked.runAll firstMigration).1.mapError StoreError.ofEngine,
        (s.tracked.runAll firstMigration).2)
    else (.ok (), s.tracked) := by
  rw [← version_tracked]
  rfl

theorem migration_due (h : s.Due) :
    s.Migration ((s.tracked.runAll firstMigration).1.mapError StoreError.ofEngine)
      (s.tracked.runAll firstMigration).2 := by
  have hstatements : firstMigration =
      begin_ :: (creations SchemaItem.all ++ [commit, record]) := rfl
  rw [hstatements]
  cases hopen : s.inTransaction with
  | true =>
    have hbegin : s.tracked.begin_ = (.error (Database.plainError
        "cannot start a transaction within a transaction"), s.tracked) := by
      rw [begin_]
      exact if_pos hopen
    rw [runAll_cons_error hbegin]
    exact .nested h hopen
  | false =>
    let begun : Schema := { s.tracked with saved := some s.items }
    have hbegin : s.tracked.begin_ = (.ok (), begun) := by
      rw [begin_]
      exact if_neg (Bool.eq_false_iff.mp hopen)
    rw [runAll_cons_ok hbegin]
    rcases runAll_creations (s := begun) SchemaItem.all [commit, record] (by decide)
      with ⟨hfree, hrun⟩ | ⟨htaken, e, hrun⟩
    · have hcommit : (begun.adding SchemaItem.all).commit =
          (.ok (), s.tracked.adding SchemaItem.all) := by
        have hsaved : s.saved = none := by simpa [inTransaction] using hopen
        simp [commit, inTransaction, begun, adding, tracked, hsaved]
      have hrecord : (s.tracked.adding SchemaItem.all).record = (.ok (), s.migrated) := by
        have hnew := SortedMap.get?_of_lt (tracked_entries_lt h)
        simp [record, adding, tracked, migrated, hnew]
      rw [hrun, runAll_cons_ok hcommit, runAll_cons_ok hrecord]
      refine .applied h hopen ?_
      rintro ⟨item, hitem, htaken⟩
      exact Bool.false_ne_true ((hfree item hitem).symm.trans htaken)
    · rw [hrun]
      exact .blocked h hopen htaken

theorem migration_migrate (s : Schema) : s.Migration s.migrate.1 s.migrate.2 := by
  rw [migrate_eq]
  split
  next hunreadable => exact .unreadable hunreadable
  next hreadable =>
    split
    next hdue => exact migration_due ⟨by omega, hdue⟩
    next hcurrent => exact .current hreadable fun hdue => hcurrent hdue.2

/-- The database after some migrations, whatever they come to. -/
def after (s : Schema) : Nat → Schema
  | 0 => s
  | n + 1 => (s.after n).migrate.2

/-- What each of several migrations comes to, told from the database before the first. -/
inductive Outcome (s : Schema) : Except StoreError Unit → Schema → Prop
  | refused {e : StoreError} : s.Unreadable → Outcome s (.error e) s.tracked
  | kept : ¬ s.Unreadable → ¬ s.Due → Outcome s (.ok ()) s.tracked
  | applied : s.Due → ¬ s.Blocked → Outcome s (.ok ()) s.migrated
  | stopped {e : StoreError} : s.Due → s.Blocked → Outcome s (.error e) s.halted

theorem Migration.outcome {result : Except StoreError Unit} {t : Schema}
    (h : s.Migration result t) (hs : s.inTransaction = false) : s.Outcome result t := by
  cases h with
  | unreadable hunreadable => exact .refused hunreadable
  | current hreadable hcurrent => exact .kept hreadable hcurrent
  | applied hdue _ hfree => exact .applied hdue hfree
  | blocked hdue _ hblocked => exact .stopped hdue hblocked
  | nested _ hopen => exact absurd (hs.symm.trans hopen) Bool.false_ne_true

theorem Migration.tracked {result : Except StoreError Unit} {t : Schema}
    (h : s.tracked.Migration result t) (hdue : ¬ s.Due) : s.Outcome result t := by
  have hversion := version_tracked s
  cases h with
  | unreadable hunreadable => exact .refused (by rwa [Unreadable, hversion] at hunreadable)
  | current hreadable _ => exact .kept (by rwa [Unreadable, hversion] at hreadable) hdue
  | applied hdue' | blocked hdue' | nested hdue' =>
    rw [Due, hversion] at hdue'
    exact absurd hdue' hdue

theorem Migration.migrated {result : Except StoreError Unit} {t : Schema}
    (h : s.migrated.Migration result t) (hdue : s.Due) : result = .ok () ∧ t = s.migrated := by
  have hversion := version_migrated hdue
  have hcurrent : ¬ s.migrated.Due := by simp [Due, hversion, currentVersion]
  cases h with
  | unreadable hunreadable => simp [Unreadable, hversion] at hunreadable
  | current => exact ⟨rfl, rfl⟩
  | applied hdue' | blocked hdue' | nested hdue' => exact absurd hdue' hcurrent

theorem Migration.halted {result : Except StoreError Unit} {t : Schema}
    (h : s.halted.Migration result t) (hdue : s.Due) : (∃ e, result = .error e) ∧ t = s.halted := by
  have hversion : s.halted.version = s.version := version_tracked s
  have hopen : s.halted.inTransaction = true := rfl
  cases h with
  | unreadable => exact ⟨⟨_, rfl⟩, rfl⟩
  | current _ hcurrent =>
    rw [Due, hversion] at hcurrent
    exact absurd hdue hcurrent
  | applied _ hclosed | blocked _ hclosed =>
    exact absurd (hclosed.symm.trans hopen) Bool.false_ne_true
  | nested => exact ⟨⟨_, rfl⟩, rfl⟩

/-- What any number of migrations comes to is known from the database before the first. -/
theorem outcome_after (hs : s.inTransaction = false) (n : Nat) :
    s.Outcome (s.after n).migrate.1 (s.after (n + 1)) := by
  induction n with
  | zero => exact s.migration_migrate.outcome hs
  | succ n ih =>
    have hnext : (s.after (n + 1)).Migration (s.after (n + 1)).migrate.1 (s.after (n + 2)) :=
      migration_migrate _
    generalize (s.after n).migrate.1 = previous at ih
    generalize (s.after (n + 1)).migrate.1 = result at hnext ⊢
    generalize s.after (n + 1) = t at ih hnext
    cases ih with
    | refused hunreadable =>
      refine hnext.tracked ?_
      rintro ⟨hlow, hhigh⟩
      rcases hunreadable with h | h
      all_goals simp only [currentVersion] at hhigh
      all_goals omega
    | kept _ hcurrent => exact hnext.tracked hcurrent
    | applied hdue hfree =>
      obtain ⟨rfl, ht⟩ := hnext.migrated hdue
      rw [ht]
      exact .applied hdue hfree
    | stopped hdue hblocked =>
      obtain ⟨⟨e, rfl⟩, ht⟩ := hnext.halted hdue
      rw [ht]
      exact .stopped hdue hblocked

/-- A migration leaves its transaction open exactly where the first migration is due and one of its
titles is taken. It fails there, or where the version does not read, and then only the transaction
left open keeps the database from being as it was. -/
theorem migration_left_open_iff (hs : s.inTransaction = false) (n : Nat) :
    ((s.after n).migrate.2.inTransaction = true ↔ s.Due ∧ s.Blocked) ∧
    ((∃ e, (s.after n).migrate.1 = .error e) ↔ s.Unreadable ∨ s.Due ∧ s.Blocked) ∧
    ∀ e, (s.after n).migrate.1 = .error e →
      (s.after n).migrate.2 = (if s.Due then s.halted else s.tracked) ∧
        (s.after n).migrate.2.restored = s.tracked := by
  have houtcome : s.Outcome (s.after n).migrate.1 (s.after n).migrate.2 := outcome_after hs n
  generalize (s.after n).migrate.1 = result at houtcome
  generalize (s.after n).migrate.2 = t at houtcome
  have hclosed : s.tracked.inTransaction = false := hs
  have hexclusive : s.Unreadable → ¬ s.Due := by
    rintro (h | h) ⟨hlow, hhigh⟩
    all_goals simp only [currentVersion] at hhigh
    all_goals omega
  cases houtcome with
  | refused hunreadable =>
    have hcurrent := hexclusive hunreadable
    simp [hclosed, hunreadable, hcurrent, restored_tracked hs]
  | kept hreadable hcurrent => simp [hclosed, hreadable, hcurrent]
  | applied hdue hfree =>
    have hreadable : ¬ s.Unreadable := fun h => hexclusive h hdue
    have hdone : s.migrated.inTransaction = false := hs
    simp [hdone, hreadable, hfree]
  | stopped hdue hblocked =>
    have hopen : s.halted.inTransaction = true := rfl
    simp [hopen, hdue, hblocked, restored_halted hs]

/-- A database where a title of the first migration is taken by something else. -/
def occupied (title : String) : Schema := { empty with taken := [title] }

theorem migration_left_open_iff_occupied :
    let s := occupied "idx_resource_records_sent_at"
    s.inTransaction = false ∧
      ((s.after 1).migrate.2.inTransaction = true ↔ s.Due ∧ s.Blocked) ∧
      ((∃ e, (s.after 1).migrate.1 = .error e) ↔ s.Unreadable ∨ s.Due ∧ s.Blocked) ∧
      (∀ e, (s.after 1).migrate.1 = .error e →
        (s.after 1).migrate.2 = (if s.Due then s.halted else s.tracked) ∧
          (s.after 1).migrate.2.restored = s.tracked) ∧
      s.Due ∧ s.Blocked ∧ s.halted.items = [.records, .identityIndex] := by
  intro s
  obtain ⟨hopen, herror, hstate⟩ := migration_left_open_iff (s := s) rfl 1
  exact ⟨rfl, hopen, herror, hstate, by decide +kernel, by decide +kernel, by decide +kernel⟩

/-- With the title of the table taken a migration fails and leaves its transaction open; with that of
an index taken its table is there as well, as far as the connection sees. -/
theorem occupied_migration_stays_open :
    ((occupied "resource_records").inTransaction = false ∧
      (occupied "resource_records").migrate.1 =
        .error (.engine 1 (some "table resource_records already exists")) ∧
      (occupied "resource_records").migrate.2.inTransaction = true) ∧
    (occupied "idx_resource_records_sent_at").inTransaction = false ∧
      (occupied "idx_resource_records_sent_at").migrate.1 =
        .error (.engine 1 (some "index idx_resource_records_sent_at already exists")) ∧
      (occupied "idx_resource_records_sent_at").migrate.2.inTransaction = true ∧
      (occupied "idx_resource_records_sent_at").migrate.2.items = [.records, .identityIndex] := by
  refine ⟨⟨rfl, ?_, ?_⟩, rfl, ?_, ?_, ?_⟩
  all_goals decide +kernel

end Schema

end ClusterOutbox
