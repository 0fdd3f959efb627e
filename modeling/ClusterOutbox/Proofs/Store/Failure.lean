import ClusterOutbox.Proofs.Store.Lawful
import ClusterOutbox.Proofs.Store.Nesting
import ClusterOutbox.Proofs.Store.Soundness

namespace ClusterOutbox

namespace Row

/-- Whether a row can answer the write that changes it: its id is text, and its creation is a time of
the store. -/
def Answers (r : Row) : Prop :=
  (∃ id, r.id = .text id) ∧ ∃ t : StoreTime, r.created = .integer t.micros

end Row

namespace Table

variable {t t' : Table} {row : Option Row}

/-- A change that goes through leaves the table, or changes the row found; the result is the row as it
has become. -/
theorem updateId_done {id : String} {watched : List Watch} {change : Row → Row}
    (h : t.updateId id watched change = .done t' row) :
    (t' = t ∧ row = none) ∨
      ∃ old, t.rows.find? (fun r => r.id == .text id) = some old ∧ row = some (change old) ∧
        t' = { t with rows := t.rows.map fun r => if r.id == .text id then change old else r } := by
  unfold updateId at h
  cases hold : t.rows.find? fun r => r.id == .text id with
  | none =>
    simp only [hold] at h
    cases h
    exact .inl ⟨rfl, rfl⟩
  | some old =>
    simp only [hold] at h
    cases hguard : t.guard? watched old with
    | some g =>
      simp only [hguard] at h
      split at h <;> cases h
      exact .inl ⟨rfl, rfl⟩
    | none =>
      simp only [hguard] at h
      split at h <;> cases h
      exact .inr ⟨old, rfl, rfl, rfl⟩

/-- An insertion that goes through leaves the table, adds the row, or changes the row of its identity;
the result is the row as it has become. -/
theorem insert_done {new : Row} {merge : Option (Row → Row)}
    (h : t.insert new merge = .done t' row) :
    (t' = t ∧ row = none) ∨
      (t.rows.find? (fun r => r.sameIdentity new) = none ∧ row = some new ∧
        t' = { t with rows := t.rows ++ [new] }) ∨
      ∃ old f, merge = some f ∧ t.rows.find? (fun r => r.sameIdentity new) = some old ∧
        row = some (f old) ∧
        t' = { t with rows := t.rows.map fun r => if r.sameIdentity new then f old else r } := by
  unfold insert at h
  cases hguard : t.guard? [.insert] new with
  | some g =>
    simp only [hguard] at h
    split at h <;> cases h
    exact .inl ⟨rfl, rfl⟩
  | none =>
    cases hold : t.rows.find? fun r => r.sameIdentity new with
    | none =>
      simp only [hguard, hold] at h
      split at h <;> cases h
      exact .inr (.inl ⟨rfl, rfl, rfl⟩)
    | some old =>
      cases merge with
      | none =>
        simp only [hguard, hold] at h
        cases h
        exact .inl ⟨rfl, rfl⟩
      | some f =>
        simp only [hguard, hold] at h
        cases hguard' : t.guard? [.update, .sentAt] old with
        | some g =>
          simp only [hguard'] at h
          split at h <;> cases h
          exact .inl ⟨rfl, rfl⟩
        | none =>
          simp only [hguard'] at h
          split at h <;> cases h
          exact .inr (.inr ⟨old, f, rfl, rfl, rfl, rfl⟩)

end Table

theorem Database.table_of_writable? {db : Database} {t : Table} (h : db.writable? = .ok t) :
    db.table = some t := by
  unfold writable? table? at h
  cases htable : db.table with
  | none => simp [htable] at h
  | some t' =>
    cases hreadOnly : db.readOnly <;> simp [htable, hreadOnly] at h
    exact congrArg some h

namespace Session

variable {α β : Type} {s s' : Store}

/-- A statement is refused and leaves the store, or goes through. -/
theorem run_write_cases (hclean : s.db.Clean) {f : Table → Effect α} {st : Statement}
    (hf : ∀ t, (f t).void = st.effect t) :
    (∃ e, (write f).run s = (.error e, s)) ∨
    ∃ t t' a, s.db.table = some t ∧ f t = .done t' a ∧
      (write f).run s = (.ok a, { s with db := { s.db with table := some t' } }) := by
  have hkept : ∀ e, s.db.write f = (.error e, s.db) → ∃ e, (write f).run s = (.error e, s) :=
    fun e h => ⟨.ofEngine e, by rw [run_write, h]; rfl⟩
  cases hw : s.db.writable? with
  | error e => exact .inl (hkept e (by simp only [Database.write, hw]))
  | ok t =>
    have ht : s.db.table = some t := Database.table_of_writable? hw
    have hwhole : Effect.Whole t (f t).void := hf t ▸ Table.whole_effect (hclean t ht) st
    cases hft : f t with
    | done t' a => exact .inr ⟨t, t', a, ht, hft, run_write_done hw hft⟩
    | stopped t' how e =>
      refine .inl (hkept e ?_)
      have hself : ({ s.db with table := some t } : Database) = s.db := by rw [← ht]
      simp only [Database.write, hw, hft]
      rw [hft] at hwhole
      cases hwhole with
      | undone hrollback hfail =>
        cases how with
        | abort | ignore => rfl
        | fail => exact absurd rfl hfail
        | rollback => exact absurd rfl hrollback
      | unchanged hrollback =>
        cases how with
        | abort | ignore => rfl
        | fail => exact congrArg (Prod.mk (Except.error e)) hself
        | rollback => exact absurd rfl hrollback

/-- A statement that changes rows has gone through. -/
theorem run_write_changed (hclean : s.db.Clean) {f : Table → Effect α} {st : Statement}
    (hf : ∀ t, (f t).void = st.effect t) (hchanged : ((write f).run s).2.db.rows ≠ s.db.rows) :
    ∃ t t' a s', s.db.table = some t ∧ f t = .done t' a ∧ t' ≠ t ∧
      (write f).run s = (.ok a, s') := by
  rcases run_write_cases hclean hf with ⟨e, hrun⟩ | ⟨t, t', a, ht, hdone, hrun⟩
  · exact absurd (by rw [hrun]) hchanged
  · refine ⟨t, t', a, _, ht, hdone, ?_, hrun⟩
    rintro rfl
    refine hchanged ?_
    rw [hrun]
    simp [Database.rows, ht]

/-- Whether work comes to an error. -/
def Fails (work : Session α) (s : Store) : Prop := ∃ e, (work.run s).1 = .error e

theorem fails_error {work : Session α} {e : StoreError} (h : work.run s = (.error e, s')) :
    work.Fails s := ⟨e, by rw [h]⟩

theorem not_fails_ok {work : Session α} {a : α} (h : work.run s = (.ok a, s')) :
    ¬ work.Fails s := by
  rintro ⟨e, he⟩
  rw [h] at he
  cases he

theorem fails_bind {x : Session α} {a : α} (h : x.run s = (.ok a, s')) (k : α → Session β) :
    (x >>= k).Fails s ↔ (k a).Fails s' := by
  rw [Fails, run_bind_ok h]
  rfl

theorem fails_counted (r : Record) (action : String) (work : Session α) (s : Store) :
    (counted r action work).Fails s ↔ work.Fails s := by
  rcases hrun : work.run s with ⟨e | a, s'⟩
  · exact iff_of_true (fails_error (run_counted_error hrun)) (fails_error hrun)
  · exact iff_of_false (not_fails_ok (run_counted_ok hrun)) (not_fails_ok hrun)

/-- Of the times of a row, the creation decides whether they read. -/
theorem fails_readTimes {row : Row} {i j : Nat} {k : Stamp → Stamp → Session α}
    (hupdated : ∀ created : StoreTime, row.created = .integer created.micros →
      ∃ updated : StoreTime, row.updated = .integer updated.micros)
    (hk : ∀ created updated s, ¬ (k created updated).Fails s) (s : Store) :
    (do
      let created ← ofEngine (row.created.integer? i "record_created")
      let updated ← ofEngine (row.updated.integer? j "record_updated")
      let created ← ofEngine (Row.stamp? i created)
      let updated ← ofEngine (Row.stamp? j updated)
      k created updated : Session α).Fails s ↔
        ¬ ∃ t : StoreTime, row.created = .integer t.micros := by
  by_cases hdated : ∃ t : StoreTime, row.created = .integer t.micros
  · obtain ⟨created, hc⟩ := hdated
    obtain ⟨updated, hu⟩ := hupdated created hc
    refine iff_of_false ?_ (not_not.mpr ⟨created, hc⟩)
    rw [Fails, run_readTimes_row hc hu]
    exact hk _ _ s
  · refine iff_of_true ?_ hdated
    cases hc : row.created.integer? i "record_created" with
    | error e => exact fails_error (run_bind_error (run_ofEngine_error rfl) _)
    | ok n =>
      have hstamp : Row.stamp? i n = .error (.outOfRange i n) :=
        Row.stamp?_error (fun t ht => hdated ⟨t, ht ▸ Cell.integer?_eq_ok hc⟩) i
      rw [fails_bind (run_ofEngine_ok rfl)]
      cases hu : row.updated.integer? j "record_updated" with
      | error e => exact fails_error (run_bind_error (run_ofEngine_error rfl) _)
      | ok m =>
        rw [fails_bind (run_ofEngine_ok rfl)]
        exact fails_error (run_bind_error (run_ofEngine_error hstamp) _)

/-- What a change makes of the row that its statement gives back. -/
def updateAnswer (r : Record) : Option Row → Session Record
  | none => throw .notFound
  | some row => do
    let created ← ofEngine (row.created.integer? 0 "record_created")
    let updated ← ofEngine (row.updated.integer? 1 "record_updated")
    let created ← ofEngine (Row.stamp? 0 created)
    let updated ← ofEngine (Row.stamp? 1 updated)
    return { r with created, updated, size := row.size.toUInt64 }

/-- What an observation makes of the row that its statement gives back. -/
def upsertAnswer (m : Moment) (r : Record) : Option Row → Session Observation
  | none => throw .notFound
  | some row => do
    let id ← ofEngine (row.id.text? 0 "id")
    let created ← ofEngine (row.created.integer? 1 "record_created")
    let updated ← ofEngine (row.updated.integer? 2 "record_updated")
    let created ← ofEngine (Row.stamp? 1 created)
    let updated ← ofEngine (Row.stamp? 2 updated)
    return {
      outcome := if id = m.freshId then .inserted else .updated
      record := { r with id, created, updated, sentAt := none, size := row.size.toUInt64 } }

theorem update_eq (m : Moment) {r : Record} (h : r.id ≠ "") :
    update m r = counted r "update"
      (write (fun t => t.updateId r.id [.update, .sentAt]
        (overwrite r m.now.micros (r.sentAt.map Stamp.micros))) >>= updateAnswer r) := by
  unfold update
  rw [if_neg h]
  rfl

theorem upsert_eq (m : Moment) (r : Record) :
    upsert m r = counted r "upsert"
      (write (fun t => t.insert (Row.ofRecord m.freshId m.now.micros none r)
        (some (overwrite r m.now.micros none))) >>= upsertAnswer m r) := rfl

theorem quiet_updateAnswer (r : Record) (row : Option Row) : (updateAnswer r row).Quiet := by
  cases row with
  | none => exact quiet_throw _
  | some row => exact quiet_readTimes row 0 1 fun _ _ => quiet_pure _

theorem quiet_upsertAnswer (m : Moment) (r : Record) (row : Option Row) :
    (upsertAnswer m r row).Quiet := by
  cases row with
  | none => exact quiet_throw _
  | some row =>
    exact turns_bind (quiet_ofEngine _) fun _ => quiet_readTimes row 1 2 fun _ _ => quiet_pure _

theorem updated_overwrite (r : Record) (now : Instant) (sentAt : Option Int) (old : Row)
    {created : StoreTime} (h : (overwrite r now.micros sentAt old).created = .integer created.micros) :
    ∃ updated : StoreTime, (overwrite r now.micros sentAt old).updated = .integer updated.micros := by
  refine ⟨now.storeTime.later created, ?_⟩
  change (Cell.integer now.micros).later old.created = _
  rw [show old.created = .integer created.micros from h]
  exact StoreTime.cell_later now.storeTime created

/-- A write that changes rows has come through its statement; whether it fails is up to what it makes
of the answer. -/
theorem fails_write {f : Table → Effect β} (st : Statement) (hclean : s.db.Clean)
    (hf : ∀ t, (f t).void = st.effect t) {r : Record} {action : String} {k : β → Session α}
    (hk : ∀ a, (k a).Quiet)
    (hchanged : ((counted r action (write f >>= k)).run s).2.db.rows ≠ s.db.rows) :
    ∃ t t' a s', s.db.table = some t ∧ f t = .done t' a ∧ t' ≠ t ∧
      ((counted r action (write f >>= k)).Fails s ↔ (k a).Fails s') := by
  have hdb : ((counted r action (write f >>= k)).run s).2.db = ((write f).run s).2.db :=
    (turns_counted (turns_bind (turns_write hf) hk) s).trans (turns_write hf s).symm
  rw [hdb] at hchanged
  obtain ⟨t, t', a, s', ht, hdone, hne, hrun⟩ := run_write_changed hclean hf hchanged
  exact ⟨t, t', a, s', ht, hdone, hne, (fails_counted ..).trans (fails_bind hrun k)⟩

theorem not_fails_write {f : Table → Effect α} (st : Statement) (hclean : s.db.Clean)
    (hf : ∀ t, (f t).void = st.effect t) (hchanged : ((write f).run s).2.db.rows ≠ s.db.rows) :
    ¬ (write f).Fails s := by
  obtain ⟨t, t', a, s', -, -, -, hrun⟩ := run_write_changed hclean hf hchanged
  exact not_fails_ok hrun

theorem not_fails_create {m : Moment} {r : Record} (hclean : s.db.Clean)
    (hchanged : ((create m r).run s).2.db.rows ≠ s.db.rows) : ¬ (create m r).Fails s := by
  obtain ⟨t, t', a, s', -, -, -, hfails⟩ :=
    fails_write (.insert _ none) hclean (fun _ => rfl) (fun _ => quiet_pure _) hchanged
  exact fun h => not_fails_ok (run_pure _) (hfails.mp h)

theorem not_fails_delete {id : String} (hclean : s.db.Clean)
    (hchanged : ((delete id).run s).2.db.rows ≠ s.db.rows) : ¬ (delete id).Fails s := by
  have hf : ∀ t : Table, (t.delete fun r => r.id == .text id).void =
      (Statement.delete fun r => r.id == .text id).effect t := fun _ => rfl
  have hdb : ((delete id).run s).2.db =
      ((write fun t => t.delete fun r => r.id == .text id).run s).2.db :=
    (turns_tryCatch (turns_write hf) (fun _ _ => rfl) s).trans (turns_write hf s).symm
  rw [hdb] at hchanged
  obtain ⟨t, t', a, s', -, -, -, hrun⟩ := run_write_changed hclean hf hchanged
  have hdelete : (delete id).run s = (.ok a, s') := by rw [delete, run_tryCatch, hrun]
  exact not_fails_ok hdelete

theorem fails_update {m : Moment} {r : Record} (hclean : s.db.Clean)
    (hchanged : ((update m r).run s).2.db.rows ≠ s.db.rows) :
    (update m r).Fails s ↔
      ∃ old, s.db.rows.find? (fun row => row.id == .text r.id) = some old ∧ ¬ old.Answers := by
  have hid : r.id ≠ "" := by
    intro hid
    have hdb := (Write.update m r).turns_session s
    simp only [Write.statement?, if_pos hid] at hdb
    exact hchanged (congrArg Database.rows hdb)
  rw [update_eq m hid] at hchanged ⊢
  obtain ⟨t, t', a, s', ht, hdone, hne, hfails⟩ :=
    fails_write (.change r.id _) hclean (fun _ => rfl) (quiet_updateAnswer r) hchanged
  have hrows : s.db.rows = t.rows := by simp [Database.rows, ht]
  rcases Table.updateId_done hdone with ⟨rfl, -⟩ | ⟨old, hold, rfl, -⟩
  · exact absurd rfl hne
  · let changed := overwrite r m.now.micros (r.sentAt.map Stamp.micros) old
    have hread : (updateAnswer r (some changed)).Fails s' ↔
        ¬ ∃ t : StoreTime, old.created = .integer t.micros :=
      fails_readTimes (fun _ h => updated_overwrite r m.now _ old h)
        (fun _ _ _ => not_fails_ok (run_pure _)) s'
    have hidText : old.id = .text r.id := by simpa using List.find?_some hold
    rw [hfails, hread, hrows, hold]
    simp [Row.Answers, hidText]

theorem fails_upsertAnswer {m : Moment} {r : Record} {row : Row}
    (hupdated : ∀ created : StoreTime, row.created = .integer created.micros →
      ∃ updated : StoreTime, row.updated = .integer updated.micros) (s : Store) :
    (upsertAnswer m r (some row)).Fails s ↔ ¬ row.Answers := by
  cases hid : row.id.text? 0 "id" with
  | ok id =>
    have htext : row.id = .text id := Cell.text?_eq_ok hid
    refine (fails_bind (run_ofEngine_ok hid) _).trans ?_
    refine (fails_readTimes hupdated (fun _ _ _ => not_fails_ok (run_pure _)) s).trans ?_
    simp [Row.Answers, htext]
  | error e =>
    refine iff_of_true (fails_error (run_bind_error (run_ofEngine_error hid) _)) ?_
    rintro ⟨⟨id, htext⟩, -⟩
    rw [htext] at hid
    cases hid

theorem fails_upsert {m : Moment} {r : Record} (hclean : s.db.Clean)
    (hchanged : ((upsert m r).run s).2.db.rows ≠ s.db.rows) :
    (upsert m r).Fails s ↔
      ∃ old, s.db.rows.find? (Query.identity r.kind r.name r.ns).selects = some old ∧
        ¬ old.Answers := by
  let new := Row.ofRecord m.freshId m.now.micros none r
  have hsame : (fun row => Row.sameIdentity row new) =
      (Query.identity r.kind r.name r.ns).selects := rfl
  rw [upsert_eq] at hchanged ⊢
  obtain ⟨t, t', a, s', ht, hdone, hne, hfails⟩ :=
    fails_write (.insert new (some _)) hclean (fun _ => rfl) (quiet_upsertAnswer m r) hchanged
  have hrows : s.db.rows = t.rows := by simp [Database.rows, ht]
  rw [hfails, hrows, ← hsame]
  rcases Table.insert_done hdone with ⟨rfl, -⟩ | ⟨hnone, rfl, -⟩ | ⟨old, f, hf, hold, rfl, -⟩
  · exact absurd rfl hne
  · have hanswers : new.Answers := ⟨⟨m.freshId, rfl⟩, m.now.storeTime, rfl⟩
    rw [fails_upsertAnswer (fun _ _ => ⟨m.now.storeTime, rfl⟩), hnone]
    exact iff_of_false (not_not.mpr hanswers) (by simp)
  · cases hf
    rw [fails_upsertAnswer (fun _ h => updated_overwrite r m.now none old h), hold]
    -- The row that is changed keeps its id and its creation.
    have hkept : (overwrite r m.now.micros none old).Answers ↔ old.Answers := Iff.rfl
    simp [hkept]

end Session

namespace Write

/-- The row that a write changes and whose id and times it gives back. -/
def target? (db : Database) : Write → Option Row
  | update _ r => db.rows.find? fun row => row.id == .text r.id
  | upsert _ r => db.rows.find? (Query.identity r.kind r.name r.ns).selects
  | _ => none

variable {s : Store}

/-- A write that changes rows fails where the row that it has changed cannot answer. -/
theorem fails_iff (w : Write) (hclean : s.db.Clean)
    (hchanged : (w.session.run s).2.db.rows ≠ s.db.rows) :
    w.session.Fails s ↔ ∃ old ∈ w.target? s.db, ¬ old.Answers := by
  have hnone : ∀ p : Row → Prop, ¬ ∃ old ∈ (none : Option Row), p old := by simp
  cases w with
  | create m r => exact iff_of_false (Session.not_fails_create hclean hchanged) (hnone _)
  | update m r => exact Session.fails_update hclean hchanged
  | upsert m r => exact Session.fails_upsert hclean hchanged
  | delete id => exact iff_of_false (Session.not_fails_delete hclean hchanged) (hnone _)
  | deleteAll =>
    exact iff_of_false
      (Session.not_fails_write (.delete _) hclean (fun _ => rfl) hchanged) (hnone _)
  | confirm id sentAt =>
    exact iff_of_false
      (Session.not_fails_write (.change id _) hclean (fun _ => rfl) hchanged) (hnone _)

theorem changes_iff (w : Write) (s : Store) :
    (w.session.run s).2.db.rows ≠ s.db.rows ↔
      ∃ st ∈ w.statement?, (s.db.write st.effect).2.rows ≠ s.db.rows := by
  rw [w.turns_session s]
  cases w.statement? <;> simp

/-- The writes that fail and change rows all the same: those whose statement changes rows, where the
row that it changes cannot answer. -/
theorem failure_changes_iff (w : Write) (hclean : s.db.Clean) :
    w.session.Fails s ∧ (w.session.run s).2.db.rows ≠ s.db.rows ↔
      (∃ st ∈ w.statement?, (s.db.write st.effect).2.rows ≠ s.db.rows) ∧
        ∃ old ∈ w.target? s.db, ¬ old.Answers := by
  rw [← w.changes_iff s, and_comm]
  exact and_congr_right (w.fails_iff hclean)

/-- The pod whose creation has been set to a time before the calendar. -/
def misdatedPod : Store :=
  { Store.onePod with
    db := (Store.onePod.db.setColumn "a" "record_created" (.integer (-8334601228800000001))).2 }

def relabelledPod : Record :=
  { Record.fresh .pod "web-0" (some "default") with
    id := "a"
    labels := some (SortedMap.ofList [("app", "v2")]) }

theorem clean_misdatedPod : misdatedPod.db.Clean := by
  have hguards : misdatedPod.db.table.map Table.guards = some [] := by decide +kernel
  intro t ht g hg
  rw [Option.mem_def.mp ht, Option.map_some, Option.some.injEq] at hguards
  rw [hguards] at hg
  cases hg

theorem failure_changes_iff_misdatedPod :
    misdatedPod.db.Clean ∧
    ((update ⟨.sampleSecond 20, "b"⟩ relabelledPod).session.Fails misdatedPod ∧
        ((update ⟨.sampleSecond 20, "b"⟩ relabelledPod).session.run misdatedPod).2.db.rows ≠
          misdatedPod.db.rows ↔
      (∃ st ∈ (update ⟨.sampleSecond 20, "b"⟩ relabelledPod).statement?,
          (misdatedPod.db.write st.effect).2.rows ≠ misdatedPod.db.rows) ∧
        ∃ old ∈ (update ⟨.sampleSecond 20, "b"⟩ relabelledPod).target? misdatedPod.db,
          ¬ old.Answers) :=
  ⟨clean_misdatedPod, failure_changes_iff _ clean_misdatedPod⟩

/-- Outside every transaction, in a table that keeps its rules and has no guards, a change fails and
the row has its new labels all the same. -/
theorem misdatedPod_relabelled :
    misdatedPod.db.saved = none ∧ misdatedPod.db.table.map Table.guards = some [] ∧
    (∀ t ∈ misdatedPod.db.table, t.Lawful) ∧
    ((Session.update ⟨.sampleSecond 20, "b"⟩ relabelledPod).run misdatedPod).1 =
      .error (.invalidData "column 0: -8334601228800000001 out of range") ∧
    misdatedPod.db.rows.map Row.labels = [.null] ∧
    ((Session.update ⟨.sampleSecond 20, "b"⟩ relabelledPod).run misdatedPod).2.db.rows.map
      Row.labels = [.text "\x7b\"app\":\"v2\"\x7d"] := by
  have hrules : ∀ t ∈ misdatedPod.db.table, (t.rows.map Row.id).Nodup ∧
      ∀ r ∈ t.rows, Table.broken? (t.rows.filter fun o => o.id != r.id) r = none := by
    decide +kernel
  exact ⟨by decide +kernel, by decide +kernel, fun t ht => ⟨(hrules t ht).1, (hrules t ht).2⟩,
    by decide +kernel, by decide +kernel, by decide +kernel⟩

end Write

end ClusterOutbox
