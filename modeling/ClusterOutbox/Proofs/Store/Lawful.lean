import ClusterOutbox.Proofs.Store.Session
import Mathlib.Data.List.Nodup

namespace ClusterOutbox

namespace Table

/-- A table as its rules allow: ids differ, and each row keeps the rules beside the others. -/
structure Lawful (t : Table) : Prop where
  ids : (t.rows.map Row.id).Nodup
  unbroken : ∀ r ∈ t.rows, broken? (t.rows.filter fun o => o.id != r.id) r = none

instance (t : Table) : Decidable t.Lawful :=
  decidable_of_iff ((t.rows.map Row.id).Nodup ∧
      ∀ r ∈ t.rows, broken? (t.rows.filter fun o => o.id != r.id) r = none)
    ⟨fun h => ⟨h.1, h.2⟩, fun h => ⟨h.ids, h.unbroken⟩⟩

/-- Whether a guard lets a write pass over a row in silence. -/
def skips (t : Table) (watched : List Watch) (r : Row) : Bool :=
  match t.guard? watched r with
  | some g => g.raise = .ignore
  | none => false

/-- Whether a guard refuses the delivery of one of some ids. -/
def Refuses (t : Table) (ids : List String) : Prop :=
  ∃ r ∈ t.rows, r.id ∈ ids.map Cell.text ∧
    ∃ g, t.guard? [.update, .sentAt] r = some g ∧ g.raise ≠ .ignore

/-- Whether a guard refuses the delivery of an id, and how. -/
def RefusesId (t : Table) (id : String) (how : Raise) : Prop :=
  ∃ r ∈ t.rows, r.id = .text id ∧
    ∃ g, t.guard? [.update, .sentAt] r = some g ∧ g.raise = how ∧ how ≠ .ignore

def deliver (sentAt : Int) (r : Row) : Row := { r with sentAt := .integer sentAt }

def confirmRow (ids : List String) (sentAt : Int) (t : Table) (r : Row) : Row :=
  if r.id ∈ ids.map Cell.text ∧ t.skips [.update, .sentAt] r = false then deliver sentAt r else r

/-- The rows of some ids become delivered, but for those that a guard passes over. -/
def confirm (ids : List String) (sentAt : Int) (t : Table) : Table :=
  { t with rows := t.rows.map (t.confirmRow ids sentAt) }

/-- Whether the delivery of an id is set where it is confirmed: there is a row, and no guard passes
over it. -/
def marks (t : Table) (id : String) : Bool :=
  t.rows.any fun r => r.id == .text id && !t.skips [.update, .sentAt] r

variable {t : Table} {ids : List String} {sentAt : Int}

theorem Lawful.eq_of_id_eq (h : t.Lawful) {a b : Row} (ha : a ∈ t.rows) (hb : b ∈ t.rows)
    (hid : a.id = b.id) : a = b :=
  List.inj_on_of_nodup_map h.ids ha hb hid

theorem exists_confirmRow (ids : List String) (sentAt : Int) (t : Table) (r : Row) :
    ∃ c, t.confirmRow ids sentAt r = { r with sentAt := c } := by
  unfold confirmRow
  split
  · exact ⟨_, rfl⟩
  · exact ⟨r.sentAt, rfl⟩

theorem id_confirmRow (r : Row) : (t.confirmRow ids sentAt r).id = r.id := by
  obtain ⟨c, h⟩ := exists_confirmRow ids sentAt t r
  rw [h]

theorem confirmRow_absent {r : Row} (h : r.id ∉ ids.map Cell.text) :
    t.confirmRow ids sentAt r = r := if_neg fun hr => h hr.1

/-- No rule of the table looks at the delivery of a row. -/
theorem broken?_sentAt (others : List Row) (r : Row) (c : Cell) :
    broken? others { r with sentAt := c } = broken? others r := rfl

theorem broken?_confirmRow (others : List Row) (r : Row) :
    broken? (others.map (t.confirmRow ids sentAt)) (t.confirmRow ids sentAt r) =
      broken? others r := by
  obtain ⟨c, hr⟩ := exists_confirmRow ids sentAt t r
  have hsame : ∀ a, (t.confirmRow ids sentAt a).sameIdentity r = a.sameIdentity r := by
    intro a
    obtain ⟨d, ha⟩ := exists_confirmRow ids sentAt t a
    rw [ha]
    rfl
  rw [hr, broken?_sentAt]
  unfold broken?
  rw [List.any_map, List.any_map]
  simp only [Function.comp_def, hsame, id_confirmRow]

theorem Lawful.confirm (h : t.Lawful) (ids : List String) (sentAt : Int) :
    (t.confirm ids sentAt).Lawful where
  ids := by
    rw [Table.confirm, List.map_map]
    simpa only [Function.comp_def, id_confirmRow] using h.ids
  unbroken := by
    intro r' hr'
    obtain ⟨r, hr, rfl⟩ := List.mem_map.mp hr'
    rw [Table.confirm, List.filter_map]
    simp only [Function.comp_def, id_confirmRow, broken?_confirmRow]
    exact h.unbroken r hr

/-- Guards look at no delivery. -/
theorem guard?_confirmRow (watched : List Watch) (r : Row) :
    (t.confirm ids sentAt).guard? watched (t.confirmRow ids sentAt r) = t.guard? watched r := by
  obtain ⟨c, hr⟩ := exists_confirmRow ids sentAt t r
  rw [hr]
  rfl

theorem skips_confirmRow (watched : List Watch) (r : Row) :
    (t.confirm ids sentAt).skips watched (t.confirmRow ids sentAt r) = t.skips watched r := by
  rw [skips, guard?_confirmRow, skips]

theorem marks_confirm (id : String) : (t.confirm ids sentAt).marks id = t.marks id := by
  have hrow : ∀ r, ((t.confirmRow ids sentAt r).id == .text id &&
      !(t.confirm ids sentAt).skips [.update, .sentAt] (t.confirmRow ids sentAt r)) =
        (r.id == .text id && !t.skips [.update, .sentAt] r) := by
    intro r
    rw [id_confirmRow, skips_confirmRow]
  have hrows : (t.confirm ids sentAt).rows = t.rows.map (t.confirmRow ids sentAt) := rfl
  rw [marks, hrows, List.any_map]
  exact congrArg (List.any t.rows) (funext hrow)

@[simp] theorem deliver_deliver (a b : Int) (r : Row) : deliver a (deliver b r) = deliver a r := rfl

theorem confirm_cons (id : String) (ids : List String) (sentAt : Int) (t : Table) :
    t.confirm (id :: ids) sentAt = (t.confirm [id] sentAt).confirm ids sentAt := by
  have hrow : ∀ r, (t.confirm [id] sentAt).confirmRow ids sentAt (t.confirmRow [id] sentAt r) =
      t.confirmRow (id :: ids) sentAt r := by
    intro r
    rw [confirmRow, id_confirmRow, skips_confirmRow]
    unfold confirmRow
    by_cases hskip : t.skips [.update, .sentAt] r = false <;>
      by_cases hid : r.id = .text id <;> by_cases hids : r.id ∈ ids.map Cell.text <;>
      simp_all
  have hrows : (t.confirm (id :: ids) sentAt).rows =
      ((t.confirm [id] sentAt).confirm ids sentAt).rows := by
    simp only [confirm, List.map_map]
    refine List.map_congr_left ?_
    intro r _
    exact (hrow r).symm
  exact congrArg (fun rows => (⟨rows, t.guards⟩ : Table)) hrows

theorem confirm_eq_self (h : ∀ r ∈ t.rows, t.confirmRow ids sentAt r = r) :
    t.confirm ids sentAt = t := by
  rw [confirm, (List.map_congr_left h).trans (List.map_id t.rows)]

theorem refuses_cons (t : Table) (id : String) (ids : List String) :
    t.Refuses (id :: ids) ↔ t.Refuses [id] ∨ t.Refuses ids := by
  constructor
  · rintro ⟨r, hr, hid, hg⟩
    rcases List.mem_cons.mp hid with hid | hid
    · exact .inl ⟨r, hr, by simp [hid], hg⟩
    · exact .inr ⟨r, hr, hid, hg⟩
  · rintro (⟨r, hr, hid, hg⟩ | ⟨r, hr, hid, hg⟩)
    · exact ⟨r, hr, by simp_all, hg⟩
    · exact ⟨r, hr, List.mem_cons_of_mem _ hid, hg⟩

theorem refuses_confirm (t : Table) (ids others : List String) (sentAt : Int) :
    (t.confirm ids sentAt).Refuses others ↔ t.Refuses others := by
  constructor
  · rintro ⟨r', hr', hid, hg⟩
    obtain ⟨r, hr, rfl⟩ := List.mem_map.mp hr'
    rw [id_confirmRow] at hid
    rw [guard?_confirmRow] at hg
    exact ⟨r, hr, hid, hg⟩
  · rintro ⟨r, hr, hid, hg⟩
    refine ⟨t.confirmRow ids sentAt r, List.mem_map_of_mem hr, ?_, ?_⟩
    · rwa [id_confirmRow]
    · rwa [guard?_confirmRow]

theorem refuses_singleton (t : Table) (id : String) :
    t.Refuses [id] ↔ ∃ how, t.RefusesId id how := by
  constructor
  · rintro ⟨r, hr, hid, g, hguard, hraise⟩
    exact ⟨g.raise, r, hr, by simpa using hid, g, hguard, rfl, hraise⟩
  · rintro ⟨how, r, hr, hid, g, hguard, rfl, hraise⟩
    exact ⟨r, hr, by simp [hid], g, hguard, hraise⟩

theorem RefusesId.of_confirm {id : String} {how : Raise}
    (h : (t.confirm ids sentAt).RefusesId id how) : t.RefusesId id how := by
  obtain ⟨r', hr', hid, hg⟩ := h
  obtain ⟨r, hr, rfl⟩ := List.mem_map.mp hr'
  rw [id_confirmRow] at hid
  rw [guard?_confirmRow] at hg
  exact ⟨r, hr, hid, hg⟩

theorem confirm_nil (sentAt : Int) (t : Table) : t.confirm [] sentAt = t :=
  confirm_eq_self fun _ _ => confirmRow_absent (by simp)

theorem confirm_missing {id : String} (h : ∀ r ∈ t.rows, r.id ≠ .text id) :
    t.confirm [id] sentAt = t := by
  refine confirm_eq_self ?_
  intro r hr
  exact confirmRow_absent (by simpa using h r hr)

theorem confirm_skipped (h : t.Lawful) {id : String} {old : Row} (hold : old ∈ t.rows)
    (hid : old.id = .text id) (hskip : t.skips [.update, .sentAt] old = true) :
    t.confirm [id] sentAt = t := by
  refine confirm_eq_self ?_
  intro r hr
  refine if_neg ?_
  rintro ⟨hr', hkept⟩
  have hsame : r = old := h.eq_of_id_eq hr hold ((by simpa using hr' : r.id = .text id).trans hid.symm)
  simp [hsame, hskip] at hkept

theorem confirm_found (h : t.Lawful) {id : String} {old : Row} (hold : old ∈ t.rows)
    (hid : old.id = .text id) (hkept : t.skips [.update, .sentAt] old = false) :
    t.confirm [id] sentAt =
      { t with rows := t.rows.map fun r => if r.id == .text id then deliver sentAt old else r } := by
  refine congrArg (fun rows => (⟨rows, t.guards⟩ : Table)) (List.map_congr_left ?_)
  intro r hr
  by_cases hr' : r.id = .text id
  · obtain rfl : r = old := h.eq_of_id_eq hr hold (hr'.trans hid.symm)
    rw [if_pos (by simp [hr']), confirmRow, if_pos ⟨by simp [hr'], hkept⟩]
  · rw [if_neg (by simp [hr']), confirmRow_absent (by simpa using hr')]

theorem marks_missing {id : String} (h : ∀ r ∈ t.rows, r.id ≠ .text id) : t.marks id = false := by
  rw [marks, List.any_eq_false]
  intro r hr
  simp [h r hr]

theorem marks_found (h : t.Lawful) {id : String} {old : Row} (hold : old ∈ t.rows)
    (hid : old.id = .text id) : t.marks id = !t.skips [.update, .sentAt] old := by
  have hrow : ∀ r ∈ t.rows, (r.id == .text id && !t.skips [.update, .sentAt] r) = true → r = old := by
    intro r hr hmarked
    have hrid : r.id = .text id := by simpa using (Bool.and_eq_true_iff.mp hmarked).1
    exact h.eq_of_id_eq hr hold (hrid.trans hid.symm)
  rw [Bool.eq_iff_iff, marks, List.any_eq_true]
  constructor
  · rintro ⟨r, hr, hmarked⟩
    obtain rfl := hrow r hr hmarked
    exact (Bool.and_eq_true_iff.mp hmarked).2
  · intro hkept
    exact ⟨old, hold, by rw [hkept, hid]; simp⟩

theorem updateId_refused (h : t.Lawful) {id : String} {how : Raise} (hrefuses : t.RefusesId id how)
    (sentAt : Int) : ∃ e, t.updateId id [.update, .sentAt] (deliver sentAt) = .stopped t how e := by
  obtain ⟨r, hr, hid, g, hguard, rfl, hraise⟩ := hrefuses
  cases hold : t.rows.find? fun r => r.id == .text id with
  | none => exact absurd hid (by simpa using List.find?_eq_none.mp hold r hr)
  | some old =>
    have hmem := List.mem_of_find?_eq_some hold
    have holdId : old.id = .text id := by simpa using List.find?_some hold
    obtain rfl : old = r := h.eq_of_id_eq hmem hr (holdId.trans hid.symm)
    exact ⟨raised g, by simp only [updateId, hold, hguard, if_neg hraise]⟩

/-- The delivery of an id that no guard refuses is confirmed; no rule of the table stands against
it. -/
theorem updateId_confirm (h : t.Lawful) {id : String} (hrefuses : ¬ t.Refuses [id])
    (sentAt : Int) :
    ∃ row, t.updateId id [.update, .sentAt] (deliver sentAt) =
      .done (t.confirm [id] sentAt) row ∧ row.isSome = t.marks id := by
  unfold updateId
  cases hold : t.rows.find? fun r => r.id == .text id with
  | none =>
    have hmissing : ∀ r ∈ t.rows, r.id ≠ .text id := by
      simpa using List.find?_eq_none.mp hold
    exact ⟨none, by rw [confirm_missing hmissing], (marks_missing hmissing).symm⟩
  | some old =>
    have hmem := List.mem_of_find?_eq_some hold
    have hid : old.id = .text id := by simpa using List.find?_some hold
    cases hguard : t.guard? [.update, .sentAt] old with
    | some g =>
      have hraise : g.raise = .ignore :=
        not_not.mp fun hraise => hrefuses ⟨old, hmem, by simp [hid], g, hguard, hraise⟩
      have hskip : t.skips [.update, .sentAt] old = true := by simp [skips, hguard, hraise]
      refine ⟨none, by simp only [hguard, if_pos hraise, confirm_skipped h hmem hid hskip], ?_⟩
      rw [marks_found h hmem hid, hskip]
      rfl
    | none =>
      have hkept : t.skips [.update, .sentAt] old = false := by simp [skips, hguard]
      have hbroken : broken? (t.rows.filter fun r => r.id != .text id) (deliver sentAt old) =
          none := by
        rw [deliver, broken?_sentAt, ← hid]
        exact h.unbroken old hmem
      refine ⟨some (deliver sentAt old),
        by simp only [hguard, hbroken, confirm_found h hmem hid hkept], ?_⟩
      rw [marks_found h hmem hid, hkept]
      rfl

end Table

theorem Ledger.Distinct.lawful {es : Ledger} (hd : es.Distinct) (guards : List Guard) :
    (es.table guards).Lawful where
  ids := by
    have hids : (es.table guards).rows.map Row.id = (es.map Entry.id).map Cell.text := by
      simp [Ledger.table, Entry.row]
    rw [hids]
    exact hd.ids.map fun _ _ => Cell.text.inj
  unbroken := by
    intro r hr
    obtain ⟨e, he, rfl⟩ := List.mem_map.mp hr
    have hothers : (es.table guards).rows.filter (fun o => o.id != e.row.id) =
        (es.filter fun x => x.id != e.id).map Entry.row := by
      rw [Ledger.table, List.filter_map]
      refine congrArg (List.map Entry.row) (List.filter_congr ?_)
      intro x _
      simp [Entry.row, bne]
    rw [hothers]
    refine Ledger.broken?_row ?_ ?_
    · intro x hx
      simpa using (List.mem_filter.mp hx).2
    · intro x hx hident
      obtain ⟨hx, hne⟩ := List.mem_filter.mp hx
      simp [Ledger.eq_of_identity_eq hd hx he hident] at hne

/-- Whether the delivery of some ids cannot be confirmed. -/
def Database.Unmarkable (db : Database) (ids : List String) : Prop :=
  ids ≠ [] ∧ (db.readOnly = true ∨ ∃ t ∈ db.table, t.Refuses ids)

theorem Database.Unmarkable.mono {db : Database} {ids ids' : List String} (h : db.Unmarkable ids)
    (hsub : ids ⊆ ids') : db.Unmarkable ids' := by
  refine ⟨fun hnil => h.1 (List.subset_nil.mp (hnil ▸ hsub)), h.2.imp_right ?_⟩
  rintro ⟨t, ht, r, hr, hid, hguard⟩
  exact ⟨t, ht, r, hr, List.map_subset _ hsub hid, hguard⟩

theorem Database.restored_restored (db : Database) : db.restored.restored = db.restored := by
  cases h : db.saved <;> simp [Database.restored, h]

/-- The database where a statement that writes has been stopped. -/
def Database.stopped (db : Database) (t : Table) : Raise → Database
  | .fail => { db with table := some t }
  | .rollback => db.restored
  | .abort | .ignore => db

/-- Where the table at the stop leads back to where the table at the start does, so does the database. -/
theorem Database.restored_stopped {db : Database} {t : Table}
    (hkept : restored { db with table := some t } = db.restored) (how : Raise) :
    (db.stopped t how).restored = db.restored := by
  cases how with
  | abort => rfl
  | fail => exact hkept
  | rollback => exact db.restored_restored
  | ignore => rfl

/-- What a confirmation of some ids leaves that a guard breaks off within a transaction: the marks
of the ids before the one refused, unless the guard ends the transaction. -/
def Database.Halted (db : Database) (t : Table) (ids : List String) (sentAt : Int)
    (after : Database) : Prop :=
  ∃ marked id rest how, ids = marked ++ id :: rest ∧ ¬ t.Refuses marked ∧ t.RefusesId id how ∧
    after = if how = .rollback then db.restored
      else { db with table := some (t.confirm marked sentAt) }

namespace Database

variable {db after : Database} {t : Table} {id : String} {ids : List String} {sentAt : Int}

theorem halted_first (ht : db.table = some t) {how : Raise} (h : t.RefusesId id how)
    (ids : List String) (sentAt : Int) : db.Halted t (id :: ids) sentAt (db.stopped t how) := by
  refine ⟨[], id, ids, how, rfl, fun ⟨_, _, hid, _⟩ => by simp at hid, h, ?_⟩
  have hself : { db with table := some t } = db := by rw [← ht]
  rw [Table.confirm_nil, hself]
  cases how with
  | abort => rfl
  | fail => exact hself
  | rollback => rfl
  | ignore => rfl

theorem Halted.cons (hs : db.saved ≠ none) (hid : ¬ t.Refuses [id])
    (h : Halted { db with table := some (t.confirm [id] sentAt) } (t.confirm [id] sentAt) ids sentAt
      after) : db.Halted t (id :: ids) sentAt after := by
  obtain ⟨marked, bad, rest, how, rfl, hmarked, hbad, hafter⟩ := h
  refine ⟨id :: marked, bad, rest, how, rfl, ?_, hbad.of_confirm, ?_⟩
  · rw [Table.refuses_cons, not_or]
    exact ⟨hid, by rwa [Table.refuses_confirm] at hmarked⟩
  · rw [hafter, restored_showing hs, Table.confirm_cons id marked]

theorem Halted.restored (hs : db.saved ≠ none) (h : db.Halted t ids sentAt after) :
    after.restored = db.restored := by
  obtain ⟨marked, -, -, how, -, -, -, rfl⟩ := h
  split
  next => exact db.restored_restored
  next => exact restored_showing hs (t.confirm marked sentAt)

end Database

namespace Session

variable {s : Store} {t : Table}

theorem run_write_stopped {α : Type} {f : Table → Effect α} {t' : Table} {how : Raise}
    {e : EngineError} (ht : s.db.writable? = .ok t) (h : f t = .stopped t' how e) :
    (write f).run s = (.error (.ofEngine e), { s with db := s.db.stopped t' how }) := by
  have hwrite : s.db.write f = (.error e, s.db.stopped t' how) := by
    simp only [Database.write, ht, h]
    cases how <;> rfl
  rw [run_write, hwrite]
  rfl

theorem run_markEach_ok (ht : s.db.table = some t) (hl : t.Lawful) {ids : List String}
    (h : ¬ s.db.Unmarkable ids) (sentAt : Int) :
    (markEach sentAt ids).run s =
      (.ok (ids.filter t.marks).length,
        { s with db := { s.db with table := some (t.confirm ids sentAt) } }) := by
  induction ids generalizing s t with
  | nil =>
    have hself : { s with db := { s.db with table := some (t.confirm [] sentAt) } } = s := by
      rw [Table.confirm_nil, ← ht]
    rw [hself]
    rfl
  | cons id ids ih =>
    obtain ⟨hw, hrefuses⟩ : s.db.readOnly = false ∧ ¬ t.Refuses (id :: ids) := by
      simpa [Database.Unmarkable, ht] using h
    have hwritable : s.db.writable? = .ok t := Database.writable?_of_table ht hw
    rw [Table.refuses_cons, not_or] at hrefuses
    obtain ⟨row, hdone, hmarks⟩ := Table.updateId_confirm hl hrefuses.1 sentAt
    have hrest := ih (s := { s with db := { s.db with table := some (t.confirm [id] sentAt) } })
      rfl (hl.confirm [id] sentAt)
      (by simp [Database.Unmarkable, hw, Table.refuses_confirm, hrefuses.2])
    -- Confirming one id makes no other one countable, so the count is over the table at the start.
    have hcount : (t.confirm [id] sentAt).marks = t.marks := funext Table.marks_confirm
    rw [hcount] at hrest
    rw [markEach, run_bind_ok (run_write_done hwritable hdone), run_bind_ok hrest, run_pure,
      Table.confirm_cons id ids sentAt t, hmarks, List.filter_cons]
    cases t.marks id <;> simp [Nat.add_comm]

/-- Within a transaction what has been confirmed before a refusal stays. -/
theorem run_markEach_refused (ht : s.db.table = some t) (hl : t.Lawful) (hs : s.db.saved ≠ none)
    (hw : s.db.readOnly = false) {ids : List String} (h : t.Refuses ids) (sentAt : Int) :
    ∃ e db, (markEach sentAt ids).run s = (.error e, { s with db }) ∧ s.db.Halted t ids sentAt db := by
  induction ids generalizing s t with
  | nil =>
    obtain ⟨r, -, hid, -⟩ := h
    simp at hid
  | cons id ids ih =>
    rw [markEach]
    have hwritable : s.db.writable? = .ok t := Database.writable?_of_table ht hw
    by_cases hid : t.Refuses [id]
    · obtain ⟨how, hid⟩ := (Table.refuses_singleton t id).mp hid
      obtain ⟨e, hstopped⟩ := Table.updateId_refused hl hid sentAt
      have hwrite := run_write_stopped
        (f := fun t => t.updateId id [.update, .sentAt] (Table.deliver sentAt)) hwritable hstopped
      exact ⟨_, _, run_bind_error hwrite _, Database.halted_first ht hid ids sentAt⟩
    · obtain ⟨row, hdone, -⟩ := Table.updateId_confirm hl hid sentAt
      have hrefuses : (t.confirm [id] sentAt).Refuses ids := by
        rw [Table.refuses_confirm]
        exact ((Table.refuses_cons t id ids).mp h).resolve_left hid
      obtain ⟨e, db, hrest, hhalted⟩ :=
        ih (s := { s with db := { s.db with table := some (t.confirm [id] sentAt) } }) rfl
          (hl.confirm [id] sentAt) hs hw hrefuses
      refine ⟨e, db, ?_, hhalted.cons hs hid⟩
      rw [run_bind_ok (run_write_done hwritable hdone), run_bind_error hrest]

theorem run_markEach_readOnly (hw : s.db.readOnly = true) {ids : List String} (hids : ids ≠ [])
    (sentAt : Int) : ∃ e, (markEach sentAt ids).run s = (.error e, s) := by
  obtain ⟨id, ids, rfl⟩ := List.exists_cons_of_ne_nil hids
  obtain ⟨e, hrefused⟩ := Database.writable?_of_readOnly hw
  exact ⟨_, run_bind_error (run_write_refused hrefused) _⟩

theorem run_markSent_ok (ht : s.db.table = some t) (hl : t.Lawful) {ids : List String}
    (h : ¬ s.db.Unmarkable ids) (at_ : Instant) :
    ∃ s', (markSent ids at_).run s = (.ok (ids.filter t.marks).length, s') ∧
      s'.isOpen = s.isOpen ∧ s'.db = { s.db with table := some (t.confirm ids at_.micros) } := by
  have hwork : ∀ s : Store, s.db.table = some t → ¬ s.db.Unmarkable ids →
      (do prepare; markEach at_.micros ids : Session Nat).run s = (.ok (ids.filter t.marks).length,
        { s with prepared := true, db := { s.db with table := some (t.confirm ids at_.micros) } }) := by
    intro s ht h
    rw [run_bind_ok (run_prepare ht)]
    exact run_markEach_ok (s := { s with prepared := true }) ht hl h at_.micros
  by_cases hs : s.db.saved = none
  · have hrun := hwork s.begun ht h
    refine ⟨_, run_tx_ok hs hrun (by simp [Store.begun]), rfl, ?_⟩
    simp [Store.begun, hs]
  · exact ⟨_, (run_tx_joined _ hs).trans (hwork s ht h), rfl, rfl⟩

/-- A confirmation that is refused leaves nothing outside a transaction, and within one what it has
confirmed before. -/
theorem run_markSent_error (ht : s.db.table = some t) (hl : t.Lawful) {ids : List String}
    (h : s.db.Unmarkable ids) (at_ : Instant) :
    ∃ e s', (markSent ids at_).run s = (.error e, s') ∧ s'.isOpen = s.isOpen ∧
      if s.db.saved = none ∨ s.db.readOnly = true then s'.db = s.db
      else s.db.Halted t ids at_.micros s'.db := by
  have hfail : ∀ s : Store, s.db.table = some t → s.db.Unmarkable ids → s.db.saved ≠ none →
      ∃ e s', (do prepare; markEach at_.micros ids : Session Nat).run s = (.error e, s') ∧
        s'.isOpen = s.isOpen ∧
        if s.db.readOnly = true then s'.db = s.db else s.db.Halted t ids at_.micros s'.db := by
    intro s ht h hs
    rw [run_bind_ok (run_prepare ht)]
    obtain ⟨hids, h⟩ := h
    cases hw : s.db.readOnly with
    | true =>
      obtain ⟨e, hmark⟩ := run_markEach_readOnly (s := { s with prepared := true }) hw hids at_.micros
      exact ⟨e, _, hmark, rfl, rfl⟩
    | false =>
      have hrefuses : t.Refuses ids := by simpa [hw, ht] using h
      obtain ⟨e, db, hmark, hhalted⟩ :=
        run_markEach_refused (s := { s with prepared := true }) ht hl hs hw hrefuses at_.micros
      exact ⟨e, _, hmark, rfl, hhalted⟩
  by_cases hs : s.db.saved = none
  · have hrestored : s.begun.db.restored = s.db := by
      simp [Store.begun, Database.restored, ← hs]
    obtain ⟨e, s', hwork, hopen, hdb⟩ := hfail s.begun ht h (by simp [Store.begun])
    refine ⟨e, _, run_tx_error hs hwork, hopen, ?_⟩
    rw [if_pos (.inl hs)]
    split at hdb
    next => exact (congrArg Database.restored hdb).trans hrestored
    next => exact (hdb.restored (by simp [Store.begun])).trans hrestored
  · obtain ⟨e, s', hwork, hopen, hdb⟩ := hfail s ht h hs
    refine ⟨e, s', (run_tx_joined _ hs).trans hwork, hopen, ?_⟩
    simpa only [hs, false_or] using hdb

end Session

end ClusterOutbox
