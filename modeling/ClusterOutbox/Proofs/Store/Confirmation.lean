import ClusterOutbox.Proofs.Store.Calls
import ClusterOutbox.Proofs.Store.Steady

namespace ClusterOutbox

namespace Table

variable {t : Table}

theorem confirm_confirm (ids : List String) (sentAt : Int) (t : Table) :
    (t.confirm ids sentAt).confirm ids sentAt = t.confirm ids sentAt := by
  refine confirm_eq_self ?_
  intro r' hr'
  obtain ⟨r, -, rfl⟩ := List.mem_map.mp hr'
  by_cases h : r.id ∈ ids.map Cell.text ∧ t.skips [.update, .sentAt] r = false
  · have hagain : (t.confirmRow ids sentAt r).id ∈ ids.map Cell.text ∧
        (t.confirm ids sentAt).skips [.update, .sentAt] (t.confirmRow ids sentAt r) = false := by
      rwa [id_confirmRow, skips_confirmRow]
    rw [confirmRow, if_pos hagain, confirmRow, if_pos h, deliver_deliver]
  · refine if_neg ?_
    rwa [id_confirmRow, skips_confirmRow]

/-- No guard of the table passes over a row in silence. -/
def Outspoken (t : Table) : Prop := ∀ g ∈ t.guards, g.raise ≠ .ignore

instance (t : Table) : Decidable t.Outspoken :=
  inferInstanceAs (Decidable (∀ g ∈ t.guards, g.raise ≠ .ignore))

theorem Outspoken.skips (h : t.Outspoken) (watched : List Watch) (r : Row) :
    t.skips watched r = false := by
  unfold Table.skips
  cases hguard : t.guard? watched r with
  | none => rfl
  | some g => exact decide_eq_false (h g (List.mem_of_find?_eq_some hguard))

theorem Outspoken.marks (h : t.Outspoken) (id : String) :
    t.marks id = t.rows.any fun r => r.id == .text id := by
  simp only [Table.marks, h.skips, Bool.not_false, Bool.and_true]

theorem Outspoken.confirm (h : t.Outspoken) (ids : List String) (sentAt : Int) :
    t.confirm ids sentAt =
      { t with
        rows := t.rows.map fun r => if r.id ∈ ids.map .text then deliver sentAt r else r } := by
  have hrow : t.confirmRow ids sentAt =
      fun r => if r.id ∈ ids.map .text then deliver sentAt r else r := by
    funext r
    simp only [confirmRow, h.skips, and_true]
  rw [Table.confirm, hrow]

end Table

/-- Whether a connection cannot confirm the delivery of some ids: it is closed, or there is no table
where it takes one, or writes are refused, or a guard refuses one of the rows. -/
def Store.CannotMark (s : Store) (ids : List String) : Prop :=
  s.isOpen = false ∨ (s.db.table = none ∧ (s.prepared = false ∨ ids ≠ [])) ∨ s.db.Unmarkable ids

namespace Session

variable {s s' : Store} {ids : List String} {at_ : Instant}

theorem steady_markEach (sentAt : Int) (ids : List String) : (markEach sentAt ids).Steady := by
  induction ids with
  | nil => exact steady_pure 0
  | cons id ids ih =>
    rw [markEach]
    exact (steady_write _).bind fun _ => ih.bind fun _ => steady_pure _

theorem steady_confirmation (sentAt : Int) (ids : List String) :
    (do prepare; markEach sentAt ids : Session Nat).Steady :=
  steady_prepare.bind fun _ => steady_markEach sentAt ids

theorem run_markSent_missing (hs : s.db.saved = none) (ht : s.db.table = none) (at_ : Instant)
    (h : s.prepared = false ∨ ids ≠ []) :
    ∃ e u, (markSent ids at_).run s = (.error e, u) ∧ u.db = s.db := by
  have hwork : ∃ e s', (do prepare; markEach at_.micros ids : Session Nat).run s = (.error e, s') := by
    rcases run_prepare_cases s with ⟨hrun, hready⟩ | ⟨hrun, -⟩
    · have hprepared : s.prepared = true := hready.resolve_right (not_not.mpr ht)
      obtain ⟨id, ids, rfl⟩ := List.exists_cons_of_ne_nil (h.resolve_left (by simp [hprepared]))
      have hrefused : Database.writable? { s with prepared := true }.db = .error Database.noTable :=
        Database.writable?_of_missing ht
      rw [run_bind_ok hrun, markEach]
      exact ⟨_, _, run_bind_error (run_write_refused hrefused) _⟩
    · exact ⟨_, _, run_bind_error hrun _⟩
  obtain ⟨e, s', hrun⟩ := hwork
  exact ⟨e, (steady_confirmation at_.micros ids).run_tx_error hs hrun⟩

theorem run_markSent_refused (hs : s.db.saved = none) (hl : ∀ t ∈ s.db.table, t.Lawful)
    (h : s.CannotMark ids) (at_ : Instant) :
    ∃ e u, (call (markSent ids at_)).run s = (.error e, u) ∧ u.db = s.db ∧
      (s.isOpen = false → u.isOpen = false) := by
  by_cases hopen : s.isOpen = true
  · rw [run_call hopen]
    have hnot : s.isOpen = false → False := by simp [hopen]
    cases ht : s.db.table with
    | none =>
      have hmissing : s.prepared = false ∨ ids ≠ [] := by
        rcases h with hclosed | ⟨-, hmissing⟩ | hunmarkable
        · exact absurd hclosed hnot
        · exact hmissing
        · exact .inr hunmarkable.1
      obtain ⟨e, u, hrun, hdb⟩ := run_markSent_missing hs ht at_ hmissing
      exact ⟨e, u, hrun, hdb, fun hclosed => (hnot hclosed).elim⟩
    | some t =>
      have hunmarkable : s.db.Unmarkable ids := by
        rcases h with hclosed | ⟨hnone, -⟩ | hunmarkable
        · exact absurd hclosed hnot
        · simp [ht] at hnone
        · exact hunmarkable
      obtain ⟨e, u, hrun, -, hdb⟩ := run_markSent_error ht (hl t ht) hunmarkable at_
      rw [if_pos (.inl hs)] at hdb
      exact ⟨e, u, hrun, hdb, fun hclosed => (hnot hclosed).elim⟩
  · have hclosed : s.isOpen = false := by simpa using hopen
    exact ⟨_, s, run_call_closed hclosed, rfl, id⟩

theorem run_markSent_marked (hl : ∀ t ∈ s.db.table, t.Lawful) (h : ¬ s.CannotMark ids)
    (at_ : Instant) :
    ∃ u, (call (markSent ids at_)).run s =
        (.ok (ids.filter fun id => s.db.table.any (·.marks id)).length, u) ∧
      u.db = { s.db with table := s.db.table.map (Table.confirm ids at_.micros) } := by
  obtain ⟨hopen, hmissing, hunmarkable⟩ : s.isOpen = true ∧
      (s.db.table = none → s.prepared = true ∧ ids = []) ∧ ¬ s.db.Unmarkable ids := by
    simpa [Store.CannotMark] using h
  rw [run_call hopen]
  cases ht : s.db.table with
  | none =>
    obtain ⟨hprepared, rfl⟩ := hmissing ht
    have hwork : (do prepare; markEach at_.micros [] : Session Nat).run s = (.ok 0, s) := by
      rw [run_bind_ok (run_prepare_done hprepared)]
      rfl
    refine ⟨s, (steady_confirmation at_.micros []).run_tx_ok hwork, ?_⟩
    rw [Option.map_none, ← ht]
  | some t =>
    obtain ⟨u, hrun, -, hdb⟩ := run_markSent_ok ht (hl t ht) hunmarkable at_
    exact ⟨u, hrun, hdb⟩

/-- Whether it fails or not, a confirmation made a second time changes nothing. -/
theorem run_markSent_again (hs : s.db.saved = none) (hl : ∀ t ∈ s.db.table, t.Lawful)
    {result : Except StoreError Nat} {u : Store}
    (hrun : (call (markSent ids at_)).run s = (result, u)) :
    ((call (markSent ids at_)).run u).2.db = u.db := by
  have hrefused : ∀ v : Store, v.db.saved = none → (∀ t ∈ v.db.table, t.Lawful) →
      v.CannotMark ids → ((call (markSent ids at_)).run v).2.db = v.db := by
    intro v hv hl h
    obtain ⟨e, w, hagain, hdb, -⟩ := run_markSent_refused hv hl h at_
    rw [hagain, hdb]
  by_cases h : s.CannotMark ids
  · obtain ⟨e, v, hfirst, hdb, hclosed⟩ := run_markSent_refused hs hl h at_
    obtain rfl : v = u := (Prod.mk.inj (hfirst.symm.trans hrun)).2
    rw [← hdb] at hs hl
    by_cases h' : v.CannotMark ids
    · exact hrefused v hs hl h'
    · -- What has become possible takes no table, and there is none.
      have hnone : v.db.table = none := by
        rcases h with hopen | ⟨hnone, -⟩ | hunmarkable
        · exact absurd (.inl (hclosed hopen)) h'
        · rw [hdb, hnone]
        · exact absurd (.inr (.inr (hdb ▸ hunmarkable))) h'
      obtain ⟨w, hagain, hdb'⟩ := run_markSent_marked hl h' at_
      rw [hagain, hdb', hnone, Option.map_none, ← hnone]
  · obtain ⟨v, hfirst, hdb⟩ := run_markSent_marked hl h at_
    obtain rfl : v = u := (Prod.mk.inj (hfirst.symm.trans hrun)).2
    have hs' : v.db.saved = none := by
      rw [hdb]
      exact hs
    have hl' : ∀ t ∈ v.db.table, t.Lawful := by
      rw [hdb]
      intro t' ht'
      obtain ⟨t, ht, rfl⟩ := Option.map_eq_some_iff.mp ht'
      exact (hl t ht).confirm ids at_.micros
    by_cases h' : v.CannotMark ids
    · exact hrefused v hs' hl' h'
    · obtain ⟨w, hagain, hdb'⟩ := run_markSent_marked hl' h' at_
      have htwice : v.db.table.map (Table.confirm ids at_.micros) = v.db.table := by
        rw [hdb, Option.map_map]
        exact congrArg (s.db.table.map ·) (funext (Table.confirm_confirm ids at_.micros))
      rw [hagain, hdb', htwice]

/-- What a confirmation of some ids at a time does outside every transaction. -/
structure ConfirmsExactly (s : Store) (ids : List String) (at_ : Instant) : Prop where
  refused : s.CannotMark ids →
    ∃ e u, (call (markSent ids at_)).run s = (.error e, u) ∧ u.db = s.db
  marked : ¬ s.CannotMark ids →
    ∃ u, (call (markSent ids at_)).run s =
        (.ok (ids.filter fun id => s.db.table.any (·.marks id)).length, u) ∧
      u.db = { s.db with table := s.db.table.map (Table.confirm ids at_.micros) }
  /-- Where no guard passes over rows in silence, every id that has a row counts. -/
  outspoken : (∀ t ∈ s.db.table, t.Outspoken) → ¬ s.CannotMark ids →
    ∃ u, (call (markSent ids at_)).run s =
        (.ok (ids.filter fun id => s.db.rows.any fun row => row.id == .text id).length, u) ∧
      u.db = { s.db with table := s.db.table.map fun t => { t with
        rows := t.rows.map fun row =>
          if row.id ∈ ids.map .text then { row with sentAt := .integer at_.micros } else row } }
  again : ∀ result u, (call (markSent ids at_)).run s = (result, u) →
    ((call (markSent ids at_)).run u).2.db = u.db

theorem markSent_exact (hs : s.db.saved = none) (hl : ∀ t ∈ s.db.table, t.Lawful)
    (ids : List String) (at_ : Instant) : ConfirmsExactly s ids at_ where
  refused h := by
    obtain ⟨e, u, hrun, hdb, -⟩ := run_markSent_refused hs hl h at_
    exact ⟨e, u, hrun, hdb⟩
  marked h := run_markSent_marked hl h at_
  outspoken houtspoken h := by
    obtain ⟨u, hrun, hdb⟩ := run_markSent_marked hl h at_
    cases ht : s.db.table with
    | none =>
      simp only [ht, Database.rows] at hrun hdb ⊢
      exact ⟨u, hrun, hdb⟩
    | some t =>
      have ht' := houtspoken t ht
      simp only [ht, Database.rows, Option.any_some, Option.map_some, ht'.marks,
        ht'.confirm] at hrun hdb ⊢
      exact ⟨u, hrun, hdb⟩
  again := fun _ _ hrun => run_markSent_again hs hl hrun

/-- Two pods, and a guard of the deliveries of the second one. -/
def watchedPods (raise : Raise) : Store :=
  let s := ((Call.observeAll [
    (⟨.sampleSecond 10, "x"⟩, .fresh .pod "a" none),
    (⟨.sampleSecond 10, "y"⟩, .fresh .pod "b" none)]).perform .fresh).2
  { s with db := (s.db.guard ⟨"g", .sentAt, some "b", raise, "refused"⟩).2 }

theorem markSent_exact_watchedPods :
    (watchedPods .rollback).db.saved = none ∧
    (∀ t ∈ (watchedPods .rollback).db.table, t.Lawful) ∧
    ConfirmsExactly (watchedPods .rollback) ["x", "z", "y", "x"] (.sampleSecond 20) := by
  have hs : (watchedPods .rollback).db.saved = none := by decide +kernel
  have hl : ∀ t ∈ (watchedPods .rollback).db.table, t.Lawful := by decide +kernel
  exact ⟨hs, hl, markSent_exact hs hl ["x", "z", "y", "x"] (.sampleSecond 20)⟩

example :
    ((call (markSent ["x", "z", "x"] (.sampleSecond 20))).run (watchedPods .rollback)).1 = .ok 2 ∧
      ((call (markSent ["x", "z", "y", "x"] (.sampleSecond 20))).run (watchedPods .ignore)).1 =
        .ok 2 := by decide +kernel

end Session

end ClusterOutbox
