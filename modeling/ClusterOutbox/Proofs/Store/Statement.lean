import ClusterOutbox.Proofs.Store.Session

namespace ClusterOutbox

def Effect.void {α : Type} : Effect α → Effect Unit
  | done t _ => .done t ()
  | stopped t how e => .stopped t how e

/-- Statements that write, as the operations of a session make them. -/
inductive Statement
  | insert (new : Row) (merge : Option (Row → Row))
  | change (id : String) (f : Row → Row)
  | delete (target : Row → Bool)

def Statement.effect : Statement → Table → Effect Unit
  | insert new merge, t => (t.insert new merge).void
  | change id f, t => (t.updateId id [.update, .sentAt] f).void
  | delete target, t => (t.delete target).void

/-- A guard that undoes what it refuses, and nothing else: it neither ends a transaction nor keeps a
part of a deletion. -/
def Guard.Clean (g : Guard) : Prop :=
  g.raise ≠ .rollback ∧ (g.watch = .delete → g.raise ≠ .fail)

instance (g : Guard) : Decidable g.Clean := inferInstanceAs (Decidable (_ ∧ _))

def Table.Clean (t : Table) : Prop := ∀ g ∈ t.guards, g.Clean

instance (t : Table) : Decidable t.Clean := inferInstanceAs (Decidable (∀ g ∈ t.guards, _))

/-- A statement that goes through keeps the guards; one that is stopped leaves the table, and leaves
the transaction open. -/
inductive Effect.Whole (t : Table) : Effect Unit → Prop
  | done {t' : Table} : t'.guards = t.guards → Whole t (.done t' ())
  | undone {t' : Table} {how : Raise} {e : EngineError} : how ≠ .rollback → how ≠ .fail →
    Whole t (.stopped t' how e)
  | unchanged {how : Raise} {e : EngineError} : how ≠ .rollback → Whole t (.stopped t how e)

namespace Table

variable {t : Table} {watched : List Watch} {r : Row} {g : Guard}

theorem watches_of_guard? (h : t.guard? watched r = some g) : g ∈ t.guards ∧ g.watch ∈ watched := by
  have hrefuses := List.find?_some h
  have hwatch := (Bool.and_eq_true_iff.mp hrefuses).1
  exact ⟨List.mem_of_find?_eq_some h, List.contains_iff_mem.mp hwatch⟩

theorem whole_refused (ht : t.Clean) (hg : t.guard? watched r = some g) (e : EngineError) :
    Effect.Whole t (.stopped t g.raise e) :=
  .unchanged (ht g (watches_of_guard? hg).1).1

theorem whole_updateId (ht : t.Clean) (id : String) (f : Row → Row) :
    Effect.Whole t (t.updateId id watched f).void := by
  unfold updateId
  cases hold : t.rows.find? fun r => r.id == .text id with
  | none => exact .done rfl
  | some old =>
    cases hguard : t.guard? watched old with
    | some g =>
      by_cases hraise : g.raise = .ignore
      · simp only [hguard, if_pos hraise]
        exact .done rfl
      · simp only [hguard, if_neg hraise]
        exact whole_refused ht hguard _
    | none =>
      simp only [hguard]
      cases broken? (t.rows.filter fun r => r.id != .text id) (f old) with
      | some e => exact .unchanged (by decide)
      | none => exact .done rfl

theorem whole_insert (ht : t.Clean) (new : Row) (merge : Option (Row → Row)) :
    Effect.Whole t (t.insert new merge).void := by
  unfold insert
  cases hguard : t.guard? [.insert] new with
  | some g =>
    by_cases hraise : g.raise = .ignore
    · simp only [if_pos hraise]
      exact .done rfl
    · simp only [if_neg hraise]
      exact whole_refused ht hguard _
  | none =>
    cases hold : t.rows.find? fun r => r.sameIdentity new with
    | none =>
      simp only
      cases broken? t.rows new with
      | some e => exact .unchanged (by decide)
      | none => exact .done rfl
    | some old =>
      cases merge with
      | none => exact .done rfl
      | some merge =>
        simp only
        cases hguard' : t.guard? [.update, .sentAt] old with
        | some g =>
          by_cases hraise : g.raise = .ignore
          · simp only [if_pos hraise]
            exact .done rfl
          · simp only [if_neg hraise]
            exact whole_refused ht hguard' _
        | none =>
          simp only
          cases broken? (t.rows.filter fun r => !r.sameIdentity new) (merge old) with
          | some e => exact .unchanged (by decide)
          | none => exact .done rfl

theorem whole_deleteFrom (ht : t.Clean) (target : Row → Bool) (kept : List Row) (count : Nat)
    (rest : List Row) : Effect.Whole t (t.deleteFrom target kept count rest).void := by
  induction rest generalizing kept count with
  | nil => exact .done rfl
  | cons r rest ih =>
    rw [deleteFrom]
    by_cases htarget : target r
    · rw [if_pos htarget]
      cases hguard : t.guard? [.delete] r with
      | some g =>
        by_cases hraise : g.raise = .ignore
        · simp only [if_pos hraise]
          exact ih (r :: kept) count
        · simp only [if_neg hraise]
          obtain ⟨hmem, hwatch⟩ := watches_of_guard? hguard
          have hdelete : g.watch = .delete := List.mem_singleton.mp hwatch
          obtain ⟨hrollback, hfail⟩ := ht g hmem
          exact .undone hrollback (hfail hdelete)
      | none => exact ih kept (count + 1)
    · rw [if_neg htarget]
      exact ih (r :: kept) count

theorem whole_effect (ht : t.Clean) (st : Statement) : Effect.Whole t (st.effect t) := by
  cases st with
  | insert new merge => exact whole_insert ht new merge
  | change id f => exact whole_updateId ht id f
  | delete target => exact whole_deleteFrom ht target [] 0 t.rows

end Table

/-- Whether the guards of the table, where there is one, are clean. -/
def Database.Clean (db : Database) : Prop := ∀ t ∈ db.table, t.Clean

namespace Database

/-- A database with another table, inside a transaction or not. -/
def showing (db : Database) (table : Option Table) (saved : Option (Option Table)) : Database :=
  { db with table, saved }

theorem write_void {α : Type} (db : Database) (f : Table → Effect α) :
    db.write (fun t => (f t).void) = ((db.write f).1.map fun _ => (), (db.write f).2) := by
  unfold write
  cases db.writable? with
  | error e => rfl
  | ok t =>
    simp only
    cases f t with
    | done t' a => rfl
    | stopped t' how e => cases how <;> rfl

/-- A statement does the same inside a transaction and outside, and leaves the database as it was
where it fails. -/
theorem write_effect {db : Database} (hclean : db.Clean) (st : Statement) :
    (∃ t, t.Clean ∧ ∀ saved,
      (db.showing db.table saved).write st.effect = (.ok (), db.showing (some t) saved)) ∨
    ∃ e, ∀ saved,
      (db.showing db.table saved).write st.effect = (.error e, db.showing db.table saved) := by
  cases htable : db.table with
  | none =>
    right
    refine ⟨noTable, fun saved => ?_⟩
    simp [write, writable?, table?, showing]
  | some t =>
    have ht : t.Clean := hclean t htable
    cases hreadOnly : db.readOnly with
    | true =>
      right
      refine ⟨readOnlyError, fun saved => ?_⟩
      simp [write, writable?, table?, showing, hreadOnly]
    | false =>
      have hwritable (saved : Option (Option Table)) :
          (db.showing (some t) saved).writable? = .ok t := by
        simp [writable?, table?, showing, hreadOnly]
      have hwhole := Table.whole_effect ht st
      simp only [write, hwritable]
      generalize st.effect t = effect at hwhole
      cases hwhole with
      | @done t' hguards =>
        left
        refine ⟨t', ?_, fun _ => rfl⟩
        intro g hg
        exact ht g (hguards ▸ hg)
      | @undone t' how e hrollback hfail =>
        right
        refine ⟨e, fun saved => ?_⟩
        cases how with
        | abort => rfl
        | fail => exact absurd rfl hfail
        | rollback => exact absurd rfl hrollback
        | ignore => rfl
      | @unchanged how e hrollback =>
        right
        refine ⟨e, fun saved => ?_⟩
        cases how with
        | abort => rfl
        | fail => rfl
        | rollback => exact absurd rfl hrollback
        | ignore => rfl

end Database

end ClusterOutbox
