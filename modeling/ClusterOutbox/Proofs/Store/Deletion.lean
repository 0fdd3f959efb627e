import ClusterOutbox.Proofs.Store.Lawful
import ClusterOutbox.Retention.Keeper

namespace ClusterOutbox

namespace Table

/-- Whether a guard answers a write to a row with an error. -/
def forbids (t : Table) (watched : List Watch) (r : Row) : Bool :=
  match t.guard? watched r with
  | some g => g.raise ≠ .ignore
  | none => false

def drops (t : Table) (target : Row → Bool) (r : Row) : Bool := target r && !t.skips [.delete] r

def without (target : Row → Bool) (t : Table) : Table :=
  { t with rows := t.rows.filter fun r => !t.drops target r }

/-- A deletion that would go over a row that it must not delete. -/
def Stuck (t : Table) (target : Row → Bool) : Prop :=
  ∃ r ∈ t.rows, target r = true ∧ t.forbids [.delete] r = true

instance (t : Table) (target : Row → Bool) : Decidable (t.Stuck target) :=
  inferInstanceAs (Decidable (∃ r ∈ t.rows, _))

variable {t : Table} {target : Row → Bool}

theorem guard?_cases (t : Table) (watched : List Watch) (r : Row) :
    (t.guard? watched r = none ∧ t.forbids watched r = false ∧ t.skips watched r = false) ∨
    (∃ g, t.guard? watched r = some g ∧ g.raise = .ignore ∧ t.forbids watched r = false ∧
      t.skips watched r = true) ∨
    ∃ g, t.guard? watched r = some g ∧ g.raise ≠ .ignore ∧ t.forbids watched r = true := by
  cases hguard : t.guard? watched r with
  | none => exact .inl ⟨rfl, by simp [forbids, hguard], by simp [skips, hguard]⟩
  | some g =>
    by_cases hraise : g.raise = .ignore
    · exact .inr (.inl ⟨g, rfl, hraise, by simp [forbids, hguard, hraise],
        by simp [skips, hguard, hraise]⟩)
    · exact .inr (.inr ⟨g, rfl, hraise, by simp [forbids, hguard, hraise]⟩)

theorem deleteFrom_done (kept : List Row) (count : Nat) {rows : List Row}
    (h : ∀ r ∈ rows, target r = true → t.forbids [.delete] r = false) :
    t.deleteFrom target kept count rows =
      .done { t with rows := kept.reverse ++ rows.filter fun r => !t.drops target r }
        (count + (rows.filter (t.drops target)).length) := by
  induction rows generalizing kept count with
  | nil => simp [deleteFrom]
  | cons r rows ih =>
    have hrest : ∀ x ∈ rows, target x = true → t.forbids [.delete] x = false :=
      fun x hx => h x (List.mem_cons_of_mem r hx)
    rw [deleteFrom]
    by_cases htarget : target r = true
    · rcases t.guard?_cases [.delete] r with
        ⟨hguard, _, hskips⟩ | ⟨g, hguard, hraise, _, hskips⟩ | ⟨g, _, _, hforbids⟩
      · have hdrops : t.drops target r = true := by simp [drops, htarget, hskips]
        rw [if_pos htarget, hguard]
        simp only [ih kept (count + 1) hrest, List.filter_cons, hdrops, Bool.not_true,
          Bool.false_eq_true, if_false, if_true, List.length_cons]
        congr 1
        omega
      · have hdrops : t.drops target r = false := by simp [drops, hskips]
        rw [if_pos htarget, hguard]
        simp [hraise, ih (r :: kept) count hrest, hdrops]
      · rw [h r List.mem_cons_self htarget] at hforbids
        exact absurd hforbids Bool.false_ne_true
    · have hdrops : t.drops target r = false := by simp [drops, htarget]
      rw [if_neg htarget, ih (r :: kept) count hrest]
      simp [hdrops]

theorem deleteFrom_stopped (kept : List Row) (count : Nat) {rows : List Row}
    (h : ∃ r ∈ rows, target r = true ∧ t.forbids [.delete] r = true) :
    ∃ t' how e, t.deleteFrom target kept count rows = .stopped t' how e := by
  induction rows generalizing kept count with
  | nil =>
    obtain ⟨r, hr, -⟩ := h
    exact absurd hr List.not_mem_nil
  | cons r rows ih =>
    rw [deleteFrom]
    by_cases hforbids : target r = true ∧ t.forbids [.delete] r = true
    · rcases t.guard?_cases [.delete] r with ⟨_, hnot, _⟩ | ⟨g, _, _, hnot, _⟩ | ⟨g, hguard, hraise, _⟩
      · simp [hnot] at hforbids
      · simp [hnot] at hforbids
      · rw [if_pos hforbids.1, hguard]
        exact ⟨_, g.raise, raised g, if_neg hraise⟩
    · -- The row that stops the deletion is a later one.
      have hrest : ∃ x ∈ rows, target x = true ∧ t.forbids [.delete] x = true := by
        obtain ⟨x, hx, hstop⟩ := h
        rcases List.mem_cons.mp hx with rfl | hx
        · exact absurd hstop hforbids
        · exact ⟨x, hx, hstop⟩
      by_cases htarget : target r = true
      · rw [if_pos htarget]
        rcases t.guard?_cases [.delete] r with
          ⟨hguard, _⟩ | ⟨g, hguard, hraise, _⟩ | ⟨g, _, _, hforbidden⟩
        · rw [hguard]
          exact ih kept (count + 1) hrest
        · rw [hguard]
          simp only [hraise, if_true]
          exact ih (r :: kept) count hrest
        · exact absurd ⟨htarget, hforbidden⟩ hforbids
      · rw [if_neg htarget]
        exact ih (r :: kept) count hrest

theorem delete_done (h : ¬ t.Stuck target) :
    t.delete target = .done (t.without target) (t.rows.filter (t.drops target)).length := by
  have hrows : ∀ r ∈ t.rows, target r = true → t.forbids [.delete] r = false := by
    intro r hr htarget
    by_contra hforbids
    exact h ⟨r, hr, htarget, by simpa using hforbids⟩
  rw [delete, deleteFrom_done [] 0 hrows, Nat.zero_add]
  rfl

theorem delete_stopped (h : t.Stuck target) :
    ∃ t' how e, t.delete target = .stopped t' how e := deleteFrom_stopped [] 0 h

theorem stuck_congr {other : Row → Bool} (h : ∀ r ∈ t.rows, target r = other r) :
    t.Stuck target ↔ t.Stuck other := by
  refine exists_congr ?_
  intro r
  refine and_congr_right ?_
  intro hr
  rw [h r hr]

theorem drops_congr {other : Row → Bool} (h : ∀ r ∈ t.rows, target r = other r) :
    t.rows.filter (t.drops target) = t.rows.filter (t.drops other) :=
  List.filter_congr fun r hr => by rw [drops, drops, h r hr]

theorem without_congr {other : Row → Bool} (h : ∀ r ∈ t.rows, target r = other r) :
    t.without target = t.without other := by
  refine congrArg (fun rows => (⟨rows, t.guards⟩ : Table)) (List.filter_congr ?_)
  intro r hr
  rw [drops, drops, h r hr]

theorem without_rows_drops (t : Table) (target : Row → Bool) :
    (t.without target).rows.filter ((t.without target).drops target) = [] := by
  rw [List.filter_eq_nil_iff]
  intro r hr
  have hkept : (!t.drops target r) = true := (List.mem_filter.mp hr).2
  change ¬ t.drops target r = true
  simpa using hkept

theorem without_without (t : Table) (target : Row → Bool) :
    (t.without target).without target = t.without target := by
  refine congrArg (fun rows => (⟨rows, t.guards⟩ : Table)) (List.filter_eq_self.mpr ?_)
  intro r hr
  exact (List.mem_filter.mp hr).2

/-- The rows of one of some ids. -/
def named (ids : List String) (r : Row) : Bool := r.id ∈ ids.map Cell.text

theorem named_cons (id : String) (ids : List String) (r : Row) :
    named (id :: ids) r = (r.id == .text id || named ids r) := by
  simp [named, Bool.beq_eq_decide_eq]

theorem named_nil (r : Row) : named [] r = false := by simp [named]

theorem without_nil (t : Table) : t.without (named []) = t := by
  have hrows : (t.rows.filter fun r => !t.drops (named []) r) = t.rows :=
    List.filter_eq_self.mpr fun r _ => by simp [drops, named_nil]
  rw [without, hrows]

theorem drops_cons (id : String) (ids : List String) (t : Table) (r : Row) :
    t.drops (named (id :: ids)) r =
      (t.drops (fun r => r.id == .text id) r || t.drops (named ids) r) := by
  rw [drops, named_cons, Bool.and_or_distrib_right]
  rfl

theorem without_cons (id : String) (ids : List String) (t : Table) :
    t.without (named (id :: ids)) =
      (t.without fun r => r.id == .text id).without (named ids) := by
  have hdrops : (t.without fun r => r.id == .text id).drops (named ids) = t.drops (named ids) := rfl
  refine congrArg (fun rows => (⟨rows, t.guards⟩ : Table)) ?_
  rw [hdrops, without, List.filter_filter]
  refine List.filter_congr ?_
  intro r _
  rw [drops_cons, Bool.not_or, Bool.and_comm]

/-- A row that goes with an earlier id is not counted again. -/
theorem length_dropped_cons (id : String) (ids : List String) (t : Table) :
    (t.rows.filter (t.drops fun r => r.id == .text id)).length +
        ((t.without fun r => r.id == .text id).rows.filter
          ((t.without fun r => r.id == .text id).drops (named ids))).length =
      (t.rows.filter (t.drops (named (id :: ids)))).length := by
  have hdrops : (t.without fun r => r.id == .text id).drops (named ids) = t.drops (named ids) := rfl
  have hfirst : (t.rows.filter (t.drops (named (id :: ids)))).filter
      (t.drops fun r => r.id == .text id) = t.rows.filter (t.drops fun r => r.id == .text id) := by
    rw [List.filter_filter]
    refine List.filter_congr ?_
    intro r _
    rw [drops_cons]
    cases t.drops (fun r => r.id == .text id) r <;> simp
  have hothers : (t.rows.filter (t.drops (named (id :: ids)))).filter
      (fun r => !t.drops (fun r => r.id == .text id) r) =
        (t.without fun r => r.id == .text id).rows.filter (t.drops (named ids)) := by
    rw [without, List.filter_filter, List.filter_filter]
    refine List.filter_congr ?_
    intro r _
    rw [drops_cons]
    cases t.drops (fun r => r.id == .text id) r <;> simp
  have hsplit := List.length_eq_length_filter_add (l := t.rows.filter (t.drops (named (id :: ids))))
    (t.drops fun r => r.id == .text id)
  rw [hsplit, hfirst, hothers, hdrops]

theorem stuck_cons (id : String) (ids : List String) (t : Table) :
    t.Stuck (named (id :: ids)) ↔ t.Stuck (fun r => r.id == .text id) ∨ t.Stuck (named ids) := by
  simp only [Stuck, named_cons, Bool.or_eq_true, or_and_right, and_or_left, exists_or]

/-- What a guard refuses, no deletion of other rows takes away. -/
theorem stuck_without {other : Row → Bool} (h : ¬ t.Stuck other) :
    (t.without other).Stuck target ↔ t.Stuck target := by
  constructor
  · rintro ⟨r, hr, hstop⟩
    exact ⟨r, (List.mem_filter.mp hr).1, hstop⟩
  · rintro ⟨r, hr, htarget, hforbids⟩
    have hother : other r = false := by
      by_contra hother
      exact h ⟨r, hr, by simpa using hother, hforbids⟩
    exact ⟨r, List.mem_filter.mpr ⟨hr, by simp [drops, hother]⟩, htarget, hforbids⟩

end Table

def Store.holding (t : Table) (s : Store) : Store :=
  { s with db := { s.db with table := some t } }

namespace Session

variable {s : Store} {t : Table}

theorem run_delete_done (ht : s.db.writable? = .ok t) {id : String}
    (h : ¬ t.Stuck fun r => r.id == .text id) :
    (delete id).run s =
      (.ok (t.rows.filter (t.drops fun r => r.id == .text id)).length,
        s.holding (t.without fun r => r.id == .text id)) := by
  unfold delete
  rw [run_tryCatch, run_write_done ht (Table.delete_done h)]
  rfl

theorem run_delete_stopped (ht : s.db.writable? = .ok t) (hs : s.db.saved ≠ none) {id : String}
    (h : t.Stuck fun r => r.id == .text id) :
    ∃ e s', (delete id).run s = (.error e, s') ∧ s'.isOpen = s.isOpen ∧
      s'.db.restored = s.db.restored := by
  obtain ⟨t', how, e, hstopped⟩ := Table.delete_stopped h
  have hwrite := run_write_stopped
    (f := fun t => t.delete fun r => r.id == Cell.text id) ht hstopped
  unfold delete
  rw [run_tryCatch, hwrite]
  exact ⟨.ofEngine e, _, rfl, rfl,
    Database.restored_stopped (Database.restored_showing hs t') how⟩

end Session

namespace Keeper

variable {s : Store} {t : Table}

theorem run_deleteEach_done (ht : s.db.table = some t) (hw : s.db.readOnly = false)
    (records : List Record) (h : ¬ t.Stuck (Table.named (records.map (·.id)))) :
    (deleteEach records).run s =
      (.ok (t.rows.filter (t.drops (Table.named (records.map (·.id))))).length,
        s.holding (t.without (Table.named (records.map (·.id))))) := by
  induction records generalizing s t with
  | nil =>
    have hdropped : (t.rows.filter (t.drops (Table.named []))).length = 0 := by
      rw [List.length_eq_zero_iff, List.filter_eq_nil_iff]
      intro r _
      simp [Table.drops, Table.named_nil]
    have hself : s.holding t = s := by rw [Store.holding, ← ht]
    rw [deleteEach, Session.run_pure, List.map_nil, Table.without_nil, hself, hdropped]
  | cons r records ih =>
    rw [List.map_cons, Table.stuck_cons, not_or] at h
    have hwritable : s.db.writable? = .ok t := Database.writable?_of_table ht hw
    have hrest : ¬ (t.without fun x => x.id == .text r.id).Stuck
        (Table.named (records.map (·.id))) := mt (Table.stuck_without h.1).mp h.2
    rw [deleteEach, Session.run_bind_ok (Session.run_delete_done hwritable h.1),
      Session.run_bind_ok (ih (s := s.holding (t.without fun x => x.id == .text r.id)) rfl hw hrest),
      Session.run_pure, Table.length_dropped_cons, List.map_cons, Table.without_cons]
    rfl

/-- Inside a transaction, what has been deleted before a refusal goes with it. -/
theorem run_deleteEach_stopped (ht : s.db.table = some t) (hw : s.db.readOnly = false)
    (hs : s.db.saved ≠ none) (records : List Record)
    (h : t.Stuck (Table.named (records.map (·.id)))) :
    ∃ e s', (deleteEach records).run s = (.error e, s') ∧ s'.isOpen = s.isOpen ∧
      s'.db.restored = s.db.restored := by
  induction records generalizing s t with
  | nil =>
    obtain ⟨r, -, hnamed, -⟩ := h
    simp [Table.named_nil] at hnamed
  | cons r records ih =>
    rw [deleteEach]
    have hwritable : s.db.writable? = .ok t := Database.writable?_of_table ht hw
    by_cases hid : t.Stuck fun x => x.id == .text r.id
    · obtain ⟨e, s', hdelete, hkept⟩ := Session.run_delete_stopped hwritable hs hid
      exact ⟨e, s', Session.run_bind_error hdelete _, hkept⟩
    · rw [List.map_cons, Table.stuck_cons] at h
      have hrest : (t.without fun x => x.id == .text r.id).Stuck
          (Table.named (records.map (·.id))) := (Table.stuck_without hid).mpr (h.resolve_left hid)
      obtain ⟨e, s', hdelete, hopen, hrestored⟩ :=
        ih (s := s.holding (t.without fun x => x.id == .text r.id)) rfl hw hs hrest
      refine ⟨e, s', ?_, hopen, hrestored.trans (Database.restored_showing hs _)⟩
      rw [Session.run_bind_ok (Session.run_delete_done hwritable hid),
        Session.run_bind_error hdelete]

end Keeper

end ClusterOutbox
