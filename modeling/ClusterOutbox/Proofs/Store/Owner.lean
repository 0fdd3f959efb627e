import ClusterOutbox.Proofs.Store.Deletion
import ClusterOutbox.Proofs.Store.Tidy

namespace ClusterOutbox

/-- A row that a guard does not let go stays, wherever a deletion stops. -/
theorem Table.mem_deleteFrom {t : Table} {row : Row} (hforbids : t.forbids [.delete] row = true)
    (target : Row → Bool) (kept : List Row) (count : Nat) {rest : List Row}
    (hrow : row ∈ kept ∨ row ∈ rest) :
    (t.deleteFrom target kept count rest).Leaves fun t' => row ∈ t'.rows := by
  induction rest generalizing kept count with
  | nil => exact List.mem_reverse.mpr (hrow.resolve_right List.not_mem_nil)
  | cons r rest ih =>
    have hkeep : row ∈ r :: kept ∨ row ∈ rest := by
      rcases hrow with hrow | hrow
      · exact .inl (List.mem_cons_of_mem r hrow)
      · rcases List.mem_cons.mp hrow with rfl | hrow
        · exact .inl List.mem_cons_self
        · exact .inr hrow
    rw [deleteFrom]
    by_cases htarget : target r = true
    · rw [if_pos htarget]
      cases hguard : t.guard? [.delete] r with
      | some g =>
        simp only
        split
        · exact ih (r :: kept) count hkeep
        · refine List.mem_append.mpr ?_
          rwa [List.mem_reverse]
      | none =>
        have hne : row ≠ r := by
          rintro rfl
          simp [forbids, hguard] at hforbids
        refine ih kept (count + 1) ?_
        simpa [hne] using hrow
    · rw [if_neg htarget]
      exact ih (r :: kept) count hkeep

/-- A row that a statement leaves, and that the open transaction leads back to, is there after it. -/
theorem Database.mem_rows_write {α : Type} {db : Database} {t : Table} {f : Table → Effect α}
    {row : Row} (hw : db.writable? = .ok t) (hrow : row ∈ db.rows)
    (hback : row ∈ db.restored.rows) (hf : (f t).Leaves fun t' => row ∈ t'.rows) :
    row ∈ (db.write f).2.rows := by
  simp only [Database.write, hw]
  cases heffect : f t with
  | done t' a =>
    rw [heffect] at hf
    exact hf
  | stopped t' how e =>
    rw [heffect] at hf
    cases how with
    | abort | ignore => exact hrow
    | fail => exact hf
    | rollback => exact hback

namespace Session

variable {α β : Type} {s s' : Store} {id : String}

theorem owner_of_mem {db : Database} (hdb : db.Tidy) {row : Row} (hrow : row ∈ db.rows)
    (hid : row.id = .text id) {kind : Kind} {ns : String} (hkind : row.kind = .integer kind.code)
    (hns : row.nsKey = .text ns) : owner db id = (kind, ns) := by
  obtain ⟨t, ht, htidy⟩ := hdb.table
  rw [Database.rows_of_table ht] at hrow
  have hfind : t.rows.find? (fun r => r.id == .text id) = some row := by
    cases hfirst : t.rows.find? fun r => r.id == .text id with
    | none => exact absurd hid (by simpa using List.find?_eq_none.mp hfirst row hrow)
    | some first =>
      have hfirstId : first.id = .text id := by simpa using List.find?_some hfirst
      rw [htidy.eq_of_id_eq (List.mem_of_find?_eq_some hfirst) hrow (hfirstId.trans hid.symm)]
  simp only [owner, Database.rows_of_table ht, hfind, hkind, hns, Cell.integer?, Cell.text?,
    Kind.ofCode_code]

theorem run_delete_ok {n : Nat} (h : (delete id).run s = (.ok n, s')) :
    ∃ t t', s.db.table = some t ∧ t'.rows ⊆ t.rows ∧ s' = s.holding t' := by
  rw [delete, run_tryCatch] at h
  rcases hwrite : (write fun t => t.delete fun r => r.id == .text id).run s with ⟨e | m, u⟩
  · rw [hwrite] at h
    cases h
  · rw [hwrite] at h
    cases h
    obtain ⟨t, t', ht, hdone, rfl⟩ := run_write_eq_ok hwrite
    have hleaves :
        (t.delete fun r => r.id == .text id).Leaves fun t' => ∀ r ∈ t'.rows, r ∈ t.rows :=
      Table.deleteFrom_forall _ 0 (fun _ hr => absurd hr List.not_mem_nil) fun _ hr => hr
    rw [hdone] at hleaves
    exact ⟨t, t', Database.table_of_writable? ht, hleaves, rfl⟩

/-- A failed deletion counts for the owner of the id in the database that the failure has left. -/
theorem run_delete_failed {e : StoreError}
    (h : (write fun t => t.delete fun r => r.id == .text id).run s = (.error e, s')) :
    (delete id).run s = (.error e, { s' with
      metrics := s'.metrics.addWriteFailures (owner s'.db id).1.name (owner s'.db id).2
        "delete" 1 }) := by
  have hget : (get : Session Store).run s' = (.ok s', s') := rfl
  have hcount : ∀ kind ns, (countFailure kind ns "delete").run s' =
      (.ok (), { s' with metrics := s'.metrics.addWriteFailures kind.name ns "delete" 1 }) :=
    fun _ _ => rfl
  rw [delete, run_tryCatch, h]
  refine (run_bind_ok hget _).trans ?_
  refine (run_bind_ok (hcount _ _) _).trans ?_
  rfl

/-- A deletion fails at a stored row, and counts for that row: where the failure ends the open
transaction, the row is still there to be looked up, for it was there before. -/
theorem run_delete_error (hs : s.Tidy) (hback : s.db.rows ⊆ s.db.restored.rows) {e : StoreError}
    (h : (delete id).run s = (.error e, s')) :
    ∃ row ∈ s.db.rows, row.id = .text id ∧
      ∃ (kind : Kind) (ns : String), row.kind = .integer kind.code ∧ row.nsKey = .text ns ∧
        s'.metrics = s.metrics.addWriteFailures kind.name ns "delete" 1 := by
  obtain ⟨t, ht, htidy⟩ := hs.db.table
  have hw : s.db.writable? = .ok t := Database.writable?_of_table ht hs.db.writable
  have hrows : s.db.rows = t.rows := Database.rows_of_table ht
  have hstuck : t.Stuck fun r => r.id == .text id := by
    by_contra hstuck
    cases (Prod.mk.inj ((run_delete_done hw hstuck).symm.trans h)).1
  obtain ⟨row, hrow, hid, hforbids⟩ := hstuck
  obtain ⟨kind, ns, hkind, hns⟩ := htidy.labelled row hrow
  have hid : row.id = .text id := by simpa using hid
  refine ⟨row, hrows ▸ hrow, hid, kind, ns, hkind, hns, ?_⟩
  let f : Table → Effect Nat := fun t => t.delete fun r => r.id == .text id
  have hleaves : (f t).Leaves fun t' => row ∈ t'.rows :=
    Table.mem_deleteFrom hforbids _ [] 0 (.inr hrow)
  have hkeeps : (write f).KeepsTidy :=
    keepsTidy_write (fun _ => rfl)
      (show Statement.Labels (.delete fun r => r.id == .text id) from trivial)
  have hmem : row ∈ (s.db.write f).2.rows :=
    Database.mem_rows_write hw (hrows ▸ hrow) (hback (hrows ▸ hrow)) hleaves
  have howner : owner (s.db.write f).2 id = (kind, ns) :=
    owner_of_mem (hkeeps s hs).db hmem hid hkind hns
  cases hresult : (s.db.write f).1 with
  | ok n =>
    have hrun : (write f).run s = (.ok n, { s with db := (s.db.write f).2 }) := by
      rw [run_write, hresult]
      rfl
    rw [delete, run_tryCatch, hrun] at h
    cases h
  | error e' =>
    have hrun : (write f).run s = (.error (.ofEngine e'), { s with db := (s.db.write f).2 }) := by
      rw [run_write, hresult]
      rfl
    rw [run_delete_failed hrun, howner] at h
    exact (congrArg Store.metrics (Prod.mk.inj h).2).symm

end Session

end ClusterOutbox
