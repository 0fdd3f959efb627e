import ClusterOutbox.Proofs.Store.Calls
import ClusterOutbox.Proofs.Store.Lawful

namespace ClusterOutbox

namespace Store

/-- The stores that a connection passes through: between calls, inside the scopes of transactions,
and after the file has been closed and opened again. -/
inductive Visited : Store → Prop
  | fresh : Visited .fresh
  | call {s : Store} (c : Call) : Visited s → c.Admissible s → Visited (c.perform s).2
  | deleteAll {s : Store} : Visited s → Visited (Session.deleteAll.run s).2
  | enter {s : Store} : Visited s → Visited (Session.enter.run s).2
  /-- The scope that opened a transaction ends with what its work came to. -/
  | leave {s : Store} (result : Except StoreError Unit) :
    Visited s → Visited ((Session.leave true result).run s).2
  | reopen {s : Store} : Visited s → Visited s.close.reopenFile

/-- An open store that shows entries, where an open transaction leads back to entries too. -/
structure Stands (s : Store) (es : Ledger) : Prop extends s.Shows es where
  isOpen : s.isOpen = true
  saved : ∀ before ∈ s.db.saved, ∃ es' : Ledger, before = some (es'.table []) ∧ es'.Distinct

variable {s : Store} {es : Ledger}

theorem stands_fresh : Store.fresh.Stands [] where
  toShows := ready_fresh.toShows
  isOpen := rfl
  saved := by
    intro before h
    cases h

theorem Stands.call (hs : s.Stands es) {c : Call} (hc : c.Admissible s) :
    (c.perform s).2.Stands (c.ledger es) := by
  obtain ⟨-, hshows, hopen, hsaved⟩ := c.perform_shows hs.toShows hs.isOpen hc
  exact ⟨hshows, hopen, hsaved ▸ hs.saved⟩

theorem Stands.deleteAll (hs : s.Stands es) : (Session.deleteAll.run s).2.Stands [] := by
  have hdelete : (es.table []).delete (fun _ => true) = .done (Ledger.table [] []) es.length := by
    simpa using Ledger.delete_table (p := fun _ => true) (fun _ => rfl)
      (fun _ _ _ => rfl : ∀ e ∈ es, _ → (es.table []).guard? [.delete] e.row = none)
  rw [Session.deleteAll, Session.run_write_done hs.writable? hdelete]
  exact ⟨hs.put (hs.distinct.sublist (List.nil_sublist es)), hs.isOpen, hs.saved⟩

theorem Stands.enter (hs : s.Stands es) : (Session.enter.run s).2.Stands es := by
  by_cases hsaved : s.db.saved = none
  · rw [Session.run_enter hsaved]
    refine ⟨⟨hs.table, hs.writable, hs.distinct⟩, hs.isOpen, ?_⟩
    intro before hbefore
    exact ⟨es, (Option.some.inj hbefore).symm.trans hs.table, hs.distinct⟩
  · rw [Session.run_enter_joined hsaved]
    exact hs

theorem Stands.commit (hs : s.Stands es) :
    ((Session.statement Database.commit).run s).2.Stands es := by
  change Stands { s with db := s.db.commit.2 } es
  unfold Database.commit
  split
  · exact ⟨⟨hs.table, hs.writable, hs.distinct⟩, hs.isOpen, fun _ h => by cases h⟩
  · exact hs

/-- What is undone leads back to the entries before the transaction. -/
theorem Stands.restored (hs : s.Stands es) : ∃ es', Stands { s with db := s.db.restored } es' := by
  cases hsaved : s.db.saved with
  | none =>
    have hself : ({ s with db := s.db.restored } : Store) = s := by
      simp [Database.restored, hsaved]
    exact ⟨es, by rw [hself]; exact hs⟩
  | some before =>
    obtain ⟨es', rfl, hd⟩ := hs.saved before hsaved
    refine ⟨es', ⟨?_, ?_, hd⟩, hs.isOpen, ?_⟩
    · simp [Database.restored, hsaved]
    · simpa [Database.restored, hsaved] using hs.writable
    · simp [Database.restored, hsaved]

theorem Stands.reopen (hs : s.Stands es) : ∃ es', s.close.reopenFile.Stands es' := by
  obtain ⟨es', h⟩ := hs.restored
  have hdb : s.close.reopenFile.db = { s.db.restored with readOnly := false } := by
    change { s.db.restored.restored with readOnly := false } = _
    rw [Database.restored_restored]
  refine ⟨es', ⟨?_, ?_, h.distinct⟩, rfl, ?_⟩
  · rw [hdb]
    exact h.table
  · rw [hdb]
  · rw [hdb]
    exact h.saved

theorem Stands.leave (hs : s.Stands es) (result : Except StoreError Unit) :
    ∃ es', ((Session.leave true result).run s).2.Stands es' := by
  cases result with
  | error e => exact hs.restored
  | ok a =>
    have hleave : ((Session.leave true (.ok a)).run s).2 =
        ((Session.statement Database.commit).run s).2 := by
      change ((Session.statement Database.commit >>= fun _ => pure a : Session Unit).run s).2 = _
      rcases hrun : (Session.statement Database.commit).run s with ⟨e | b, s'⟩
      · rw [Session.run_bind_error hrun]
      · rw [Session.run_bind_ok hrun, Session.run_pure]
    exact ⟨es, hleave ▸ hs.commit⟩

theorem Visited.stands (hs : s.Visited) : ∃ es, s.Stands es := by
  induction hs with
  | fresh => exact ⟨[], stands_fresh⟩
  | call c _ hc ih =>
    obtain ⟨es, hes⟩ := ih
    exact ⟨c.ledger es, hes.call hc⟩
  | deleteAll _ ih =>
    obtain ⟨es, hes⟩ := ih
    exact ⟨[], hes.deleteAll⟩
  | enter _ ih =>
    obtain ⟨es, hes⟩ := ih
    exact ⟨es, hes.enter⟩
  | leave result _ ih =>
    obtain ⟨es, hes⟩ := ih
    exact hes.leave result
  | reopen _ ih =>
    obtain ⟨es, hes⟩ := ih
    exact hes.reopen

end Store

end ClusterOutbox
