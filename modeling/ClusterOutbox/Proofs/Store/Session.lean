import ClusterOutbox.Proofs.Store.Ledger
import ClusterOutbox.Retention.Keeper

namespace ClusterOutbox

/-- A store in which a transaction has just been opened. -/
def Store.begun (s : Store) : Store := { s with db := { s.db with saved := some s.db.table } }

namespace Database

variable {db : Database} {t : Table}

theorem writable?_of_table (ht : db.table = some t) (hw : db.readOnly = false) :
    db.writable? = .ok t := by
  simp [writable?, table?, ht, hw]

theorem writable?_of_missing (ht : db.table = none) : db.writable? = .error noTable := by
  simp [writable?, table?, ht]

theorem writable?_of_readOnly (hw : db.readOnly = true) : ∃ e, db.writable? = .error e := by
  cases ht : db.table with
  | none => exact ⟨noTable, writable?_of_missing ht⟩
  | some t => exact ⟨readOnlyError, by simp [writable?, table?, ht, hw]⟩

/-- What an open transaction leads back to does not depend on the table shown. -/
theorem restored_showing (hs : db.saved ≠ none) (t : Table) :
    restored { db with table := some t } = db.restored := by
  obtain ⟨before, hb⟩ := Option.ne_none_iff_exists'.mp hs
  simp [restored, hb]

end Database

namespace Session

variable {α β : Type} {s s' : Store}

theorem run_bind_ok {x : Session α} {a : α} (h : x.run s = (.ok a, s')) (f : α → Session β) :
    (x >>= f).run s = (f a).run s' := by
  change (match x.run s with | (r, s) => ExceptT.bindCont f r s) = _
  rw [h]
  rfl

theorem run_bind_error {x : Session α} {e : StoreError} (h : x.run s = (.error e, s'))
    (f : α → Session β) : (x >>= f).run s = (.error e, s') := by
  change (match x.run s with | (r, s) => ExceptT.bindCont f r s) = _
  rw [h]
  rfl

theorem run_bind_eq_ok {x : Session α} {f : α → Session β} {b : β}
    (h : (x >>= f).run s = (.ok b, s')) :
    ∃ a s₁, x.run s = (.ok a, s₁) ∧ (f a).run s₁ = (.ok b, s') := by
  rcases hx : x.run s with ⟨e | a, s₁⟩
  · rw [run_bind_error hx] at h
    cases h
  · exact ⟨a, s₁, rfl, (run_bind_ok hx f).symm.trans h⟩

theorem run_bind_eq_error {x : Session α} {f : α → Session β} {e : StoreError}
    (h : (x >>= f).run s = (.error e, s')) :
    x.run s = (.error e, s') ∨ ∃ a s₁, x.run s = (.ok a, s₁) ∧ (f a).run s₁ = (.error e, s') := by
  rcases hx : x.run s with ⟨e' | a, s₁⟩
  · rw [run_bind_error hx] at h
    cases h
    exact .inl rfl
  · exact .inr ⟨a, s₁, rfl, (run_bind_ok hx f).symm.trans h⟩

theorem run_pure (a : α) : (pure a : Session α).run s = (.ok a, s) := rfl

theorem run_ofEngine_ok {result : Except EngineError α} {a : α} (h : result = .ok a) :
    (ofEngine result).run s = (.ok a, s) := by
  subst h
  rfl

theorem run_ofEngine_error {result : Except EngineError α} {e : EngineError}
    (h : result = .error e) : (ofEngine result).run s = (.error (.ofEngine e), s) := by
  subst h
  rfl

theorem run_read_eq_ok {result : Except EngineError α} {f : α → Session β} {b : β}
    (h : (ofEngine result >>= f).run s = (.ok b, s')) :
    ∃ a, result = .ok a ∧ (f a).run s = (.ok b, s') := by
  obtain ⟨a, s₁, hread, hrest⟩ := run_bind_eq_ok h
  cases result with
  | error e => cases hread
  | ok _ =>
    cases hread
    exact ⟨a, rfl, hrest⟩

theorem run_tryCatch (x : Session α) (handle : StoreError → Session α) :
    (tryCatch x handle).run s =
      match x.run s with
      | (.ok a, s') => (.ok a, s')
      | (.error e, s') => (handle e).run s' := by
  simp only [tryCatch, tryCatchThe, MonadExceptOf.tryCatch, ExceptT.tryCatch, ExceptT.run,
    ExceptT.mk, bind, StateT.bind]
  rcases x s with ⟨r | r, s'⟩ <;> rfl

theorem run_counted_ok {r : Record} {action : String} {work : Session α} {a : α}
    (h : work.run s = (.ok a, s')) : (counted r action work).run s = (.ok a, s') := by
  rw [counted, run_tryCatch, h]

def failedWrite (r : Record) (action : String) (s : Store) : Store :=
  { s with metrics := s.metrics.addWriteFailures r.kind.name r.nsKey action 1 }

theorem run_counted_error {r : Record} {action : String} {work : Session α} {e : StoreError}
    (h : work.run s = (.error e, s')) :
    (counted r action work).run s = (.error e, failedWrite r action s') := by
  rw [counted, run_tryCatch, h]
  rfl

theorem run_counted_eq_ok {r : Record} {action : String} {work : Session α} {a : α}
    (h : (counted r action work).run s = (.ok a, s')) : work.run s = (.ok a, s') := by
  rcases hwork : work.run s with ⟨e | b, s₁⟩
  · rw [run_counted_error hwork] at h
    cases h
  · exact (run_counted_ok hwork).symm.trans h

theorem run_statement (f : Database → Except EngineError α × Database) (s : Store) :
    (statement f).run s =
      ((f s.db).1.mapError StoreError.ofEngine, { s with db := (f s.db).2 }) := rfl

theorem run_write (f : Table → Effect α) (s : Store) :
    (write f).run s =
      ((s.db.write f).1.mapError StoreError.ofEngine, { s with db := (s.db.write f).2 }) := rfl

theorem run_write_done {f : Table → Effect α} {t t' : Table} {a : α}
    (ht : s.db.writable? = .ok t) (h : f t = .done t' a) :
    (write f).run s = (.ok a, { s with db := { s.db with table := some t' } }) := by
  have hwrite : s.db.write f = (.ok a, { s.db with table := some t' }) := by
    simp only [Database.write, ht, h]
  rw [run_write, hwrite]
  rfl

theorem run_write_refused {f : Table → Effect α} {e : EngineError}
    (h : s.db.writable? = .error e) : (write f).run s = (.error (.ofEngine e), s) := by
  have hwrite : s.db.write f = (.error e, s.db) := by simp only [Database.write, h]
  rw [run_write, hwrite]
  rfl

theorem run_write_eq_ok {f : Table → Effect α} {a : α} (h : (write f).run s = (.ok a, s')) :
    ∃ t t', s.db.writable? = .ok t ∧ f t = .done t' a ∧
      s' = { s with db := { s.db with table := some t' } } := by
  cases hw : s.db.writable? with
  | error e =>
    rw [run_write_refused hw] at h
    cases h
  | ok t =>
    cases hf : f t with
    | done t' b =>
      rw [run_write_done hw hf] at h
      cases h
      exact ⟨t, t', rfl, hf, rfl⟩
    | stopped t' how e =>
      have hwrite : ∃ db, s.db.write f = (.error e, db) := by
        simp only [Database.write, hw, hf]
        cases how <;> exact ⟨_, rfl⟩
      obtain ⟨db, hwrite⟩ := hwrite
      rw [run_write, hwrite] at h
      cases h

theorem run_rows {t : Table} (ht : s.db.table = some t) : rows.run s = (.ok t.rows, s) := by
  change (ofEngine s.db.table? >>= fun t => pure t.rows : Session _).run s = _
  have htable : s.db.table? = .ok t := by simp [Database.table?, ht]
  rw [run_bind_ok (run_ofEngine_ok htable), run_pure]

theorem run_rows_missing (ht : s.db.table = none) :
    rows.run s = (.error (.ofEngine Database.noTable), s) := by
  change (ofEngine s.db.table? >>= fun t => pure t.rows : Session _).run s = _
  have htable : s.db.table? = .error Database.noTable := by simp [Database.table?, ht]
  rw [run_bind_error (run_ofEngine_error htable)]

theorem run_findAll_ok {t : Table} {q : Query} {records : List Record}
    (ht : s.db.table = some t)
    (h : (t.rows.filter q.selects).mapM Row.record? = .ok records) :
    (findAll q).run s = (.ok records, s) := by
  rw [findAll, run_bind_ok (run_rows ht)]
  exact run_ofEngine_ok h

theorem run_prepare {t : Table} (ht : s.db.table = some t) :
    prepare.run s = (.ok (), { s with prepared := true }) := by
  change (if !s.prepared then do
      let _ ← rows
      modify fun s => { s with prepared := true }
    else pure () : Session Unit).run s = _
  by_cases hp : s.prepared
  · rw [if_neg (by simp [hp]), run_pure, ← hp]
  · rw [if_pos (by simp [hp]), run_bind_ok (run_rows ht)]
    rfl

theorem run_prepare_done (h : s.prepared = true) : prepare.run s = (.ok (), s) := by
  change (if !s.prepared then do
      let _ ← rows
      modify fun s => { s with prepared := true }
    else pure () : Session Unit).run s = _
  rw [if_neg (by simp [h]), run_pure]

theorem run_prepare_missing (h : s.prepared = false) (ht : s.db.table = none) :
    prepare.run s = (.error (.ofEngine Database.noTable), s) := by
  change (if !s.prepared then do
      let _ ← rows
      modify fun s => { s with prepared := true }
    else pure () : Session Unit).run s = _
  rw [if_pos (by simp [h]), run_bind_error (run_rows_missing ht)]

theorem run_prepare_cases (s : Store) :
    (prepare.run s = (.ok (), { s with prepared := true }) ∧
      (s.prepared = true ∨ s.db.table ≠ none)) ∨
    (prepare.run s = (.error (.ofEngine Database.noTable), s) ∧
      s.prepared = false ∧ s.db.table = none) := by
  cases ht : s.db.table with
  | some t => exact .inl ⟨run_prepare ht, .inr (by simp)⟩
  | none =>
    cases hp : s.prepared with
    | true =>
      have hself : { s with prepared := true } = s := by rw [← hp]
      exact .inl ⟨by rw [run_prepare_done hp, hself], .inl rfl⟩
    | false => exact .inr ⟨run_prepare_missing hp ht, rfl, rfl⟩

theorem run_call {work : Session α} (h : s.isOpen = true) : (call work).run s = work.run s := by
  change (if s.isOpen then work else throw .connectionClosed : Session α).run s = _
  rw [if_pos h]

theorem run_call_closed {work : Session α} (h : s.isOpen = false) :
    (call work).run s = (.error .connectionClosed, s) := by
  change (if s.isOpen then work else throw .connectionClosed : Session α).run s = _
  rw [if_neg (by simp [h])]
  rfl

theorem run_enter (hs : s.db.saved = none) :
    enter.run s = (.ok true, { s with db := { s.db with saved := some s.db.table } }) := by
  have hbegin : (statement Database.begin_).run s =
      (.ok (), { s with db := { s.db with saved := some s.db.table } }) := by
    have hopened : s.db.begin_ = (.ok (), { s.db with saved := some s.db.table }) := by
      simp [Database.begin_, Database.inTransaction, hs]
    rw [run_statement, hopened]
    rfl
  change (if s.db.saved.isSome then pure false
    else statement Database.begin_ >>= fun _ => pure true : Session Bool).run s = _
  rw [if_neg (by simp [hs]), run_bind_ok hbegin, run_pure]

theorem run_lift {work : Session α} {result : Except StoreError α}
    (h : work.run s = (result, s')) :
    (ExceptT.lift work.run : Session (Except StoreError α)).run s = (.ok result, s') := by
  change (match work.run _ with | (r, s) => (Except.ok r, s)) = _
  rw [h]

/-- Work outside every transaction opens one and keeps what it has done. -/
theorem run_tx_ok {work : Session α} {a : α} (hs : s.db.saved = none)
    (h : work.run { s with db := { s.db with saved := some s.db.table } } = (.ok a, s'))
    (hs' : s'.db.saved ≠ none) :
    (tx work).run s = (.ok a, { s' with db := { s'.db with saved := none } }) := by
  have hcommit : (statement Database.commit).run s' =
      (.ok (), { s' with db := { s'.db with saved := none } }) := by
    have hkept : s'.db.commit = (.ok (), { s'.db with saved := none }) := by
      simp [Database.commit, Database.inTransaction, Option.isSome_iff_ne_none.mpr hs']
    rw [run_statement, hkept]
    rfl
  have hleave : (leave true (.ok a)).run s' =
      (.ok a, { s' with db := { s'.db with saved := none } }) := by
    change (statement Database.commit >>= fun _ => pure a : Session α).run s' = _
    rw [run_bind_ok hcommit, run_pure]
  rw [tx, run_bind_ok (run_enter hs), run_bind_ok (run_lift h), hleave]

/-- Work that fails outside every transaction leaves nothing of what it has done. -/
theorem run_tx_error {work : Session α} {e : StoreError} (hs : s.db.saved = none)
    (h : work.run { s with db := { s.db with saved := some s.db.table } } = (.error e, s')) :
    (tx work).run s = (.error e, { s' with db := s'.db.restored }) := by
  rw [tx, run_bind_ok (run_enter hs), run_bind_ok (run_lift h)]
  rfl

theorem run_enter_joined (hs : s.db.saved ≠ none) : enter.run s = (.ok false, s) := by
  change (if s.db.saved.isSome then pure false
    else statement Database.begin_ >>= fun _ => pure true : Session Bool).run s = _
  rw [if_pos (Option.isSome_iff_ne_none.mpr hs), run_pure]

/-- Work inside a transaction is part of it. -/
theorem run_tx_joined (work : Session α) (hs : s.db.saved ≠ none) :
    (tx work).run s = work.run s := by
  rw [tx, run_bind_ok (run_enter_joined hs)]
  rcases h : work.run s with ⟨e | a, s'⟩
  · rw [run_bind_ok (run_lift h)]
    rfl
  · rw [run_bind_ok (run_lift h)]
    rfl

/-- Work that counts nothing. -/
def Uncounted (work : Session α) : Prop := ∀ s : Store, (work.run s).2.metrics = s.metrics

theorem Uncounted.bind {x : Session α} {f : α → Session β} (hx : x.Uncounted)
    (hf : ∀ a, (f a).Uncounted) : (x >>= f).Uncounted := by
  intro s
  have hs := hx s
  rcases hrun : x.run s with ⟨e | a, s'⟩
  · rw [hrun] at hs
    rw [run_bind_error hrun]
    exact hs
  · rw [hrun] at hs
    rw [run_bind_ok hrun, hf a s']
    exact hs

theorem uncounted_pure (a : α) : (pure a : Session α).Uncounted := fun _ => rfl

theorem uncounted_throw (e : StoreError) : (throw e : Session α).Uncounted := fun _ => rfl

theorem uncounted_get : (get : Session Store).Uncounted := fun _ => rfl

theorem uncounted_statement (f : Database → Except EngineError α × Database) :
    (statement f).Uncounted := fun _ => rfl

theorem uncounted_ofEngine (result : Except EngineError α) : (ofEngine result).Uncounted :=
  fun _ => rfl

theorem uncounted_rows : rows.Uncounted :=
  uncounted_get.bind fun _ => (uncounted_ofEngine _).bind fun _ => uncounted_pure _

theorem uncounted_findAll (q : Query) : (findAll q).Uncounted :=
  uncounted_rows.bind fun _ => uncounted_ofEngine _

theorem Uncounted.tx {work : Session α} (h : work.Uncounted) : (Session.tx work).Uncounted := by
  have henter : enter.Uncounted := by
    refine (uncounted_get.bind fun _ => uncounted_pure _).bind fun opened => ?_
    cases opened with
    | true => exact uncounted_pure false
    | false => exact (uncounted_statement _).bind fun _ => uncounted_pure true
  refine henter.bind fun opened => Uncounted.bind (fun s => h s) fun result => ?_
  cases result with
  | ok a =>
    cases opened with
    | true => exact (uncounted_statement _).bind fun _ => uncounted_pure a
    | false => exact uncounted_pure a
  | error e =>
    cases opened with
    | true =>
      have hundo : (modify fun s => { s with db := s.db.restored } : Session Unit).Uncounted :=
        fun _ => rfl
      exact hundo.bind fun _ => uncounted_throw e
    | false => exact uncounted_throw e

theorem uncounted_markEach (sentAt : Int) (ids : List String) : (markEach sentAt ids).Uncounted := by
  induction ids with
  | nil => exact uncounted_pure 0
  | cons id rest ih =>
    exact (uncounted_statement _).bind fun _ => ih.bind fun _ => uncounted_pure _

theorem uncounted_markAt (sentAt : Int) (ids : List String) : (markAt sentAt ids).Uncounted := by
  refine Uncounted.tx (Uncounted.bind ?_ fun _ => uncounted_markEach sentAt ids)
  refine uncounted_get.bind fun s => ?_
  cases s.prepared with
  | true => exact uncounted_pure _
  | false =>
    have hprepared : (modify fun s => { s with prepared := true } : Session Unit).Uncounted :=
      fun _ => rfl
    exact uncounted_rows.bind fun _ => hprepared

theorem uncounted_markSent (ids : List String) (at_ : Instant) : (markSent ids at_).Uncounted :=
  uncounted_markAt at_.micros ids

theorem Uncounted.call {work : Session α} (h : work.Uncounted) : (Session.call work).Uncounted := by
  refine uncounted_get.bind fun s => ?_
  cases s.isOpen with
  | true => exact h
  | false => exact uncounted_throw _

end Session

end ClusterOutbox
