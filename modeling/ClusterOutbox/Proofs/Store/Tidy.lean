import ClusterOutbox.Proofs.Store.Rules

namespace ClusterOutbox

/-- A row whose kind and namespace are those of some record. -/
def Row.Labelled (row : Row) : Prop :=
  ∃ (kind : Kind) (ns : String), row.kind = .integer kind.code ∧ row.nsKey = .text ns

theorem Effect.Leaves.void {α : Type} {p : Table → Prop} {effect : Effect α}
    (h : effect.Leaves p) : effect.void.Leaves p := by
  cases effect <;> exact h

namespace Table

section

variable {t : Table} {p : Row → Prop}

theorem updateId_forall (h : ∀ r ∈ t.rows, p r) (id : String) (watched : List Watch)
    {change : Row → Row} (hchange : ∀ r, p r → p (change r)) :
    (t.updateId id watched change).Leaves fun t' => ∀ r ∈ t'.rows, p r := by
  unfold updateId
  cases hold : t.rows.find? fun r => r.id == .text id with
  | none => exact h
  | some old =>
    cases hguard : t.guard? watched old with
    | some g =>
      simp only [hguard]
      split <;> exact h
    | none =>
      simp only [hguard]
      split
      · exact h
      · intro r' hr'
        obtain ⟨r, hr, rfl⟩ := List.mem_map.mp hr'
        split
        · exact hchange old (h old (List.mem_of_find?_eq_some hold))
        · exact h r hr

theorem insert_forall (h : ∀ r ∈ t.rows, p r) {new : Row} (hnew : p new)
    {merge : Option (Row → Row)} (hmerge : ∀ f ∈ merge, ∀ r, p r → p (f r)) :
    (t.insert new merge).Leaves fun t' => ∀ r ∈ t'.rows, p r := by
  unfold insert
  cases hguard : t.guard? [.insert] new with
  | some g =>
    simp only
    split <;> exact h
  | none =>
    cases hold : t.rows.find? fun r => r.sameIdentity new with
    | none =>
      simp only
      split
      · exact h
      · intro r hr
        rcases List.mem_append.mp hr with hr | hr
        · exact h r hr
        · exact List.mem_singleton.mp hr ▸ hnew
    | some old =>
      cases merge with
      | none => exact h
      | some f =>
        simp only
        split
        · split <;> exact h
        · split
          · exact h
          · intro r' hr'
            obtain ⟨r, hr, rfl⟩ := List.mem_map.mp hr'
            split
            · exact hmerge f rfl old (h old (List.mem_of_find?_eq_some hold))
            · exact h r hr

theorem deleteFrom_forall (target : Row → Bool) {kept : List Row} (count : Nat) {rest : List Row}
    (hkept : ∀ r ∈ kept, p r) (hrest : ∀ r ∈ rest, p r) :
    (t.deleteFrom target kept count rest).Leaves fun t' => ∀ r ∈ t'.rows, p r := by
  induction rest generalizing kept count with
  | nil => exact fun r hr => hkept r (List.mem_reverse.mp hr)
  | cons r rest ih =>
    obtain ⟨hr, hrest'⟩ := List.forall_mem_cons.mp hrest
    have hkeep : ∀ x ∈ r :: kept, p x := List.forall_mem_cons.mpr ⟨hr, hkept⟩
    rw [deleteFrom]
    by_cases htarget : target r = true
    · rw [if_pos htarget]
      cases t.guard? [.delete] r with
      | some g =>
        simp only
        split
        · exact ih count hkeep hrest'
        · intro x hx
          rcases List.mem_append.mp hx with hx | hx
          · exact hkept x (List.mem_reverse.mp hx)
          · exact hrest x hx
      | none => exact ih (count + 1) hkept hrest'
    · rw [if_neg htarget]
      exact ih count hkeep hrest'

end

/-- A lawful table of rows that records have written. -/
structure Tidy (t : Table) : Prop extends t.Lawful where
  labelled : ∀ r ∈ t.rows, r.Labelled

end Table

/-- A statement that writes rows as records do. -/
def Statement.Labels : Statement → Prop
  | insert new merge => new.Labelled ∧ ∀ f ∈ merge, ∀ r : Row, r.Labelled → (f r).Labelled
  | change _ f => ∀ r : Row, r.Labelled → (f r).Labelled
  | delete _ => True

theorem Table.Tidy.effect {t : Table} (h : t.Tidy) {st : Statement} (hst : st.Labels) :
    (st.effect t).Leaves Tidy := by
  have hlawful : (st.effect t).Leaves Lawful := h.toLawful.effect st
  have hlabelled : (st.effect t).Leaves fun t' => ∀ r ∈ t'.rows, r.Labelled := by
    cases st with
    | insert new merge => exact (Table.insert_forall h.labelled hst.1 hst.2).void
    | change id f => exact (Table.updateId_forall h.labelled id _ hst).void
    | delete target =>
      exact (Table.deleteFrom_forall target 0 (fun _ hr => absurd hr List.not_mem_nil)
        h.labelled).void
  cases hst' : st.effect t <;> rw [hst'] at hlawful hlabelled <;> exact ⟨hlawful, hlabelled⟩

namespace Database

/-- A writable database of tidy tables, the one that an open transaction leads back to included. -/
structure Tidy (db : Database) : Prop where
  writable : db.readOnly = false
  table : ∃ t, db.table = some t ∧ t.Tidy
  saved : ∀ before ∈ db.saved, ∃ t, before = some t ∧ t.Tidy

variable {db : Database}

theorem tidy_fresh : fresh.Tidy where
  writable := rfl
  table := ⟨Table.empty, rfl, ⟨⟨List.nodup_nil, by simp [Table.empty]⟩, by simp [Table.empty]⟩⟩
  saved := by
    intro before h
    cases h

theorem Tidy.showing (h : db.Tidy) {t : Table} (ht : t.Tidy) : Tidy { db with table := some t } :=
  ⟨h.writable, ⟨t, rfl, ht⟩, h.saved⟩

theorem rows_of_table {t : Table} (ht : db.table = some t) : db.rows = t.rows := by
  rw [rows, ht]
  rfl

theorem saved_restored (db : Database) : db.restored.saved = none := by
  cases h : db.saved <;> simp [restored, h]

theorem Tidy.restored (h : db.Tidy) : db.restored.Tidy := by
  cases hsaved : db.saved with
  | none =>
    have hself : db.restored = db := by simp [Database.restored, hsaved]
    rwa [hself]
  | some before =>
    have hback : db.restored = { db with table := before, saved := none } := by
      simp [Database.restored, hsaved]
    rw [hback]
    exact ⟨h.writable, h.saved before hsaved, fun _ hnone => by cases hnone⟩

theorem Tidy.write {α : Type} (h : db.Tidy) {f : Table → Effect α}
    (hf : ∀ t, t.Tidy → (f t).Leaves Table.Tidy) : (db.write f).2.Tidy := by
  obtain ⟨t, ht, htidy⟩ := h.table
  have hleaves := hf t htidy
  simp only [Database.write, writable?_of_table ht h.writable]
  generalize f t = effect at hleaves
  cases effect with
  | done t' a => exact h.showing hleaves
  | stopped t' how e =>
    cases how with
    | abort => exact h
    | fail => exact h.showing hleaves
    | rollback => exact h.restored
    | ignore => exact h

/-- A statement ends the open transaction or leaves it open. -/
theorem saved_write {α : Type} (hs : db.saved = none) (f : Table → Effect α) :
    (db.write f).2.saved = none := by
  unfold Database.write
  cases db.writable? with
  | error e => exact hs
  | ok t =>
    simp only
    cases f t with
    | done t' a => exact hs
    | stopped t' how e =>
      cases how with
      | abort | fail | ignore => exact hs
      | rollback => exact saved_restored db

end Database

/-- A guard that comes changes the guards of the table by one statement, or nothing. -/
theorem Database.guard_cases (db : Database) (g : Guard) :
    (db.guard g).2 = db ∨ ∃ guards : Table → List Guard,
      (db.guard g).2 = (db.write fun t => .done { t with guards := guards t } ()).2 := by
  unfold guard
  cases db.table? with
  | error e => exact .inl rfl
  | ok t =>
    simp only
    split
    · exact .inl rfl
    · split
      · exact .inl rfl
      · exact .inr ⟨_, rfl⟩

theorem Database.unguard_cases (db : Database) (title : String) :
    (db.unguard title).2 = db ∨ ∃ guards : Table → List Guard,
      (db.unguard title).2 = (db.write fun t => .done { t with guards := guards t } ()).2 := by
  unfold unguard
  cases db.table with
  | none => exact .inl rfl
  | some t =>
    simp only
    split
    · exact .inr ⟨_, rfl⟩
    · exact .inl rfl

section

variable {db : Database}

theorem Database.Tidy.write_guards (h : db.Tidy) (guards : Table → List Guard) :
    (db.write fun t => .done { t with guards := guards t } ()).2.Tidy :=
  h.write fun _ ht => ⟨⟨ht.ids, ht.unbroken⟩, ht.labelled⟩

theorem Database.Tidy.guard (h : db.Tidy) (g : Guard) : (db.guard g).2.Tidy := by
  rcases db.guard_cases g with hsame | ⟨guards, hwrite⟩
  · rwa [hsame]
  · rw [hwrite]
    exact h.write_guards guards

theorem Database.Tidy.unguard (h : db.Tidy) (title : String) : (db.unguard title).2.Tidy := by
  rcases db.unguard_cases title with hsame | ⟨guards, hwrite⟩
  · rwa [hsame]
  · rw [hwrite]
    exact h.write_guards guards

theorem Database.saved_guard (hs : db.saved = none) (g : Guard) : (db.guard g).2.saved = none := by
  rcases db.guard_cases g with hsame | ⟨guards, hwrite⟩
  · rwa [hsame]
  · rw [hwrite]
    exact saved_write hs _

theorem Database.saved_unguard (hs : db.saved = none) (title : String) :
    (db.unguard title).2.saved = none := by
  rcases db.unguard_cases title with hsame | ⟨guards, hwrite⟩
  · rwa [hsame]
  · rw [hwrite]
    exact saved_write hs _

end

/-- An open store with a tidy database. -/
structure Store.Tidy (s : Store) : Prop where
  isOpen : s.isOpen = true
  db : s.db.Tidy

theorem Store.Tidy.begun {s : Store} (h : s.Tidy) : s.begun.Tidy :=
  ⟨h.isOpen, h.db.writable, h.db.table, fun _ hb => Option.some.inj hb ▸ h.db.table⟩

namespace Session

variable {α β ι : Type}

/-- Work that leaves the store as it is. -/
def Reads (work : Session α) : Prop := ∀ s : Store, (work.run s).2 = s

theorem Reads.bind {x : Session α} {k : α → Session β} (hx : x.Reads) (hk : ∀ a, (k a).Reads) :
    (x >>= k).Reads := by
  intro s
  have hs := hx s
  rcases hrun : x.run s with ⟨e | a, s'⟩
  · rw [hrun] at hs
    rw [run_bind_error hrun]
    exact hs
  · rw [hrun] at hs
    rw [run_bind_ok hrun, hk a s']
    exact hs

theorem reads_pure (a : α) : (pure a : Session α).Reads := fun _ => rfl

theorem reads_throw (e : StoreError) : (throw e : Session α).Reads := fun _ => rfl

theorem reads_get : (get : Session Store).Reads := fun _ => rfl

theorem reads_ofEngine (result : Except EngineError α) : (ofEngine result).Reads := fun _ => rfl

theorem reads_rows : rows.Reads :=
  reads_get.bind fun _ => (reads_ofEngine _).bind fun _ => reads_pure _

theorem reads_findAll (q : Query) : (findAll q).Reads :=
  reads_rows.bind fun _ => reads_ofEngine _

theorem reads_find (found : List Row → Option Row) :
    (do
      match found (← rows) with
      | some row => ofEngine row.record?
      | none => throw .notFound : Session Record).Reads := by
  refine reads_rows.bind fun stored => ?_
  cases found stored with
  | some row => exact reads_ofEngine _
  | none => exact reads_throw _

theorem reads_updateAnswer (r : Record) (row : Option Row) : (updateAnswer r row).Reads := by
  cases row with
  | none => exact reads_throw _
  | some row =>
    exact (reads_ofEngine _).bind fun _ => (reads_ofEngine _).bind fun _ =>
      (reads_ofEngine _).bind fun _ => (reads_ofEngine _).bind fun _ => reads_pure _

theorem reads_upsertAnswer (m : Moment) (r : Record) (row : Option Row) :
    (upsertAnswer m r row).Reads := by
  cases row with
  | none => exact reads_throw _
  | some row =>
    exact (reads_ofEngine _).bind fun _ => (reads_ofEngine _).bind fun _ =>
      (reads_ofEngine _).bind fun _ => (reads_ofEngine _).bind fun _ =>
      (reads_ofEngine _).bind fun _ => reads_pure _

theorem Reads.uncounted {work : Session α} (h : work.Reads) : work.Uncounted :=
  fun s => congrArg Store.metrics (h s)

/-- Work that leaves a tidy store tidy, whatever it comes to. -/
def KeepsTidy (work : Session α) : Prop := ∀ s : Store, s.Tidy → (work.run s).2.Tidy

theorem KeepsTidy.bind {x : Session α} {k : α → Session β} (hx : x.KeepsTidy)
    (hk : ∀ a, (k a).KeepsTidy) : (x >>= k).KeepsTidy := by
  intro s hs
  have hfirst := hx s hs
  rcases hrun : x.run s with ⟨e | a, s'⟩
  · rw [hrun] at hfirst
    rw [run_bind_error hrun]
    exact hfirst
  · rw [hrun] at hfirst
    rw [run_bind_ok hrun]
    exact hk a s' hfirst

theorem Reads.keepsTidy {work : Session α} (h : work.Reads) : work.KeepsTidy := by
  intro s hs
  rwa [h s]

theorem KeepsTidy.mapM {f : ι → Session α} (h : ∀ i, (f i).KeepsTidy) (items : List ι) :
    (items.mapM f).KeepsTidy := by
  induction items with
  | nil => exact (reads_pure []).keepsTidy
  | cons item items ih =>
    rw [List.mapM_cons]
    exact (h item).bind fun _ => ih.bind fun _ => (reads_pure _).keepsTidy

theorem KeepsTidy.tryCatch {x : Session α} {handle : StoreError → Session α} (hx : x.KeepsTidy)
    (hhandle : ∀ e, (handle e).KeepsTidy) : (tryCatch x handle).KeepsTidy := by
  intro s hs
  have hfirst := hx s hs
  rw [run_tryCatch]
  rcases hrun : x.run s with ⟨e | a, s'⟩
  · rw [hrun] at hfirst
    exact hhandle e s' hfirst
  · rw [hrun] at hfirst
    exact hfirst

theorem KeepsTidy.counted {work : Session α} (h : work.KeepsTidy) (r : Record) (action : String) :
    (Session.counted r action work).KeepsTidy :=
  h.tryCatch fun _ _ hs => ⟨hs.isOpen, hs.db⟩

theorem keepsTidy_write {f : Table → Effect α} {st : Statement}
    (hf : ∀ t, (f t).void = st.effect t) (hst : st.Labels) : (write f).KeepsTidy := by
  intro s hs
  refine ⟨hs.isOpen, hs.db.write ?_⟩
  intro t ht
  have hleaves := ht.effect hst
  rw [← hf] at hleaves
  cases heffect : f t <;> rw [heffect] at hleaves <;> exact hleaves

/-- Work outside every transaction is done in one of its own, and ends with it. -/
theorem run_tx_begun {work : Session α} {s s' : Store} {result : Except StoreError α}
    (hs : s.db.saved = none) (h : work.run s.begun = (result, s')) :
    (tx work).run s = (leave true result).run s' := by
  have henter : enter.run s = (.ok true, s.begun) := run_enter hs
  rw [tx, run_bind_ok henter, run_bind_ok (run_lift h)]

theorem keepsTidy_leave (opened : Bool) (result : Except StoreError α) :
    (leave opened result).KeepsTidy := by
  have hundo : (modify fun s => { s with db := s.db.restored } : Session Unit).KeepsTidy :=
    fun _ hs => ⟨hs.isOpen, hs.db.restored⟩
  have hcommit : (statement Database.commit).KeepsTidy := by
    intro s hs
    refine ⟨hs.isOpen, ?_⟩
    rw [run_statement, Database.commit]
    split
    · exact ⟨hs.db.writable, hs.db.table, fun _ hb => by cases hb⟩
    · exact hs.db
  cases result with
  | ok a =>
    cases opened with
    | true => exact hcommit.bind fun _ => (reads_pure a).keepsTidy
    | false => exact (reads_pure a).keepsTidy
  | error e =>
    cases opened with
    | true => exact hundo.bind fun _ => (reads_throw e).keepsTidy
    | false => exact (reads_throw e).keepsTidy

/-- What an open transaction leads back to is tidy too, so undoing the work keeps a store tidy. -/
theorem KeepsTidy.tx {work : Session α} (h : work.KeepsTidy) : (Session.tx work).KeepsTidy := by
  intro s hs
  by_cases hsaved : s.db.saved = none
  · have hwork := h s.begun hs.begun
    rcases hrun : work.run s.begun with ⟨result, s'⟩
    rw [hrun] at hwork
    rw [run_tx_begun hsaved hrun]
    exact keepsTidy_leave true result s' hwork
  · rw [run_tx_joined work hsaved]
    exact h s hs

/-- Leaving the transaction that work opened ends it, whatever the work came to. -/
theorem saved_leave (result : Except StoreError α) (s : Store) :
    ((leave true result).run s).2.db.saved = none := by
  cases result with
  | error e => exact Database.saved_restored s.db
  | ok a =>
    have hcommit : ((statement Database.commit).run s).2.db.saved = none := by
      cases hopen : s.db.saved <;>
        simp [run_statement, Database.commit, Database.inTransaction, hopen]
    change ((statement Database.commit >>= fun _ => pure a : Session α).run s).2.db.saved = none
    rcases hend : (statement Database.commit).run s with ⟨e | b, s'⟩
    · rw [run_bind_error hend, ← hcommit, hend]
    · rw [run_bind_ok hend, run_pure, ← hcommit, hend]

end Session

/-- The statements of a session write rows as records do. -/
theorem Write.labels_statement {w : Write} {st : Statement} (h : w.statement? = some st) :
    st.Labels := by
  have hnew : ∀ id now sentAt r, (Row.ofRecord id now sentAt r).Labelled :=
    fun _ _ _ r => ⟨r.kind, r.nsKey, rfl, rfl⟩
  cases w with
  | create m r =>
    cases h
    exact ⟨hnew _ _ _ r, fun _ hf => by cases hf⟩
  | update m r =>
    simp only [statement?] at h
    split at h <;> cases h
    exact fun _ hrow => hrow
  | upsert m r =>
    cases h
    refine ⟨hnew _ _ _ r, ?_⟩
    intro f hf row hrow
    cases hf
    exact hrow
  | delete id | deleteAll =>
    cases h
    trivial
  | confirm id sentAt =>
    cases h
    exact fun _ hrow => hrow

theorem Write.keepsTidy (w : Write) : w.session.KeepsTidy := by
  cases w with
  | create m r =>
    have hst := labels_statement (w := .create m r) rfl
    exact ((Session.keepsTidy_write (fun _ => rfl) hst).bind
      fun _ => (Session.reads_pure _).keepsTidy).counted r "create"
  | update m r =>
    by_cases hid : r.id = ""
    · have hthrow : Session.update m r = Session.counted r "update" (throw .missingKey) := by
        unfold Session.update
        rw [if_pos hid]
        rfl
      rw [session, hthrow]
      exact (Session.reads_throw _).keepsTidy.counted r "update"
    · have hst := labels_statement (w := .update m r) (if_neg hid)
      rw [session, Session.update_eq m hid]
      exact ((Session.keepsTidy_write (fun _ => rfl) hst).bind
        fun row => (Session.reads_updateAnswer r row).keepsTidy).counted r "update"
  | upsert m r =>
    have hst := labels_statement (w := .upsert m r) rfl
    rw [session, Session.upsert_eq]
    exact ((Session.keepsTidy_write (fun _ => rfl) hst).bind
      fun row => (Session.reads_upsertAnswer m r row).keepsTidy).counted r "upsert"
  | delete id =>
    have hst := labels_statement (w := .delete id) rfl
    exact (Session.keepsTidy_write (fun _ => rfl) hst).tryCatch
      fun _ _ hs => ⟨hs.isOpen, hs.db⟩
  | deleteAll =>
    exact Session.keepsTidy_write (fun _ => rfl) (labels_statement (w := .deleteAll) rfl)
  | confirm id sentAt =>
    exact Session.keepsTidy_write (fun _ => rfl) (labels_statement (w := .confirm id sentAt) rfl)

namespace Session

theorem keepsTidy_confirmation (sentAt : Int) (ids : List String) :
    (do prepare; markEach sentAt ids : Session Nat).KeepsTidy := by
  have hprepare : prepare.KeepsTidy := by
    intro s hs
    rcases run_prepare_cases s with ⟨hrun, -⟩ | ⟨hrun, -⟩ <;> rw [hrun]
    · exact ⟨hs.isOpen, hs.db⟩
    · exact hs
  refine hprepare.bind fun _ => ?_
  induction ids with
  | nil => exact (reads_pure 0).keepsTidy
  | cons id ids ih =>
    exact (Write.confirm id sentAt).keepsTidy.bind fun _ => ih.bind fun _ => (reads_pure _).keepsTidy

theorem keepsTidy_upserts (items : List (Moment × Record)) :
    (items.mapM fun (m, r) => upsert m r).KeepsTidy := by
  refine KeepsTidy.mapM ?_ items
  rintro ⟨m, r⟩
  exact (Write.upsert m r).keepsTidy

theorem keepsTidy_deleteEach (records : List Record) : (Keeper.deleteEach records).KeepsTidy := by
  induction records with
  | nil => exact (reads_pure 0).keepsTidy
  | cons r records ih =>
    exact (Write.delete r.id).keepsTidy.bind fun _ => ih.bind fun _ => (reads_pure _).keepsTidy

end Session

end ClusterOutbox
