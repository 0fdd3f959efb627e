import ClusterOutbox.Proofs.Store.Statement

namespace ClusterOutbox

namespace Session

variable {α β : Type} {f : Database → Database}

/-- What work makes of the database, whatever it comes to. -/
def Turns (work : Session α) (f : Database → Database) : Prop := ∀ s, (work.run s).2.db = f s.db

/-- Work that leaves the database as it is. -/
abbrev Quiet (work : Session α) : Prop := work.Turns id

theorem turns_bind {x : Session α} {k : α → Session β} (hx : x.Turns f) (hk : ∀ a, (k a).Quiet) :
    (x >>= k).Turns f := by
  intro s
  rw [← hx s]
  rcases hrun : x.run s with ⟨e | a, s'⟩
  · rw [run_bind_error hrun]
  · rw [run_bind_ok hrun]
    exact hk a s'

theorem turns_tryCatch {x : Session α} {handle : StoreError → Session α} (hx : x.Turns f)
    (hhandle : ∀ e, (handle e).Quiet) : (tryCatch x handle).Turns f := by
  intro s
  rw [← hx s, run_tryCatch]
  rcases x.run s with ⟨e | a, s'⟩
  · exact hhandle e s'
  · rfl

theorem quiet_pure (a : α) : (pure a : Session α).Quiet := fun _ => rfl

theorem quiet_throw (e : StoreError) : (throw e : Session α).Quiet := fun _ => rfl

theorem quiet_ofEngine (result : Except EngineError α) : (ofEngine result).Quiet := fun _ => rfl

theorem turns_counted {r : Record} {action : String} {work : Session α} (h : work.Turns f) :
    (counted r action work).Turns f :=
  turns_tryCatch h fun _ _ => rfl

theorem quiet_rows : rows.Quiet := by
  intro s
  change ((ofEngine s.db.table? >>= fun t => pure t.rows : Session _).run s).2.db = s.db
  exact turns_bind (quiet_ofEngine _) (fun _ => quiet_pure _) s

theorem quiet_prepare : prepare.Quiet := by
  intro s
  change ((if !s.prepared then do
      let _ ← rows
      modify fun s => { s with prepared := true }
    else pure () : Session Unit).run s).2.db = s.db
  by_cases hprepared : s.prepared
  · rw [if_neg (by simp [hprepared])]
    rfl
  · rw [if_pos (by simp [hprepared])]
    exact turns_bind quiet_rows (fun _ _ => rfl) s

theorem turns_write {g : Table → Effect α} {st : Statement} (h : ∀ t, (g t).void = st.effect t) :
    (write g).Turns fun db => (db.write st.effect).2 := by
  intro s
  have heffect : st.effect = fun t => (g t).void := funext fun t => (h t).symm
  change (s.db.write g).2 = (s.db.write st.effect).2
  rw [heffect, Database.write_void]

theorem quiet_readTimes (row : Row) (i j : Nat) {k : Stamp → Stamp → Session α}
    (hk : ∀ created updated, (k created updated).Quiet) :
    (do
      let created ← ofEngine (row.created.integer? i "record_created")
      let updated ← ofEngine (row.updated.integer? j "record_updated")
      let created ← ofEngine (Row.stamp? i created)
      let updated ← ofEngine (Row.stamp? j updated)
      k created updated : Session α).Quiet := by
  refine turns_bind (quiet_ofEngine _) fun _ => turns_bind (quiet_ofEngine _) fun _ => ?_
  exact turns_bind (quiet_ofEngine _) fun _ => turns_bind (quiet_ofEngine _) fun _ => hk _ _

/-- Work whose failure is a result like any other. -/
def attempt (work : Session α) : Session (Except StoreError α) := ExceptT.lift work.run

theorem run_attempt_bind (work : Session α) (k : Except StoreError α → Session β) (s : Store) :
    (attempt work >>= k).run s = (k (work.run s).1).run (work.run s).2 :=
  have h : (attempt work).run s = (.ok (work.run s).1, (work.run s).2) := rfl
  run_bind_ok h k

end Session

/-- The writes that a session offers, each of them one statement. -/
inductive Write
  | create (m : Moment) (r : Record)
  | update (m : Moment) (r : Record)
  | upsert (m : Moment) (r : Record)
  | delete (id : String)
  | deleteAll
  /-- Sets the delivery of the row of an id, a step of the confirmation of several. -/
  | confirm (id : String) (sentAt : Int)

namespace Write

def Outcome : Write → Type
  | create _ _ | update _ _ => Record
  | upsert _ _ => Observation
  | delete _ | deleteAll => Nat
  | confirm _ _ => Option Row

def session : (w : Write) → Session w.Outcome
  | create m r => Session.create m r
  | update m r => Session.update m r
  | upsert m r => Session.upsert m r
  | delete id => Session.delete id
  | deleteAll => Session.deleteAll
  | confirm id sentAt =>
    Session.write fun t =>
      t.updateId id [.update, .sentAt] fun r => { r with sentAt := .integer sentAt }

/-- The statement of a write, none where it fails before it comes to that. -/
def statement? : Write → Option Statement
  | create m r =>
    let row := Row.ofRecord m.freshId m.now.floorMicros.micros (r.sentAt.map Stamp.micros) r
    some (.insert row none)
  | update m r =>
    if r.id = "" then none
    else some (.change r.id (Session.overwrite r m.now.micros (r.sentAt.map Stamp.micros)))
  | upsert m r =>
    some (.insert (Row.ofRecord m.freshId m.now.micros none r)
      (some (Session.overwrite r m.now.micros none)))
  | delete id => some (.delete fun r => r.id == .text id)
  | deleteAll => some (.delete fun _ => true)
  | confirm id sentAt => some (.change id fun r => { r with sentAt := .integer sentAt })

/-- What a write makes of the database: what its statement does, and nothing else. -/
theorem turns_session (w : Write) :
    w.session.Turns fun db => (w.statement?.elim db fun st => (db.write st.effect).2) := by
  cases w with
  | create m r =>
    exact Session.turns_counted
      (Session.turns_bind (Session.turns_write fun _ => rfl) fun _ => Session.quiet_pure _)
  | update m r =>
    refine Session.turns_counted ?_
    by_cases hid : r.id = ""
    · simp only [statement?, if_pos hid]
      exact Session.quiet_throw _
    · simp only [statement?, if_neg hid]
      refine Session.turns_bind (Session.turns_write fun _ => rfl) fun row => ?_
      cases row with
      | none => exact Session.quiet_throw _
      | some row => exact Session.quiet_readTimes row 0 1 fun _ _ => Session.quiet_pure _
  | upsert m r =>
    refine Session.turns_counted ?_
    refine Session.turns_bind (Session.turns_write fun _ => rfl) fun row => ?_
    cases row with
    | none => exact Session.quiet_throw _
    | some row =>
      refine Session.turns_bind (Session.quiet_ofEngine _) fun _ => ?_
      exact Session.quiet_readTimes row 1 2 fun _ _ => Session.quiet_pure _
  | delete id => exact Session.turns_tryCatch (Session.turns_write fun _ => rfl) fun _ _ => rfl
  | deleteAll => exact Session.turns_write fun _ => rfl
  | confirm id sentAt => exact Session.turns_write fun _ => rfl

end Write

/-- Trees of work on a session. Each step may read what the earlier ones came to; a failure reaches
the step after it, which passes it on or does not. -/
inductive Work : Type → Type 1
  | finish {α : Type} (result : Except StoreError α) : Work α
  | read {α β : Type} (work : Session β) (quiet : work.Quiet)
    (next : Except StoreError β → Work α) : Work α
  | write {α : Type} (w : Write) (next : Except StoreError w.Outcome → Work α) : Work α
  | scope {α β : Type} (inner : Work β) (next : Except StoreError β → Work α) : Work α

/-- Applies statements one after another. -/
def Statement.replay (statements : List Statement) : Session Unit :=
  forM statements fun st => Session.write st.effect

namespace Work

variable {α : Type}

def session {α : Type} : Work α → Session α
  | finish result => fun s => (result, s)
  | read work _ next => Session.attempt work >>= fun result => (next result).session
  | write w next => Session.attempt w.session >>= fun result => (next result).session
  | scope inner next =>
    Session.attempt (Session.tx inner.session) >>= fun result => (next result).session

/-- A statement, where it succeeds. -/
def succeeded (st : Statement) (s : Store) : List Statement :=
  if (s.db.write st.effect).1.isOk then [st] else []

/-- The statements that succeed as a tree runs on a store, those of its scopes among them. -/
def log {α : Type} : Work α → Store → List Statement
  | finish _, _ => []
  | read work _ next, s => (next (work.run s).1).log (work.run s).2
  | write w next, s =>
    w.statement?.elim [] (succeeded · s) ++ (next (w.session.run s).1).log (w.session.run s).2
  | scope inner next, s =>
    inner.log (Session.enter.run s).2 ++
      (next ((Session.tx inner.session).run s).1).log ((Session.tx inner.session).run s).2

/-- The stores that the steps of a tree see as it runs, those inside its scopes among them. -/
def seen {α : Type} : Work α → Store → List Store
  | finish _, s => [s]
  | read work _ next, s => s :: (next (work.run s).1).seen (work.run s).2
  | write w next, s => s :: (next (w.session.run s).1).seen (w.session.run s).2
  | scope inner next, s =>
    s :: inner.seen (Session.enter.run s).2 ++
      (next ((Session.tx inner.session).run s).1).seen ((Session.tx inner.session).run s).2

/-- Confirms the delivery of ids one after another until one fails; `marked` counts those before. -/
def confirmEach (sentAt : Int) (marked : Nat) : List String → Work Nat
  | [] => finish (.ok marked)
  | id :: rest =>
    write (.confirm id sentAt) fun
      | .error e => finish (.error e)
      | .ok row => confirmEach sentAt (marked + if Option.isSome row then 1 else 0) rest

/-- The confirmation of ids, with its own scope. -/
def markSent (ids : List String) (t : Instant) (next : Except StoreError Nat → Work α) : Work α :=
  scope (read Session.prepare Session.quiet_prepare fun
    | .error e => finish (.error e)
    | .ok _ => confirmEach t.micros 0 ids) next

theorem run_confirmEach (sentAt : Int) (marked : Nat) (ids : List String) (s : Store) :
    (confirmEach sentAt marked ids).session.run s =
      (((Session.markEach sentAt ids).run s).1.map (marked + ·),
        ((Session.markEach sentAt ids).run s).2) := by
  induction ids generalizing marked s with
  | nil => rfl
  | cons id ids ih =>
    let step : Session (Option Row) := (Write.confirm id sentAt).session
    have hmark : Session.markEach sentAt (id :: ids) =
        step >>= fun row => Session.markEach sentAt ids >>= fun n =>
          pure ((if row.isSome then 1 else 0) + n) := rfl
    rw [hmark]
    refine (Session.run_attempt_bind step _ s).trans ?_
    rcases hrun : step.run s with ⟨e | row, s'⟩
    · rw [Session.run_bind_error hrun]
      rfl
    · rw [Session.run_bind_ok hrun]
      refine (ih _ s').trans ?_
      rcases hrest : (Session.markEach sentAt ids).run s' with ⟨e | n, s''⟩
      · rw [Session.run_bind_error hrest]
        rfl
      · rw [Session.run_bind_ok hrest]
        simp only [Except.map, Nat.add_assoc]
        rfl

theorem session_markSent (ids : List String) (t : Instant) (next : Except StoreError Nat → Work α) :
    (markSent ids t next).session =
      Session.attempt (Session.markSent ids t) >>= fun result => (next result).session := by
  have hinner : (read Session.prepare Session.quiet_prepare fun
      | .error e => finish (.error e)
      | .ok _ => confirmEach t.micros 0 ids).session =
        (do Session.prepare; Session.markEach t.micros ids : Session Nat) := by
    funext s
    refine (Session.run_attempt_bind _ _ s).trans ?_
    rcases hrun : Session.prepare.run s with ⟨e | a, s'⟩
    · exact (Session.run_bind_error hrun _).symm
    · refine Eq.trans ?_ (Session.run_bind_ok hrun _).symm
      refine (run_confirmEach t.micros 0 ids s').trans ?_
      rcases (Session.markEach t.micros ids).run s' with ⟨e | n, s''⟩
      · rfl
      · simp [Except.map]
  rw [markSent, session, hinner]
  rfl

/-- From one store to another inside a transaction, with the statements that lead there: run on
their own, outside every transaction, they succeed and lead to the same table. -/
structure Follows (u u' : Store) (statements : List Statement) : Prop where
  saved : u'.db.saved = u.db.saved
  readOnly : u'.db.readOnly = u.db.readOnly
  clean : u'.db.Clean
  replay : ∀ v : Store, v.db = u.db.showing u.db.table none →
    (Statement.replay statements).run v = (.ok (), { v with db := u'.db.showing u'.db.table none })

theorem Follows.refl {u u' : Store} (hclean : u.db.Clean) (h : u'.db = u.db) : Follows u u' [] where
  saved := by rw [h]
  readOnly := by rw [h]
  clean := by rwa [h]
  replay v hv := by
    rw [h, ← hv]
    rfl

theorem Follows.trans {u u' u'' : Store} {first second : List Statement} (h : Follows u u' first)
    (h' : Follows u' u'' second) : Follows u u'' (first ++ second) where
  saved := h'.saved.trans h.saved
  readOnly := h'.readOnly.trans h.readOnly
  clean := h'.clean
  replay v hv := by
    rw [Statement.replay, List.forM_append]
    exact (Session.run_bind_ok (h.replay v hv) _).trans (h'.replay _ rfl)

theorem follows_statement (st : Statement) {u u' : Store} (hclean : u.db.Clean)
    (h : u'.db = (u.db.write st.effect).2) : Follows u u' (succeeded st u) := by
  have hself : u.db.showing u.db.table u.db.saved = u.db := rfl
  obtain ⟨t, ht, hwrite⟩ | ⟨e, hwrite⟩ := Database.write_effect hclean st
  · have hin : u.db.write st.effect = (.ok (), u.db.showing (some t) u.db.saved) :=
      hself ▸ hwrite u.db.saved
    rw [hin] at h
    have hlog : succeeded st u = [st] := by simp [succeeded, hin, Except.isOk, Except.toBool]
    rw [hlog]
    refine ⟨by rw [h]; rfl, by rw [h]; rfl, ?_, fun v hv => ?_⟩
    · rw [h]
      exact fun t' ht' => Option.some.inj ht' ▸ ht
    · have hout : (Session.write st.effect).run v =
          (.ok (), { v with db := u.db.showing (some t) none }) := by
        rw [Session.run_write, hv, hwrite none]
        rfl
      rw [h]
      exact (Session.run_bind_ok hout _).trans (Session.run_pure _)
  · have hin : u.db.write st.effect = (.error e, u.db) := hself ▸ hwrite u.db.saved
    rw [hin] at h
    have hlog : succeeded st u = [] := by simp [succeeded, hin, Except.isOk, Except.toBool]
    rw [hlog]
    exact .refl hclean h

theorem follows_write (w : Write) {u : Store} (hclean : u.db.Clean) :
    Follows u (w.session.run u).2 (w.statement?.elim [] (succeeded · u)) := by
  have hturn := w.turns_session u
  cases hst : w.statement? with
  | none =>
    rw [hst] at hturn
    exact .refl hclean hturn
  | some st =>
    rw [hst] at hturn
    exact follows_statement st hclean hturn

/-- Inside a transaction a tree follows its log, and every step of it sees the transaction open. -/
theorem follows_log (work : Work α) {u : Store} (hopen : u.db.saved ≠ none) (hclean : u.db.Clean) :
    Follows u (work.session.run u).2 (work.log u) ∧ ∀ v ∈ work.seen u, v.db.saved ≠ none := by
  induction work generalizing u with
  | finish result => exact ⟨.refl hclean rfl, by simpa [seen] using hopen⟩
  | read work quiet next ih =>
    have hstep : Follows u (work.run u).2 [] := .refl hclean (quiet u)
    obtain ⟨hrest, hseen⟩ := ih (work.run u).1 (hstep.saved ▸ hopen) hstep.clean
    rw [session, Session.run_attempt_bind, log, seen]
    exact ⟨hstep.trans hrest, List.forall_mem_cons.mpr ⟨hopen, hseen⟩⟩
  | write w next ih =>
    have hstep := follows_write w hclean
    obtain ⟨hrest, hseen⟩ := ih (w.session.run u).1 (hstep.saved ▸ hopen) hstep.clean
    rw [session, Session.run_attempt_bind, log, seen]
    exact ⟨hstep.trans hrest, List.forall_mem_cons.mpr ⟨hopen, hseen⟩⟩
  | scope inner next ihinner ih =>
    obtain ⟨hstep, hinner⟩ := ihinner hopen hclean
    obtain ⟨hrest, hseen⟩ := ih (inner.session.run u).1 (hstep.saved ▸ hopen) hstep.clean
    rw [session, Session.run_attempt_bind, log, seen, Session.run_enter_joined hopen,
      Session.run_tx_joined _ hopen]
    refine ⟨hstep.trans hrest, List.forall_mem_cons.mpr ⟨hopen, fun v hv => ?_⟩⟩
    exact (List.mem_append.mp hv).elim (hinner v) (hseen v)

/-- What a tree comes to as the outermost scope of a store: all of what succeeded in it, as if there
were no scopes, or nothing. -/
structure Flattens (work : Work α) (s : Store) : Prop where
  kept : ∀ a, (work.session.run s.begun).1 = .ok a →
    ((Session.tx work.session).run s).1 = .ok a ∧
    (Statement.replay (work.log s.begun)).run s =
      (.ok (), { s with db := ((Session.tx work.session).run s).2.db })
  undone : ∀ e, (work.session.run s.begun).1 = .error e →
    ((Session.tx work.session).run s).1 = .error e ∧ ((Session.tx work.session).run s).2.db = s.db
  closed : ((Session.tx work.session).run s).2.db.inTransaction = false
  inside : ∀ v ∈ work.seen s.begun, v.db.inTransaction = true

theorem flattens (work : Work α) {s : Store} (hs : s.db.saved = none) (hclean : s.db.Clean) :
    work.Flattens s := by
  have hopen : s.begun.db.saved ≠ none := Option.some_ne_none _
  obtain ⟨hfollows, hseen⟩ := work.follows_log hopen hclean
  have hinside : ∀ v ∈ work.seen s.begun, v.db.inTransaction = true :=
    fun v hv => Option.isSome_iff_ne_none.mpr (hseen v hv)
  have hself : s.db = s.db.showing s.db.table none := by rw [← hs]; rfl
  rcases hrun : work.session.run s.begun with ⟨e | a, u⟩
  all_goals rw [hrun] at hfollows
  · have htx := Session.run_tx_error hs hrun
    have hrestored : u.db.restored = s.db := by
      have hsaved : u.db.saved = some s.db.table := hfollows.saved
      have hreadOnly : u.db.readOnly = s.db.readOnly := hfollows.readOnly
      rw [hself, Database.restored, hsaved]
      simp only [Database.showing, hreadOnly]
    refine ⟨fun a ha => ?_, fun e' he' => ?_, ?_, hinside⟩
    · rw [hrun] at ha
      cases ha
    · rw [hrun] at he'
      cases he'
      rw [htx]
      exact ⟨rfl, hrestored⟩
    · rw [htx, Database.inTransaction, hrestored, hs]
      rfl
  · have htx := Session.run_tx_ok hs hrun (hfollows.saved ▸ hopen)
    refine ⟨fun a' ha' => ?_, fun e he => ?_, ?_, hinside⟩
    · rw [hrun] at ha'
      cases ha'
      rw [htx]
      exact ⟨rfl, hfollows.replay s hself⟩
    · rw [hrun] at he
      cases he
    · rw [htx]
      rfl

/-- Adds two pods, the second in a scope that fails, and confirms the first; failures are passed
over. -/
def twoPods : Work Unit :=
  let t : Instant := ⟨1714564800000000000, by decide, by decide⟩
  let failing : Work Unit :=
    write (.create ⟨t, "id2"⟩ (.fresh .pod "b" none)) fun _ => finish (.error .notFound)
  write (.create ⟨t, "id1"⟩ (.fresh .pod "a" none)) fun _ =>
  scope failing fun _ =>
  markSent ["id1"] t fun _ =>
  finish (.ok ())

theorem flattens_twoPods :
    (Store.fresh.db.saved = none ∧ Store.fresh.db.Clean) ∧ twoPods.Flattens Store.fresh ∧
      ((Session.tx twoPods.session).run Store.fresh).2.db.rows.map (fun r => (r.name, r.sentAt)) =
        [(.text "a", .integer 1714564800000000), (.text "b", .null)] := by
  have hclean : Store.fresh.db.Clean := by
    intro t ht
    cases ht
    exact fun g hg => absurd hg List.not_mem_nil
  exact ⟨⟨rfl, hclean⟩, twoPods.flattens rfl hclean, by decide +kernel⟩

/-- A store with a guard for pods named b. -/
def guarded (watch : Watch) (raise : Raise) : Store :=
  { Store.fresh with db := { Database.fresh with
    table := some ⟨[], [⟨"g", watch, some "b", raise, "refused"⟩]⟩ } }

/-- Deletes all rows after adding two; failures are passed over. -/
def cleared : Work Unit :=
  scope twoPods fun _ => write .deleteAll fun _ => finish (.ok ())

/-- A guard that ends the transaction takes the work before it away, and one that stops a deletion
halfway leaves what the deletion had done. -/
theorem not_flattens_guarded :
    ((guarded .insert .rollback).db.saved = none ∧ ¬ twoPods.Flattens (guarded .insert .rollback)) ∧
    (guarded .delete .fail).db.saved = none ∧ ¬ cleared.Flattens (guarded .delete .fail) := by
  refine ⟨⟨rfl, fun h => ?_⟩, rfl, fun h => ?_⟩
  · have hok : (twoPods.session.run (guarded .insert .rollback).begun).1 = .ok () := by
      decide +kernel
    exact absurd (h.kept () hok).1 (by decide +kernel)
  · have hok : (cleared.session.run (guarded .delete .fail).begun).1 = .ok () := by decide +kernel
    have hdb := congrArg (·.2.db.rows.length) (h.kept () hok).2
    exact absurd hdb (by decide +kernel)

end Work

end ClusterOutbox
