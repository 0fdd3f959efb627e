import ClusterOutbox.Proofs.Store.Visited

namespace ClusterOutbox

namespace Cell

/-- A number no later than the last microsecond of the calendar. -/
def capped : Cell → Cell
  | integer n => integer (min n 8210266876799999999)
  | c => c

theorem capped_beq_null (c : Cell) : (c.capped == null) = (c == null) := by
  cases c <;> rfl

theorem capped_ofInteger? (n : Option Int) :
    (ofInteger? n).capped = ofInteger? (n.map fun n => min n 8210266876799999999) := by
  cases n <;> rfl

/-- Nothing on the calendar tells a number from the capped one. -/
theorem lt_capped {c : Cell} {limit : Int} (h : limit ≤ 8210266876799999999) :
    c.capped.lt (integer limit) = c.lt (integer limit) := by
  cases c with
  | integer n =>
    simp only [capped, lt, decide_eq_decide]
    omega
  | null | real bits | text s | garbled bytes | blob bytes => rfl

theorem capped_of_lt {c : Cell} {limit : Int} (h : limit ≤ 8210266876799999999)
    (hlt : c.lt (integer limit) = true) : c.capped = c := by
  cases c with
  | integer n =>
    have hn : n < limit := of_decide_eq_true hlt
    rw [capped, Int.min_eq_left (by omega)]
  | null | real bits | text s | garbled bytes | blob bytes => rfl

end Cell

namespace Row

/-- A row whose delivery is capped. -/
def capped (r : Row) : Row := { r with sentAt := r.sentAt.capped }

/-- A row told as delivered after the last microsecond of the calendar. -/
def Beyond (r : Row) : Prop := ∃ m, r.sentAt = .integer m ∧ 8210266876799999999 < m

instance (r : Row) : Decidable r.Beyond :=
  match h : r.sentAt with
  | .integer m =>
    decidable_of_iff (8210266876799999999 < m) ⟨fun hm => ⟨m, h, hm⟩, by
      rintro ⟨m', hsent, hm⟩
      exact Cell.integer.inj (h.symm.trans hsent) ▸ hm⟩
  | .null | .real _ | .text _ | .garbled _ | .blob _ => isFalse (by simp [Beyond, h])

theorem capped_eq_self {r : Row} (h : ¬ r.Beyond) : r.capped = r := by
  have hsame : r.sentAt.capped = r.sentAt := by
    cases hsent : r.sentAt with
    | integer m =>
      have hle : ¬ 8210266876799999999 < m := fun hm => h ⟨m, hsent, hm⟩
      rw [Cell.capped, Int.min_eq_left (by omega)]
    | null | real bits | text s | garbled bytes | blob bytes => rfl
  rw [capped, hsame]

theorem get_capped {c : Column} (h : c ≠ .sentAt) (r : Row) : r.capped.get c = r.get c := by
  cases c with
  | sentAt => exact absurd rfl h
  | id | kind | name | ns | nsKey | metricLabels | labels | annotations | created | updated => rfl

theorem capped_overwrite (r : Record) (now : Int) (sentAt : Option Int) (row : Row) :
    (Session.overwrite r now sentAt row).capped =
      Session.overwrite r now (sentAt.map fun n => min n 8210266876799999999) row.capped := by
  simp only [Session.overwrite, capped, Cell.capped_ofInteger?]
  rfl

theorem capped_ofRecord (id : String) (now : Int) (sentAt : Option Int) (r : Record) :
    (ofRecord id now sentAt r).capped =
      ofRecord id now (sentAt.map fun n => min n 8210266876799999999) r := by
  simp only [ofRecord, capped, Cell.capped_ofInteger?]

end Row

namespace Table

def capped (t : Table) : Table := { t with rows := t.rows.map Row.capped }

theorem capped_eq_self {t : Table} (h : ∀ r ∈ t.rows, ¬ r.Beyond) : t.capped = t := by
  have hrows : t.rows.map Row.capped = t.rows :=
    (List.map_congr_left fun r hr => Row.capped_eq_self (h r hr)).trans (List.map_id _)
  rw [capped, hrows]

theorem broken?_capped (others : List Row) (r : Row) :
    broken? (others.map Row.capped) r.capped = broken? others r := by
  have hnull : (fun c => !c.isNullable && r.capped.get c == .null) =
      fun c : Column => !c.isNullable && r.get c == .null := by
    funext c
    by_cases h : c = .sentAt
    · subst h
      rfl
    · rw [Row.get_capped h]
  unfold broken?
  rw [hnull, List.any_map, List.any_map]
  rfl

/-- A row replaced in the capped table is the row replaced, capped. -/
theorem capped_replace {p : Row → Bool} (hp : ∀ r : Row, p r.capped = p r) (t : Table) (new : Row) :
    capped { t with rows := t.rows.map fun r => if p r then new else r } =
      { t.capped with rows := t.capped.rows.map fun r => if p r then new.capped else r } := by
  simp only [capped, List.map_map, Table.mk.injEq, and_true]
  refine List.map_congr_left ?_
  intro r _
  simp only [Function.comp_apply, hp]
  split <;> rfl

end Table

/-- An effect on the capped table. -/
def Effect.capped {α β : Type} (f : α → β) : Effect α → Effect β
  | .done t a => .done t.capped (f a)
  | .stopped t how e => .stopped t.capped how e

namespace Table

theorem updateId_capped {change change' : Row → Row}
    (h : ∀ r : Row, (change r).capped = change' r.capped) (t : Table) (id : String)
    (watched : List Watch) :
    t.capped.updateId id watched change' =
      (t.updateId id watched change).capped (Option.map Row.capped) := by
  have hfind : t.capped.rows.find? (fun r => r.id == .text id) =
      (t.rows.find? fun r => r.id == .text id).map Row.capped := List.find?_map
  have hothers : t.capped.rows.filter (fun r => r.id != .text id) =
      (t.rows.filter fun r => r.id != .text id).map Row.capped := List.filter_map
  unfold updateId
  rw [hfind, hothers]
  cases t.rows.find? fun r => r.id == .text id with
  | none => rfl
  | some old =>
    have hguard : t.capped.guard? watched old.capped = t.guard? watched old := rfl
    simp only [Option.map_some, hguard, ← h, broken?_capped]
    cases t.guard? watched old with
    | some g =>
      dsimp only
      split <;> rfl
    | none =>
      dsimp only
      cases broken? (t.rows.filter fun r => r.id != .text id) (change old) with
      | some e => rfl
      | none =>
        dsimp only [Effect.capped]
        rw [capped_replace fun _ => rfl]
        rfl

theorem insert_capped (merge merge' : Option (Row → Row))
    (h : ∀ r : Row, merge.map (fun f => (f r).capped) = merge'.map fun f => f r.capped)
    (t : Table) (new : Row) :
    t.capped.insert new.capped merge' = (t.insert new merge).capped (Option.map Row.capped) := by
  have hguard : t.capped.guard? [.insert] new.capped = t.guard? [.insert] new := rfl
  have hfind : t.capped.rows.find? (fun r => r.sameIdentity new.capped) =
      (t.rows.find? fun r => r.sameIdentity new).map Row.capped := List.find?_map
  have hothers : t.capped.rows.filter (fun r => !r.sameIdentity new.capped) =
      (t.rows.filter fun r => !r.sameIdentity new).map Row.capped := List.filter_map
  unfold insert
  rw [hguard, hfind, hothers]
  cases t.guard? [.insert] new with
  | some g =>
    dsimp only
    split <;> rfl
  | none =>
    dsimp only
    cases t.rows.find? fun r => r.sameIdentity new with
    | none =>
      dsimp only [Option.map_none]
      have hbroken : broken? t.capped.rows new.capped = broken? t.rows new := broken?_capped _ _
      rw [hbroken]
      cases broken? t.rows new with
      | some e => rfl
      | none => simp [Effect.capped, capped]
    | some old =>
      dsimp only [Option.map_some]
      cases merge with
      | none =>
        obtain rfl : merge' = none := Option.map_eq_none_iff.mp (h old).symm
        rfl
      | some change =>
        obtain ⟨change', rfl, hchange⟩ := Option.map_eq_some_iff.mp (h old).symm
        have hguard' : t.capped.guard? [.update, .sentAt] old.capped =
            t.guard? [.update, .sentAt] old := rfl
        simp only [hguard', hchange, broken?_capped]
        cases t.guard? [.update, .sentAt] old with
        | some g =>
          dsimp only
          split <;> rfl
        | none =>
          dsimp only
          cases broken? (t.rows.filter fun r => !r.sameIdentity new) (change old) with
          | some e => rfl
          | none =>
            dsimp only [Effect.capped]
            rw [capped_replace fun _ => rfl]
            rfl

theorem deleteFrom_capped {target : Row → Bool} (h : ∀ r : Row, target r.capped = target r)
    (t : Table) (kept rest : List Row) (count : Nat) :
    t.capped.deleteFrom target (kept.map Row.capped) count (rest.map Row.capped) =
      (t.deleteFrom target kept count rest).capped id := by
  induction rest generalizing kept count with
  | nil => simp [deleteFrom, Effect.capped, capped]
  | cons r rest ih =>
    have hguard : t.capped.guard? [.delete] r.capped = t.guard? [.delete] r := rfl
    have hkept := ih (r :: kept)
    rw [List.map_cons] at hkept
    simp only [List.map_cons, deleteFrom, h, hguard, hkept, ih]
    split
    · cases t.guard? [.delete] r with
      | none => rfl
      | some g =>
        dsimp only
        split
        · rfl
        · simp [Effect.capped, capped]
    · rfl

theorem delete_capped {target : Row → Bool} (h : ∀ r : Row, target r.capped = target r)
    (t : Table) : t.capped.delete target = (t.delete target).capped id :=
  deleteFrom_capped h t [] t.rows 0

end Table

namespace Database

/-- A database whose tables are capped, the one before an open transaction too. -/
def capped (db : Database) : Database :=
  { db with
    table := db.table.map Table.capped
    saved := db.saved.map (Option.map Table.capped) }

variable {α β : Type}

theorem restored_capped (db : Database) : db.capped.restored = db.restored.capped := by
  unfold restored
  cases h : db.saved <;> simp [capped, h]

theorem writable?_capped (db : Database) : db.capped.writable? = db.writable?.map Table.capped := by
  unfold writable? table?
  cases h : db.table with
  | none => simp [capped, h, Except.map]
  | some t => cases hw : db.readOnly <;> simp [capped, h, hw, Except.map]

theorem write_capped {f : Table → Effect α} {g : Table → Effect β} {h : α → β}
    (hfg : ∀ t : Table, g t.capped = (f t).capped h) (db : Database) :
    db.capped.write g = ((db.write f).1.map h, (db.write f).2.capped) := by
  unfold write
  rw [writable?_capped]
  cases db.writable? with
  | error e => rfl
  | ok t =>
    simp only [Except.map, hfg]
    cases f t with
    | done t' a => rfl
    | stopped t' how e =>
      cases how with
      | rollback => simp only [Effect.capped, restored_capped]
      | abort | fail | ignore => rfl

end Database

def Store.capped (s : Store) : Store := { s with db := s.db.capped }

theorem Store.rows_capped (s : Store) : s.capped.db.rows = s.db.rows.map Row.capped := by
  simp only [Store.capped, Database.capped, Database.rows]
  cases s.db.table <;> rfl

namespace Session

variable {α β γ δ ι : Type} {f : α → β} {g : γ → δ}

/-- Work that does on a capped store what other work does on the store itself. -/
def Caps (f : α → β) (work : Session α) (work' : Session β) : Prop :=
  ∀ s : Store, work'.run s.capped = ((work.run s).1.map f, (work.run s).2.capped)

theorem Caps.bind {x : Session α} {x' : Session β} {k : α → Session γ} {k' : β → Session δ}
    (hx : Caps f x x') (hk : ∀ a, Caps g (k a) (k' (f a))) : Caps g (x >>= k) (x' >>= k') := by
  intro s
  have hs := hx s
  rcases hrun : x.run s with ⟨e | a, s'⟩
  · rw [hrun] at hs
    rw [run_bind_error hrun, run_bind_error hs]
    rfl
  · rw [hrun] at hs
    rw [run_bind_ok hrun, run_bind_ok hs, hk a s']

theorem caps_pure (a : α) : Caps f (pure a) (pure (f a)) := fun _ => rfl

theorem caps_throw (e : StoreError) : Caps f (throw e) (throw e) := fun _ => rfl

theorem caps_ofEngine (result : Except EngineError α) :
    Caps id (ofEngine result) (ofEngine result) := by
  intro s
  cases result <;> rfl

theorem caps_write {change : Table → Effect α} {change' : Table → Effect β}
    (h : ∀ t : Table, change' t.capped = (change t).capped f) :
    Caps f (write change) (write change') := by
  intro s
  have hwrite : s.capped.db.write change' =
      ((s.db.write change).1.map f, (s.db.write change).2.capped) := Database.write_capped h s.db
  rw [run_write, run_write, hwrite]
  cases (s.db.write change).1 <;> rfl

theorem Caps.counted {work : Session α} {work' : Session β} (h : Caps f work work') (r : Record)
    (action : String) : Caps f (counted r action work) (counted r action work') := by
  intro s
  have hs := h s
  rcases hrun : work.run s with ⟨e | a, s'⟩
  · rw [hrun] at hs
    rw [run_counted_error hrun, run_counted_error hs]
    rfl
  · rw [hrun] at hs
    rw [run_counted_ok hrun, run_counted_ok hs]
    rfl

theorem Caps.mapM {k : ι → Session α} {k' : ι → Session α} (h : ∀ i, Caps id (k i) (k' i))
    (items : List ι) : Caps id (items.mapM k) (items.mapM k') := by
  induction items with
  | nil => exact caps_pure []
  | cons item items ih =>
    rw [List.mapM_cons, List.mapM_cons]
    exact (h item).bind fun a => ih.bind fun as => caps_pure (f := id) (a :: as)

theorem Caps.call {work : Session α} {work' : Session β} (h : Caps f work work') :
    Caps f (call work) (call work') := by
  intro s
  cases hopen : s.isOpen with
  | true => rw [run_call hopen, run_call (s := s.capped) hopen, h s]
  | false =>
    rw [run_call_closed hopen, run_call_closed (s := s.capped) hopen]
    rfl

theorem caps_enter : Caps id enter enter := by
  intro s
  by_cases hs : s.db.saved = none
  · have hs' : s.capped.db.saved = none := by simp [Store.capped, Database.capped, hs]
    rw [run_enter hs, run_enter hs']
    rfl
  · have hs' : s.capped.db.saved ≠ none := by simpa [Store.capped, Database.capped] using hs
    rw [run_enter_joined hs, run_enter_joined hs']
    rfl

theorem caps_commit : Caps id (statement Database.commit) (statement Database.commit) := by
  intro s
  rw [run_statement, run_statement]
  unfold Database.commit Database.inTransaction
  have hsaved : s.capped.db.saved.isSome = s.db.saved.isSome := Option.isSome_map
  rw [hsaved]
  split <;> rfl

theorem caps_leave (opened : Bool) (result : Except StoreError α) :
    Caps f (leave opened result) (leave opened (result.map f)) := by
  cases result with
  | ok a =>
    cases opened with
    | true => exact caps_commit.bind fun _ => caps_pure a
    | false => exact caps_pure a
  | error e =>
    cases opened with
    | true =>
      have hundo : Caps id (modify fun s => { s with db := s.db.restored } : Session Unit)
          (modify fun s => { s with db := s.db.restored }) := by
        intro s
        exact congrArg (fun db => (Except.ok (), { s with db })) s.db.restored_capped
      exact hundo.bind fun _ => caps_throw e
    | false => exact caps_throw e

theorem Caps.tx {work : Session α} {work' : Session β} (h : Caps f work work') :
    Caps f (tx work) (tx work') := by
  have hlift : Caps (Except.map f) (ExceptT.lift work.run) (ExceptT.lift work'.run) := by
    intro s
    have hfirst : (ExceptT.lift work.run : Session _).run s = _ := run_lift rfl
    have hsecond : (ExceptT.lift work'.run : Session _).run s.capped = _ := run_lift (h s)
    rw [hfirst, hsecond]
    rfl
  exact caps_enter.bind fun opened => hlift.bind fun result => caps_leave opened result

theorem caps_rows : Caps (List.map Row.capped) rows rows := by
  intro s
  cases ht : s.db.table with
  | some t =>
    have ht' : s.capped.db.table = some t.capped := by simp [Store.capped, Database.capped, ht]
    rw [run_rows ht, run_rows ht']
    rfl
  | none =>
    have ht' : s.capped.db.table = none := by simp [Store.capped, Database.capped, ht]
    rw [run_rows_missing ht, run_rows_missing ht']
    rfl

theorem caps_prepare : Caps id prepare prepare := by
  intro s
  have hprepare (s : Store) : prepare.run s = (if !s.prepared then do
      let _ ← rows
      modify fun s => { s with prepared := true }
    else pure () : Session Unit).run s := rfl
  rw [hprepare s, hprepare s.capped]
  have hprepared : s.capped.prepared = s.prepared := rfl
  rw [hprepared]
  split
  · refine caps_rows.bind (fun _ => ?_) s
    exact fun _ => rfl
  · rfl

theorem caps_markEach (sentAt : Int) (ids : List String) :
    Caps id (markEach sentAt ids) (markEach (min sentAt 8210266876799999999) ids) := by
  induction ids with
  | nil => exact caps_pure 0
  | cons id ids ih =>
    refine Caps.bind (f := Option.map Row.capped) (caps_write fun t => ?_) fun row => ?_
    · refine Table.updateId_capped (fun r => ?_) t id _
      rfl
    · rw [Option.isSome_map]
      exact ih.bind fun marked => caps_pure _

theorem owner_capped (db : Database) (id : String) : owner db.capped id = owner db id := by
  have hfind : db.capped.rows.find? (fun r => r.id == .text id) =
      (db.rows.find? fun r => r.id == .text id).map Row.capped := by
    have hrows : db.capped.rows = db.rows.map Row.capped :=
      Store.rows_capped ⟨true, db, true, .empty⟩
    rw [hrows]
    exact List.find?_map
  unfold owner
  rw [hfind]
  cases db.rows.find? fun r => r.id == .text id <;> rfl

theorem Caps.tryCatch {x : Session α} {x' : Session β} {handle : StoreError → Session α}
    {handle' : StoreError → Session β} (h : Caps f x x') (hh : ∀ e, Caps f (handle e) (handle' e)) :
    Caps f (tryCatch x handle) (tryCatch x' handle') := by
  intro s
  rw [run_tryCatch, run_tryCatch, h s]
  rcases x.run s with ⟨e | a, s'⟩
  · exact hh e s'
  · rfl

theorem caps_delete (i : String) : Caps id (delete i) (delete i) := by
  refine Caps.tryCatch (caps_write fun t => Table.delete_capped (fun _ => rfl) t) fun e => ?_
  intro s
  have hsame : owner s.capped.db i = owner s.db i := owner_capped s.db i
  change (Except.error e, { s.capped with
    metrics := s.capped.metrics.addWriteFailures (owner s.capped.db i).1.name
      (owner s.capped.db i).2 "delete" 1 }) = _
  rw [hsame]
  rfl

/-- Rows whose times lie before a cutoff have nothing to cap. -/
theorem filter_reclaimable_capped (cutoff : Instant) (rows : List Row) :
    (rows.map Row.capped).filter (Query.reclaimable cutoff).selects =
      rows.filter (Query.reclaimable cutoff).selects := by
  have hlast := cutoff.storeTime.le_last
  have hselects (r : Row) : (Query.reclaimable cutoff).selects r.capped =
      (Query.reclaimable cutoff).selects r := by
    have hlt : r.sentAt.capped.lt (.integer cutoff.micros) = r.sentAt.lt (.integer cutoff.micros) :=
      Cell.lt_capped hlast
    have hnull : (r.sentAt.capped != .null) = (r.sentAt != .null) := by
      rw [bne, bne, Cell.capped_beq_null]
    simp only [Query.selects, Row.capped, hlt, hnull]
  have hcapped : (Query.reclaimable cutoff).selects ∘ Row.capped =
      (Query.reclaimable cutoff).selects := funext hselects
  rw [List.filter_map, hcapped]
  refine (List.map_congr_left fun r hr => ?_).trans (List.map_id _)
  have hselected : (Query.reclaimable cutoff).selects r = true := (List.mem_filter.mp hr).2
  simp only [Query.selects, Bool.and_eq_true] at hselected
  have hsame := Cell.capped_of_lt hlast hselected.1.1.2
  simp only [Row.capped, hsame]
  rfl

theorem caps_findReclaimable (cutoff : Instant) :
    Caps id (findAll (.reclaimable cutoff)) (findAll (.reclaimable cutoff)) := by
  refine caps_rows.bind fun rows => ?_
  rw [filter_reclaimable_capped]
  exact caps_ofEngine _

theorem caps_deleteEach (records : List Record) :
    Caps id (Keeper.deleteEach records) (Keeper.deleteEach records) := by
  induction records with
  | nil => exact caps_pure 0
  | cons r records ih =>
    exact (caps_delete r.id).bind fun deleted => ih.bind fun others => caps_pure _

theorem caps_pass (now : Instant) (retention : Duration) :
    Caps id (Keeper.pass now retention) (Keeper.pass now retention) :=
  ((caps_findReclaimable _).bind fun records => caps_deleteEach records).tx.call

end Session

/-- A time as the store tells it again, where it can. -/
def Stamp.capped (t : Stamp) : Stamp := t.storeTime.stamp

theorem Stamp.micros_capped (t : Stamp) : t.capped.micros = min t.micros 8210266876799999999 :=
  t.storeTime.micros_stamp

def Record.capped (r : Record) : Record := { r with sentAt := r.sentAt.map Stamp.capped }

theorem Record.micros_capped (r : Record) : r.capped.sentAt.map Stamp.micros =
    (r.sentAt.map Stamp.micros).map fun n => min n 8210266876799999999 := by
  rw [Record.capped, Option.map_map, Option.map_map]
  exact congrArg (r.sentAt.map ·) (funext Stamp.micros_capped)

namespace Session

theorem caps_markAt (t : Stamp) (ids : List String) :
    Caps id (markAt t.micros ids) (markAt t.capped.micros ids) := by
  rw [t.micros_capped]
  exact (caps_prepare.bind fun _ => caps_markEach t.micros ids).tx

theorem caps_create (m : Moment) (r : Record) :
    Caps Record.capped (create m r) (create m r.capped) := by
  refine Caps.counted (Caps.bind (f := Option.map Row.capped) (caps_write fun t => ?_)
    fun written => ?_) r "create"
  · rw [Record.micros_capped, ← Table.insert_capped none none (fun _ => rfl), Row.capped_ofRecord]
    rfl
  · cases written with
    | none => exact caps_pure (f := Record.capped) _
    | some row => exact caps_pure (f := Record.capped) _

theorem caps_overwrite (t : Table) (i : String) (watched : List Watch) (r : Record) (now : Int) :
    t.capped.updateId i watched (overwrite r.capped now (r.capped.sentAt.map Stamp.micros)) =
      (t.updateId i watched (overwrite r now (r.sentAt.map Stamp.micros))).capped
        (Option.map Row.capped) := by
  refine Table.updateId_capped (fun row => ?_) t i watched
  rw [Row.capped_overwrite, ← Record.micros_capped]
  rfl

/-- Reading the times of a row back does not depend on its delivery. -/
theorem caps_readTimes (row : Row) (i j : Nat) (k : Stamp → Stamp → α) :
    Caps f
      (do
        let created ← ofEngine (row.created.integer? i "record_created")
        let updated ← ofEngine (row.updated.integer? j "record_updated")
        let created ← ofEngine (Row.stamp? i created)
        let updated ← ofEngine (Row.stamp? j updated)
        return k created updated)
      (do
        let created ← ofEngine (row.created.integer? i "record_created")
        let updated ← ofEngine (row.updated.integer? j "record_updated")
        let created ← ofEngine (Row.stamp? i created)
        let updated ← ofEngine (Row.stamp? j updated)
        return f (k created updated)) :=
  (caps_ofEngine _).bind fun _ => (caps_ofEngine _).bind fun _ =>
    (caps_ofEngine _).bind fun _ => (caps_ofEngine _).bind fun _ => caps_pure _

theorem caps_update (m : Moment) (r : Record) :
    Caps Record.capped (update m r) (update m r.capped) := by
  refine Caps.counted ?_ r "update"
  by_cases hid : r.id = ""
  · have hid' : r.capped.id = "" := hid
    rw [if_pos hid, if_pos hid']
    exact caps_throw _
  · have hid' : r.capped.id ≠ "" := hid
    rw [if_neg hid, if_neg hid']
    refine Caps.bind (f := Option.map Row.capped) (caps_write fun t => caps_overwrite t r.id _ r _)
      fun row => ?_
    cases row with
    | none => exact caps_throw _
    | some row => exact caps_readTimes row 0 1 _

theorem caps_upsert (m : Moment) (r : Record) : Caps id (upsert m r) (upsert m r) := by
  refine Caps.counted (Caps.bind (f := Option.map Row.capped) (caps_write fun t => ?_)
    fun row => ?_) r "upsert"
  · have hnew : (Row.ofRecord m.freshId m.now.micros none r).capped =
        .ofRecord m.freshId m.now.micros none r := rfl
    rw [← Table.insert_capped (some (overwrite r m.now.micros none))
      (some (overwrite r m.now.micros none)) (fun _ => rfl), hnew]
  · cases row with
    | none => exact caps_throw _
    | some row =>
      refine (caps_ofEngine _).bind fun id => ?_
      exact caps_readTimes row 1 2 _

theorem caps_observeAll (items : List (Moment × Record)) :
    Caps id (observeAll items) (observeAll items) := by
  refine (Caps.mapM (fun item => ?_) items).tx.call
  exact caps_upsert item.1 item.2

end Session

end ClusterOutbox
