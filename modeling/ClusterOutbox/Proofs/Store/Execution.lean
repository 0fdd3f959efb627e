import ClusterOutbox.Proofs.Store.Operation
import ClusterOutbox.Proofs.Store.Session

namespace ClusterOutbox

namespace Store

/-- Whether an id is there and no row has it. -/
def IsFresh (s : Store) (id : String) : Prop := id ≠ "" ∧ ∀ row ∈ s.db.rows, row.id ≠ .text id

instance (s : Store) (id : String) : Decidable (s.IsFresh id) :=
  inferInstanceAs (Decidable (_ ∧ _))

/-- A store without guards whose table holds entries. -/
structure Shows (s : Store) (es : Ledger) : Prop where
  table : s.db.table = some (es.table [])
  writable : s.db.readOnly = false
  distinct : es.Distinct

def put (s : Store) (es : Ledger) : Store :=
  { s with db := { s.db with table := some (es.table []) } }

variable {s : Store} {es : Ledger}

theorem Shows.rows (hs : s.Shows es) : s.db.rows = es.map Entry.row := by
  simp [Database.rows, hs.table, Ledger.table]

theorem Shows.writable? (hs : s.Shows es) : s.db.writable? = .ok (es.table []) :=
  Database.writable?_of_table hs.table hs.writable

theorem Shows.put_self (hs : s.Shows es) : s.put es = s := by
  obtain ⟨isOpen, ⟨table, saved, readOnly⟩, prepared, metrics⟩ := s
  obtain rfl := hs.table
  rfl

theorem Shows.put (hs : s.Shows es) {es' : Ledger} (hd : es'.Distinct) : (s.put es').Shows es' :=
  ⟨rfl, hs.writable, hd⟩

@[simp] theorem put_put (s : Store) (es es' : Ledger) : (s.put es).put es' = s.put es' := rfl

theorem Shows.id_ne_of_isFresh (hs : s.Shows es) {id : String} (h : s.IsFresh id) :
    ∀ e ∈ es, e.id ≠ id := by
  intro e he hid
  have hrow : e.row ∈ s.db.rows := hs.rows ▸ List.mem_map_of_mem he
  exact h.2 e.row hrow (by simp [Entry.row, hid])

end Store

namespace Session

variable {s : Store} {es : Ledger}

theorem stamp_floorMicros (t : Instant) : t.floorMicros.stamp = t.storeTime.stamp := by
  simp only [Instant.stamp, Instant.floorMicros, StoreTime.stamp, Instant.storeTime,
    Instant.micros, Stamp.mk.injEq]
  omega

theorem micros_sentAt {r : Record} (hr : ∀ t ∈ r.sentAt, ¬ Stamp.last < t) :
    r.sentAt.map Stamp.micros = (r.sentAt.map Stamp.storeTime).map (·.micros) := by
  rw [Option.map_map]
  refine Option.map_congr ?_
  intro t ht
  exact (Stamp.micros_storeTime (hr t ht)).symm

theorem run_updateId (hs : s.Shows es) {id : String} {watched : List Watch} {change : Row → Row}
    {f : Entry → Entry} (hchange : ∀ x : Entry, change x.row = (f x).row)
    (hid : ∀ x, (f x).id = x.id) (hk : ∀ x, (f x).identity = x.identity) :
    (write fun t => t.updateId id watched change).run s =
      (.ok ((es.byId? id).map fun e => (f e).row),
        s.put (es.map fun e => if e.id = id then f e else e)) :=
  run_write_done hs.writable?
    (Ledger.updateId_table hs.distinct (fun _ _ _ => rfl) hchange hid hk)

theorem run_readTimes_row {α : Type} {row : Row} {created updated : StoreTime}
    (hc : row.created = .integer created.micros) (hu : row.updated = .integer updated.micros)
    (i j : Nat) (f : Stamp → Stamp → Session α) :
    (do
      let created ← ofEngine (row.created.integer? i "record_created")
      let updated ← ofEngine (row.updated.integer? j "record_updated")
      let created ← ofEngine (Row.stamp? i created)
      let updated ← ofEngine (Row.stamp? j updated)
      f created updated : Session α).run s = (f created.stamp updated.stamp).run s := by
  have hc : row.created.integer? i "record_created" = .ok created.micros := by rw [hc]; rfl
  have hu : row.updated.integer? j "record_updated" = .ok updated.micros := by rw [hu]; rfl
  rw [run_bind_ok (run_ofEngine_ok hc), run_bind_ok (run_ofEngine_ok hu),
    run_bind_ok (run_ofEngine_ok (Entry.stamp?_micros i created)),
    run_bind_ok (run_ofEngine_ok (Entry.stamp?_micros j updated))]

theorem run_readTimes {α : Type} (e : Entry) (i j : Nat) (f : Stamp → Stamp → Session α) :
    (do
      let created ← ofEngine (e.row.created.integer? i "record_created")
      let updated ← ofEngine (e.row.updated.integer? j "record_updated")
      let created ← ofEngine (Row.stamp? i created)
      let updated ← ofEngine (Row.stamp? j updated)
      f created updated : Session α).run s = (f e.created.stamp e.updated.stamp).run s :=
  run_readTimes_row rfl rfl i j f

theorem run_create (hs : s.Shows es) {m : Moment} {r : Record} (hid : ∀ e ∈ es, e.id ≠ m.freshId)
    (hr : ∀ t ∈ r.sentAt, ¬ Stamp.last < t) :
    (create m r).run s = (.ok (es.creation m r), s.put (es.create m r)) := by
  have hrow : Row.ofRecord m.freshId m.now.floorMicros.micros (r.sentAt.map Stamp.micros) r =
      (Entry.ofRecord m.freshId m.now.storeTime (r.sentAt.map Stamp.storeTime) r).row := by
    rw [Entry.row_ofRecord, micros_sentAt hr, Instant.micros_floorMicros, Instant.micros_storeTime]
  refine run_counted_ok ?_
  simp only [hrow, stamp_floorMicros, Ledger.create, Ledger.creation]
  cases hold : es.holder? r.identity with
  | none =>
    have hk := Ledger.holder?_eq_none.mp hold
    rw [run_bind_ok (run_write_done hs.writable? (Ledger.insert_absent rfl hid hk none))]
    rfl
  | some old =>
    rw [run_bind_ok (run_write_done hs.writable? (Ledger.insert_taken rfl hold))]
    rfl

theorem run_update_found (hs : s.Shows es) {m : Moment} {r : Record} {e : Entry}
    (he : es.byId? r.id = some e) (hr : ∀ t ∈ r.sentAt, ¬ Stamp.last < t) :
    (update m r).run s =
      (.ok { r with
        created := e.created.stamp
        updated := (m.now.storeTime.later e.created).stamp
        size := (e.overwrite r m.now.storeTime (r.sentAt.map Stamp.storeTime)).row.size.toUInt64 },
      s.put (es.update m r)) := by
  obtain ⟨hmem, hid⟩ := Ledger.mem_of_byId? he
  have hne : r.id ≠ "" := hid ▸ hs.distinct.ids_nonempty e hmem
  have hchange : ∀ x : Entry, overwrite r m.now.micros (r.sentAt.map Stamp.micros) x.row =
      (x.overwrite r m.now.storeTime (r.sentAt.map Stamp.storeTime)).row := by
    intro x
    rw [Entry.row_overwrite, micros_sentAt hr, Instant.micros_storeTime]
  refine run_counted_ok ?_
  rw [if_neg hne]
  change (write (fun t => t.updateId r.id [.update, .sentAt]
    (overwrite r m.now.micros (r.sentAt.map Stamp.micros))) >>= _ : Session Record).run s = _
  rw [run_bind_ok (run_updateId hs hchange (fun _ => rfl) (fun _ => rfl)), he, Option.map_some]
  exact run_readTimes (e.overwrite r m.now.storeTime (r.sentAt.map Stamp.storeTime)) 0 1 _

theorem run_update_missing (hs : s.Shows es) {m : Moment} {r : Record}
    (he : es.byId? r.id = none) (hr : ∀ t ∈ r.sentAt, ¬ Stamp.last < t) :
    (update m r).run s =
      (.error (if r.id = "" then .missingKey else .notFound), failedWrite r "update" s) := by
  have hchange : ∀ x : Entry, overwrite r m.now.micros (r.sentAt.map Stamp.micros) x.row =
      (x.overwrite r m.now.storeTime (r.sentAt.map Stamp.storeTime)).row := by
    intro x
    rw [Entry.row_overwrite, micros_sentAt hr, Instant.micros_storeTime]
  have hsame : (es.map fun e => if e.id = r.id then
      e.overwrite r m.now.storeTime (r.sentAt.map Stamp.storeTime) else e) = es :=
    Ledger.map_absent he _
  refine run_counted_error ?_
  by_cases hne : r.id = ""
  · rw [if_pos hne, if_pos hne]
    rfl
  · rw [if_neg hne, if_neg hne]
    change (write (fun t => t.updateId r.id [.update, .sentAt]
      (overwrite r m.now.micros (r.sentAt.map Stamp.micros))) >>= _ : Session Record).run s = _
    rw [run_bind_ok (run_updateId hs hchange (fun _ => rfl) (fun _ => rfl)), he, hsame, hs.put_self]
    rfl

theorem run_upsert (hs : s.Shows es) {m : Moment} (hid : ∀ e ∈ es, e.id ≠ m.freshId) (r : Record) :
    (upsert m r).run s = (.ok (es.observation m r), s.put (es.upsert m r)) := by
  have hchange : ∀ x : Entry, overwrite r m.now.micros none x.row =
      (x.overwrite r m.now.storeTime none).row := by
    intro x
    rw [Entry.row_overwrite, Instant.micros_storeTime]
    rfl
  have hrow : Row.ofRecord m.freshId m.now.micros none r =
      (Entry.ofRecord m.freshId m.now.storeTime none r).row := rfl
  refine run_counted_ok ?_
  change (write (fun t => t.insert (Row.ofRecord m.freshId m.now.micros none r)
    (some (overwrite r m.now.micros none))) >>= _ : Session Observation).run s = _
  simp only [hrow, Ledger.upsert, Ledger.observation]
  have hread : ∀ e : Entry, e.row.id.text? 0 "id" = .ok e.id := fun _ => rfl
  cases hold : es.holder? r.identity with
  | none =>
    have hk := Ledger.holder?_eq_none.mp hold
    rw [run_bind_ok (run_write_done hs.writable? (Ledger.insert_absent rfl hid hk _))]
    simp only
    rw [run_bind_ok (run_ofEngine_ok (hread _)), run_readTimes, run_pure,
      if_pos (show (Entry.ofRecord m.freshId m.now.storeTime none r).id = m.freshId from rfl)]
    rfl
  | some old =>
    obtain ⟨hmem, _⟩ := Ledger.mem_of_holder? hold
    let new := Entry.ofRecord m.freshId m.now.storeTime none r
    have hnew : es.holder? new.identity = some old := hold
    have hmerge : (es.table []).insert new.row (some (overwrite r m.now.micros none)) = _ :=
      Ledger.insert_merge hs.distinct rfl rfl hnew hchange (fun _ => rfl) (fun _ => rfl)
    rw [run_bind_ok (run_write_done hs.writable? hmerge)]
    simp only
    rw [run_bind_ok (run_ofEngine_ok (hread _)), run_readTimes, run_pure,
      if_neg (show ¬ (old.overwrite r m.now.storeTime none).id = m.freshId from hid old hmem)]
    rfl

theorem run_delete (hs : s.Shows es) (id : String) :
    (delete id).run s = (.ok (es.filter fun e => e.id = id).length, s.put (es.remove id)) := by
  have hdelete : (es.table []).delete (fun r => r.id == .text id) =
      .done (Ledger.table (es.filter fun e => !decide (e.id = id)) [])
        (es.filter fun e => decide (e.id = id)).length :=
    Ledger.delete_table (fun e => e.row_id_beq id) (fun _ _ _ => rfl)
  have hrest : (es.filter fun e => !decide (e.id = id)) = es.remove id := by simp [Ledger.remove]
  unfold delete
  rw [run_tryCatch, run_write_done hs.writable? hdelete, hrest]
  rfl

theorem run_markEach (hs : s.Shows es) (t : StoreTime) (ids : List String) :
    (markEach t.micros ids).run s =
      (.ok (ids.filter fun id => (es.byId? id).isSome).length, s.put (es.confirm ids t)) := by
  induction ids generalizing s es with
  | nil =>
    rw [show es.confirm [] t = es by simp [Ledger.confirm], hs.put_self]
    rfl
  | cons id ids ih =>
    have hmap : ∀ e : Entry, (if e.id = id then e.confirm t else e).id = e.id := by
      intro e
      split <;> rfl
    have hd := hs.distinct.map hmap (fun e => by split <;> rfl)
    -- Confirming one id hides none of the others, so the count is over the entries at the start.
    have hcount : (ids.filter fun i =>
        (Ledger.byId? (es.map fun e => if e.id = id then e.confirm t else e) i).isSome) =
          ids.filter fun i => (es.byId? i).isSome := by
      simp only [Ledger.byId?_map hmap, Option.isSome_map]
    rw [markEach, run_bind_ok (run_updateId hs (f := Entry.confirm t)
      (fun x => (Entry.row_confirm t x).symm) (fun _ => rfl) (fun _ => rfl)),
      run_bind_ok (ih (hs.put hd)), run_pure, hcount,
      Ledger.confirm_cons, Store.put_put, Option.isSome_map]
    cases h : es.byId? id with
    | none => simp [h]
    | some e => simp [h, Nat.add_comm]

theorem mapM_record? (es : Ledger) :
    (es.map Entry.row).mapM Row.record? = .ok (es.map Entry.record) := by
  induction es with
  | nil => rfl
  | cons e es ih =>
    rw [List.map_cons, List.mapM_cons, Entry.record?_row, ih]
    rfl

theorem filter_rows {target : Row → Bool} {p : Entry → Bool}
    (htarget : ∀ e : Entry, target e.row = p e) (es : Ledger) :
    (es.map Entry.row).filter target = (es.filter p).map Entry.row := by
  rw [List.filter_map]
  simp only [Function.comp_def, htarget]

theorem run_findAll (hs : s.Shows es) {q : Query} {p : Entry → Bool}
    (hq : ∀ e : Entry, q.selects e.row = p e) :
    (findAll q).run s = (.ok ((es.filter p).map Entry.record), s) := by
  have hread : ((es.map Entry.row).filter q.selects).mapM Row.record? =
      .ok ((es.filter p).map Entry.record) := by
    rw [filter_rows hq, mapM_record?]
  exact run_findAll_ok hs.table hread

theorem run_findFirst (hs : s.Shows es) (q : Query) :
    (findFirst q).run s =
      (match es.find? fun e => q.selects e.row with
        | some e => .ok e.record
        | none => .error .notFound, s) := by
  have hfind : (es.map Entry.row).find? q.selects =
      (es.find? fun e => q.selects e.row).map Entry.row := List.find?_map ..
  change (rows >>= _ : Session Record).run s = _
  rw [run_bind_ok (run_rows hs.table)]
  simp only [Ledger.table, hfind]
  cases es.find? fun e => q.selects e.row with
  | none => rfl
  | some e => exact run_ofEngine_ok e.record?_row

theorem run_get (hs : s.Shows es) (id : String) :
    (get? id).run s =
      (match es.byId? id with
        | some e => .ok e.record
        | none => .error .notFound, s) := by
  change (rows >>= _ : Session Record).run s = _
  rw [run_bind_ok (run_rows hs.table)]
  simp only [Ledger.table, Ledger.find?_id]
  cases es.byId? id with
  | none => rfl
  | some e => exact run_ofEngine_ok e.record?_row

end Session

end ClusterOutbox
