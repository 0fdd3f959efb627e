import ClusterOutbox.Proofs.Retention.Cutoff
import ClusterOutbox.Proofs.Store.Deletion
import ClusterOutbox.Proofs.Store.Failure
import ClusterOutbox.Proofs.Store.Observation

namespace ClusterOutbox

namespace Table

/-- No rule and no guard looks at the delivery that a change sets. -/
theorem updateId_sentAt {t t' : Table} {id : String} {watched : List Watch} {change : Row → Row}
    {new : Row} (h : t.updateId id watched change = .done t' (some new)) (c : Cell) :
    ∃ t'', t.updateId id watched (fun r => { change r with sentAt := c }) =
        .done t'' (some { new with sentAt := c }) ∧ { new with sentAt := c } ∈ t''.rows := by
  unfold updateId at h ⊢
  cases hold : t.rows.find? fun r => r.id == .text id with
  | none => simp [hold] at h
  | some old =>
    cases hguard : t.guard? watched old with
    | some g =>
      simp only [hold, hguard] at h
      split at h <;> cases h
    | none =>
      simp only [hold, hguard, broken?_sentAt] at h ⊢
      split at h
      · cases h
      · cases h
        refine ⟨_, rfl, List.mem_map.mpr ⟨old, List.mem_of_find?_eq_some hold, ?_⟩⟩
        exact if_pos (List.find?_some (p := fun r : Row => r.id == .text id) hold)

end Table

namespace Store

variable {s : Store} {es : Ledger} {m : Moment} {r : Record}

/-- A change of a record that is stored sets the delivery that it is told and a time that is not
before the creation; it succeeds whatever that delivery is. -/
theorem Stands.run_update (hs : s.Stands es) {e : Entry} (he : e ∈ es) (hid : e.id = r.id) :
    ∃ w s' row, (Session.call (Session.update m r)).run s = (.ok w, s') ∧ row ∈ s'.db.rows ∧
      row.id = .text r.id ∧ row.sentAt = .ofInteger? (r.sentAt.map Stamp.micros) ∧
      row.updated = .integer w.updated.micros ∧
      w.updated.micros = max m.now.micros w.created.micros := by
  have hne : r.id ≠ "" := hid ▸ hs.distinct.ids_nonempty e he
  have hunsent : (es.table []).updateId r.id [.update, .sentAt]
      (Session.overwrite r m.now.micros none) = _ :=
    Ledger.updateId_table (f := Entry.overwrite r m.now.storeTime none) hs.distinct
      (fun _ _ _ => rfl) (fun x => (Entry.row_overwrite r m.now.storeTime none x).symm)
      (fun _ => rfl) (fun _ => rfl)
  rw [← hid, Ledger.byId?_of_mem hs.distinct he, Option.map_some, hid] at hunsent
  obtain ⟨t', hdone, hmem⟩ :=
    Table.updateId_sentAt hunsent (.ofInteger? (r.sentAt.map Stamp.micros))
  let changed := e.overwrite r m.now.storeTime none
  let row : Row := { changed.row with sentAt := .ofInteger? (r.sentAt.map Stamp.micros) }
  let w : Record := { r with
    created := changed.created.stamp
    updated := changed.updated.stamp
    size := row.size.toUInt64 }
  have hwrite : (Session.update m r).run s = (.ok w, s.holding t') := by
    rw [Session.update_eq m hne]
    refine Session.run_counted_ok ?_
    rw [Session.run_bind_ok (Session.run_write_done hs.writable? hdone)]
    have hcreated : row.created = .integer changed.created.micros := rfl
    have hupdated : row.updated = .integer changed.updated.micros := rfl
    exact Session.run_readTimes_row hcreated hupdated 0 1 _
  refine ⟨w, s.holding t', row, (Session.run_call hs.isOpen).trans hwrite, hmem, ?_, rfl, ?_, ?_⟩
  · exact congrArg Cell.text hid
  · exact congrArg Cell.integer (StoreTime.micros_stamp _).symm
  · simp only [w, StoreTime.micros_stamp]
    exact StoreTime.micros_later m.now.storeTime e.created

theorem selects_pending_iff {row : Row} {sentAt : Option Int} {updated : Int}
    (hsent : row.sentAt = .ofInteger? sentAt) (hupdated : row.updated = .integer updated) :
    Query.pending.selects row = true ↔ ∀ t ∈ sentAt, t < updated := by
  cases sentAt <;> simp [Query.selects, hsent, hupdated, Cell.ofInteger?, Cell.lt]

/-- A change of a stored record leaves it pending exactly where the delivery that comes with it lies,
in microseconds, before the time of the change; an observation always leaves its record pending. -/
theorem Visited.pending_after_write (hs : s.Visited) (m : Moment) (r : Record) :
    (∀ old ∈ s.db.rows, old.id = .text r.id →
      ∃ w s' row, (Session.call (Session.update m r)).run s = (.ok w, s') ∧ row ∈ s'.db.rows ∧
        row.id = .text r.id ∧ row.updated = .integer w.updated.micros ∧
        w.updated.micros = max m.now.micros w.created.micros ∧
        (Query.pending.selects row = true ↔ ∀ t ∈ r.sentAt, t.micros < w.updated.micros)) ∧
    (s.IsFresh m.freshId →
      ∃ o s' row, (Session.call (Session.upsert m r)).run s = (.ok o, s') ∧ row ∈ s'.db.rows ∧
        row.id = .text o.record.id ∧ Query.pending.selects row = true) := by
  obtain ⟨es, hes⟩ := hs.stands
  constructor
  · intro old hold hid
    rw [hes.rows] at hold
    obtain ⟨e, he, rfl⟩ := List.mem_map.mp hold
    obtain ⟨w, s', row, hrun, hmem, hrow, hsent, hupdated, htime⟩ :=
      hes.run_update (m := m) he (Cell.text.inj hid)
    refine ⟨w, s', row, hrun, hmem, hrow, hupdated, htime, ?_⟩
    rw [selects_pending_iff hsent hupdated]
    simp
  · intro hm
    have hupsert := Session.run_upsert hes.toShows (hes.id_ne_of_isFresh hm) r
    have hput : (s.put (es.upsert m r)).db.rows = (es.upsert m r).map Entry.row := rfl
    refine ⟨_, _, (es.observed m r).row, (Session.run_call hes.isOpen).trans hupsert, ?_, ?_, ?_⟩
    · rw [hput]
      exact List.mem_map_of_mem (Ledger.observed_mem m r)
    · rw [Ledger.record_observation]
      rfl
    · rw [Entry.selects_pending_row, Entry.isPending, Ledger.observed]
      cases es.holder? r.identity <;> rfl

/-- The pod as it is read after its delivery, with a new label. -/
def relabelled : Record :=
  { deliveredRecord with labels := some (SortedMap.ofList [("app", "v2")]) }

theorem pending_after_write_deliveredPod :
    deliveredPod.Visited ∧ deliveredPod.IsFresh "b" ∧
    (∃ old ∈ deliveredPod.db.rows, old.id = .text relabelled.id) ∧
    (∃ w s' row,
      (Session.call (Session.update ⟨.sampleSecond 10, "b"⟩ relabelled)).run deliveredPod =
        (.ok w, s') ∧ row ∈ s'.db.rows ∧
      row.id = .text relabelled.id ∧ row.updated = .integer w.updated.micros ∧
      w.updated.micros = max (Instant.sampleSecond 10).micros w.created.micros ∧
      (Query.pending.selects row = true ↔
        ∀ t ∈ relabelled.sentAt, t.micros < w.updated.micros)) ∧
    ∃ o s' row,
      (Session.call (Session.upsert ⟨.sampleSecond 10, "b"⟩ relabelled)).run deliveredPod =
        (.ok o, s') ∧ row ∈ s'.db.rows ∧
      row.id = .text o.record.id ∧ Query.pending.selects row = true := by
  have hfresh : deliveredPod.IsFresh "b" := by decide +kernel
  have hstored : ∃ old ∈ deliveredPod.db.rows, old.id = .text relabelled.id := by decide +kernel
  obtain ⟨old, hold, hid⟩ := hstored
  have hwrite := visited_deliveredPod.pending_after_write ⟨.sampleSecond 10, "b"⟩ relabelled
  exact ⟨visited_deliveredPod, hfresh, ⟨old, hold, hid⟩, hwrite.1 old hold hid, hwrite.2 hfresh⟩

/-- A pod is read after its delivery and changed at the same reading of the clock: its new label waits
for no delivery. -/
theorem relabelled_not_pending :
    deliveredPod.Visited ∧
    ((Session.call (Session.get? "a")).run deliveredPod).1 = .ok deliveredRecord ∧
    let changed := (Session.call (Session.update ⟨.sampleSecond 10, "b"⟩ relabelled)).run deliveredPod
    changed.1.map (·.id) = .ok "a" ∧
    changed.2.db.rows.map (fun row => (row.id, row.labels)) =
      [(.text "a", .text "\x7b\"app\":\"v2\"\x7d")] ∧
    ((Session.call (Session.findAll .pending)).run changed.2).1 = .ok [] :=
  ⟨visited_deliveredPod, by decide +kernel, by decide +kernel, by decide +kernel,
    by decide +kernel⟩

end Store

end ClusterOutbox
