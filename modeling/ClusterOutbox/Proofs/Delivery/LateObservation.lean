import ClusterOutbox.Proofs.Delivery.Latest

namespace ClusterOutbox

namespace World

variable {c : PusherConfig} {w : World} {es : Ledger} {f : Flight} {ids : List String}
  {t : Instant} {next : Except StoreError Nat → Procedure (Except PushError Report)}

theorem History.awaiting (h : History c w es) (hf : w.flight = some f) {i : Identity} {m : Moment}
    {a : Record} (hlate : f.since.latest? i = some (m, a)) :
    ∃ e ∈ es, e.sentAt = none ∧ e.Holds m a := by
  obtain ⟨hlog, e, he, rfl, hsent⟩ := h.awaits hf i (m, a) hlate
  obtain ⟨m', a', hlog', hholds⟩ := h.tells e he
  rw [hlog, Option.some.injEq, Prod.mk.injEq] at hlog'
  obtain ⟨rfl, rfl⟩ := hlog'
  exact ⟨e, he, hsent, hholds⟩

theorem History.act_mark (h : History c w es) (hf : w.flight = some f)
    (hrest : f.rest = .mark ids t next) {o : Outside} (ho : o.trouble = none) :
    History c (w.next c (.act o)) (es.confirm ids t.storeTime) := by
  have hmark := h.mark (ids.filter fun id => (es.byId? id).isSome).length hf hrest
  simpa only [World.next, hf, World.act, hrest, Outside.perform, ho,
    Session.run_call h.ready.isOpen, Session.run_markSent h.ready.toShows] using hmark

theorem History.act_mark_failed (h : History c w es) (hf : w.flight = some f)
    (hrest : f.rest = .mark ids t next) {o : Outside} {e : StoreError} (ho : o.trouble = some e) :
    History c (w.next c (.act o)) es := by
  have hmark := h.markFailed e hf hrest
  simpa only [World.next, hf, World.act, hrest, Outside.perform, ho] using hmark

/-- An observation made between the selection and the confirmation of a flush stays pending, except
where the confirmation names the record and the time of its change, which is not before its creation,
is no later than the clock of the flush. -/
theorem late_observation_lost_iff (hw : Reachable c w) (hmark : w.confirming? = some (ids, t))
    {i : Identity} {m : Moment} {a : Record} (hlate : w.late? i = some (m, a)) (o : Outside) :
    w.startedAt? = some t ∧
      ∃ row ∈ (w.next c (.act o)).store.db.rows, ∃ r, row.record? = .ok r ∧ r.Repeats a ∧
        r.updated.micros = max m.now.micros r.created.micros ∧
        (r.isPending = false ↔ o.trouble = none ∧ r.id ∈ ids ∧ r.updated.micros ≤ t.micros) := by
  obtain ⟨es, h⟩ := hw.history
  obtain ⟨f, next, hf, hrest⟩ := exists_mark_of_confirming? hmark
  have hjustified := (h.flight_sound hf).ensures
  rw [hrest] at hjustified
  rw [startedAt?, hf, Option.bind_some]
  refine ⟨hjustified.1.1, ?_⟩
  rw [late?, hf, Option.bind_some] at hlate
  obtain ⟨e, he, hsent, hholds⟩ := h.awaiting hf hlate
  have hupdated := hholds.micros_updated
  cases ho : o.trouble with
  | some failure =>
    have h' := h.act_mark_failed hf hrest ho
    rw [h'.ready.rows]
    refine ⟨e.row, List.mem_map_of_mem he, e.record, e.record?_row, hholds.content, ?_, ?_⟩
    · rw [Entry.micros_updated_record, Entry.micros_created_record, hupdated]
    · simp [Entry.isPending_record, Entry.isPending, hsent]
  | none =>
    have h' := h.act_mark hf hrest ho
    rw [h'.ready.rows]
    by_cases hid : e.id ∈ ids
    · -- The clock of the flush becomes the delivery, whatever came since.
      refine ⟨(e.confirm t.storeTime).row,
        List.mem_map_of_mem (Ledger.mem_confirm.mpr ⟨e, he, .inl ⟨hid, rfl⟩⟩),
        (e.confirm t.storeTime).record, Entry.record?_row _, (hholds.confirm _).content, ?_, ?_⟩
      · rw [Entry.micros_updated_record, Entry.micros_created_record]
        exact hupdated
      · rw [Entry.isPending_record, Entry.isPending_confirm, Entry.micros_updated_record,
          Instant.micros_storeTime, decide_eq_false_iff_not, Int.not_lt]
        exact ⟨fun hle => ⟨rfl, hid, hle⟩, fun hlost => hlost.2.2⟩
    · refine ⟨e.row, List.mem_map_of_mem (Ledger.mem_confirm.mpr ⟨e, he, .inr ⟨hid, rfl⟩⟩),
        e.record, e.record?_row, hholds.content, ?_, ?_⟩
      · rw [Entry.micros_updated_record, Entry.micros_created_record, hupdated]
      · rw [Entry.isPending_record]
        simp [Entry.isPending, Entry.record, hsent, hid]

def sameReading : World := start.run sampleConfig (sampleEvents 0 0 0)

theorem late_observation_lost_iff_sameReading :
    sameReading.startedAt? = some (.sampleSecond 0) ∧
      ∃ row ∈ (sameReading.next sampleConfig (.act (sampleOutside 0))).store.db.rows, ∃ r,
        row.record? = .ok r ∧ r.Repeats (samplePod "2") ∧
        r.updated.micros = max (Instant.sampleSecond 0).micros r.created.micros ∧
        (r.isPending = false ↔ (sampleOutside 0).trouble = none ∧ r.id ∈ ["a"] ∧
          r.updated.micros ≤ (Instant.sampleSecond 0).micros) :=
  have hw : Reachable sampleConfig sameReading := .run .start (by decide +kernel)
  have hmark : sameReading.confirming? = some (["a"], .sampleSecond 0) := by decide +kernel
  have hlate : sameReading.late? (samplePod "2").identity =
      some (⟨.sampleSecond 0, "b"⟩, samplePod "2") := by decide +kernel
  late_observation_lost_iff hw hmark hlate (sampleOutside 0)

/-- Once the flush has confirmed the pod, what was observed last is not pending. -/
theorem sameReading_loses_observation :
    Reachable sampleConfig sameReading ∧
      sameReading.late? (samplePod "2").identity = some (⟨.sampleSecond 0, "b"⟩, samplePod "2") ∧
      sameReading.confirming? = some (["a"], .sampleSecond 0) ∧
      (sameReading.next sampleConfig (.act (sampleOutside 0))).store.db.rows.map
        (fun row => (row.id, Query.pending.selects row)) = [(.text "a", false)] :=
  ⟨.run .start (by decide +kernel), by decide +kernel, by decide +kernel, by decide +kernel⟩

end World

end ClusterOutbox
