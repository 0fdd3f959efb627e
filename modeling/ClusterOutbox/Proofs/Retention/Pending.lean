import ClusterOutbox.Proofs.Delivery.Latest

namespace ClusterOutbox

namespace World

variable {c : PusherConfig} {w : World} {es : Ledger}

theorem History.sentAt_mem (h : History c w es) :
    ∀ e ∈ es, ∀ s, e.sentAt = some s → ∃ t ∈ w.readings, t.storeTime = s := by
  refine h.ledger_induction
    (P := fun readings _ es => ∀ e ∈ es, ∀ s, e.sentAt = some s → ∃ t ∈ readings, t.storeTime = s)
    ?_ ?_ ?_ ?_ ?_
  · simp
  · intro readings log es m r ih e he s hs
    rcases Ledger.mem_upsert.mp he with ⟨hold, _⟩ | ⟨x, _, _, rfl⟩ | ⟨_, rfl⟩
    · obtain ⟨t, ht, hts⟩ := ih e hold s hs
      exact ⟨t, List.mem_cons_of_mem _ ht, hts⟩
    · simp [Entry.overwrite] at hs
    · simp [Entry.ofRecord] at hs
  · intro readings log es now limit ih e he s hs
    obtain ⟨t, ht, hts⟩ := ih e (Ledger.mem_reclaim.mp he).1 s hs
    exact ⟨t, List.mem_cons_of_mem _ ht, hts⟩
  · intro readings log es t ih e he s hs
    obtain ⟨t', ht, hts⟩ := ih e he s hs
    exact ⟨t', List.mem_cons_of_mem _ ht, hts⟩
  · intro readings log es ids t ht ih e he s hs
    obtain ⟨x, hx, ⟨_, rfl⟩ | ⟨_, rfl⟩⟩ := Ledger.mem_confirm.mp he
    · exact ⟨t, ht, Option.some.inj hs⟩
    · exact ih e hx s hs

/-- A pending entry is reclaimable where its delivery lies before its last change, and that before
the limit. -/
theorem isReclaimable_pending {e : Entry} (h : e.isPending = true) (limit : Int) :
    e.isReclaimable limit = true ↔
      ∃ s, e.sentAt = some s ∧ s.micros < e.updated.micros ∧ e.updated.micros < limit := by
  have hle := e.created_le_updated
  cases hsent : e.sentAt with
  | none => simp [Entry.isReclaimable, hsent]
  | some s =>
    have hlt : s.micros < e.updated.micros := by simpa [Entry.isPending, hsent] using h
    simp only [Entry.isReclaimable, hsent, Bool.and_eq_true, decide_eq_true_eq,
      Option.some.injEq, exists_eq_left']
    omega

/-- A pass succeeds, and deletes a pending row exactly where a delivery as of an earlier reading of
the clock has been confirmed over the last observation, which is further back than the retention. -/
theorem pass_deletes_pending_iff (hw : Reachable c w) (now : Instant) (retention : Duration) :
    (∃ n, ((Keeper.pass now retention).run w.store).1 = .ok n) ∧
      ∀ row ∈ w.store.db.rows, Query.pending.selects row = true →
        (row ∉ (w.next c (.pass now retention)).store.db.rows ↔
          ∃ t ∈ w.readings, ∃ r m a, row.record? = .ok r ∧
            w.observed.latest? r.identity = some (m, a) ∧ r.Repeats a ∧
            r.updated.micros = max m.now.micros r.created.micros ∧
            row.sentAt = .integer t.micros ∧ t.micros < r.updated.micros ∧
            r.updated.micros < (now.back retention).micros) := by
  obtain ⟨es, h⟩ := hw.history
  have h' := h.next_pass now retention
  refine ⟨⟨_, by rw [Keeper.run_pass h.ready]⟩, ?_⟩
  rw [h.ready.rows, h'.ready.rows]
  intro row hrow hpending
  obtain ⟨e, he, rfl⟩ := List.mem_map.mp hrow
  rw [Entry.selects_pending_row] at hpending
  have hdeleted : e.row ∉ (es.reclaim (now.back retention).micros).map Entry.row ↔
      e.isReclaimable (now.back retention).micros = true := by
    have hsub : es.reclaim (now.back retention).micros ⊆ es := List.filter_subset_self es
    rw [Ledger.row_mem_iff h.ready.distinct hsub he, Ledger.mem_reclaim]
    simp [he]
  rw [hdeleted, isReclaimable_pending hpending]
  constructor
  · rintro ⟨s, hsent, hlt, hlimit⟩
    obtain ⟨t, ht, rfl⟩ := h.sentAt_mem e he s hsent
    obtain ⟨m, a, hlast, hholds⟩ := h.tells e he
    refine ⟨t, ht, e.record, m, a, e.record?_row, hlast, hholds.content, ?_, ?_, ?_, ?_⟩
    · rw [Entry.micros_updated_record, Entry.micros_created_record, hholds.micros_updated]
    · exact Entry.sentAt_row.mpr ⟨t.storeTime, hsent, rfl⟩
    · simpa using hlt
    · simpa using hlimit
  · rintro ⟨t, _, r, m, a, hr, _, _, _, hsent, hlt, hlimit⟩
    rw [e.record?_row, Except.ok.injEq] at hr
    obtain rfl := hr
    obtain ⟨s, hs, hmicros⟩ := Entry.sentAt_row.mp hsent
    rw [Entry.micros_updated_record] at hlt hlimit
    exact ⟨s, hs, hmicros ▸ hlt, hlimit⟩

/-- The pod is confirmed after it has been observed anew, and no later flush delivers it. -/
def outage : World :=
  start.run sampleConfig (sampleEvents 0 1 2 ++ [.act (sampleOutside 1)])

theorem pass_deletes_pending_iff_outage :
    (∃ n, ((Keeper.pass (.sampleSecond 90000) Keeper.standardRetention).run outage.store).1 = .ok n) ∧
      ∀ row ∈ outage.store.db.rows, Query.pending.selects row = true →
        (row ∉ (outage.next sampleConfig
            (.pass (.sampleSecond 90000) Keeper.standardRetention)).store.db.rows ↔
          ∃ t ∈ outage.readings, ∃ r m a, row.record? = .ok r ∧
            outage.observed.latest? r.identity = some (m, a) ∧ r.Repeats a ∧
            r.updated.micros = max m.now.micros r.created.micros ∧
            row.sentAt = .integer t.micros ∧ t.micros < r.updated.micros ∧
            r.updated.micros <
              ((Instant.sampleSecond 90000).back Keeper.standardRetention).micros) :=
  have hw : Reachable sampleConfig outage := .run .start (by decide +kernel)
  pass_deletes_pending_iff hw (.sampleSecond 90000) Keeper.standardRetention

/-- The clock never steps back, one row is pending, and the pass deletes it. -/
theorem outage_loses_observation :
    Reachable sampleConfig outage ∧
      outage.readings = [.sampleSecond 2, .sampleSecond 1, .sampleSecond 0] ∧
      outage.store.db.rows.map Query.pending.selects = [true] ∧
      (outage.next sampleConfig
        (.pass (.sampleSecond 90000) Keeper.standardRetention)).store.db.rows = [] :=
  ⟨.run .start (by decide +kernel), by decide +kernel, by decide +kernel, by decide +kernel⟩

end World

end ClusterOutbox
