import ClusterOutbox.Proofs.Delivery.SecondFlush

namespace ClusterOutbox

theorem exists_of_bind_ok {ε α β : Type} {x : Except ε α} {f : α → Except ε β} {b : β}
    (h : x >>= f = .ok b) : ∃ a, x = .ok a ∧ f a = .ok b := by
  cases x with
  | error e => cases h
  | ok a => exact ⟨a, rfl, h⟩

namespace Row

theorem micros_of_stamp? {column : Nat} {m : Int} {t : Stamp} (h : stamp? column m = .ok t) :
    t.micros = m := by
  unfold stamp? at h
  cases ht : Stamp.ofMicros? m with
  | none => simp [ht] at h
  | some t' =>
    simp only [ht, Except.ok.injEq] at h
    exact h ▸ Stamp.micros_ofMicros? ht

/-- A row that reads has an id, and the time of its last change. -/
theorem of_record?_ok {row : Row} {r : Record} (h : row.record? = .ok r) :
    row.id = .text r.id ∧ row.updated = .integer r.updated.micros := by
  unfold record? at h
  obtain ⟨sent, -, h⟩ := exists_of_bind_ok h
  obtain ⟨id, hid, h⟩ := exists_of_bind_ok h
  obtain ⟨kind, -, h⟩ := exists_of_bind_ok h
  obtain ⟨name, -, h⟩ := exists_of_bind_ok h
  obtain ⟨ns, -, h⟩ := exists_of_bind_ok h
  obtain ⟨metricLabels, -, h⟩ := exists_of_bind_ok h
  obtain ⟨labels, -, h⟩ := exists_of_bind_ok h
  obtain ⟨annotations, -, h⟩ := exists_of_bind_ok h
  obtain ⟨createdMicros, -, h⟩ := exists_of_bind_ok h
  obtain ⟨created, -, h⟩ := exists_of_bind_ok h
  obtain ⟨updatedMicros, hmicros, h⟩ := exists_of_bind_ok h
  obtain ⟨updated, hupdated, h⟩ := exists_of_bind_ok h
  have hread : r.id = id ∧ r.updated = updated := by
    cases sent with
    | none =>
      obtain rfl := Except.ok.inj h
      exact ⟨rfl, rfl⟩
    | some micros =>
      obtain ⟨sentAt, -, h⟩ := exists_of_bind_ok h
      obtain rfl := Except.ok.inj h
      exact ⟨rfl, rfl⟩
  rw [hread.1, hread.2, micros_of_stamp? hupdated]
  exact ⟨Cell.text?_eq_ok hid, Cell.integer?_eq_ok hmicros⟩

end Row

namespace Flush

variable {store store' : Store} {records : List Record}

theorem map_eq_of_mapM_ok {β : Type} {rows : List Row} (h : rows.mapM Row.record? = .ok records)
    {f : Row → β} {g : Record → β} (hfg : ∀ row r, row.record? = .ok r → f row = g r) :
    rows.map f = records.map g := by
  induction rows generalizing records with
  | nil =>
    obtain rfl := Except.ok.inj h
    rfl
  | cons row rows ih =>
    rw [List.mapM_cons] at h
    obtain ⟨r, hr, h⟩ := exists_of_bind_ok h
    obtain ⟨rest, hrest, h⟩ := exists_of_bind_ok h
    obtain rfl := Except.ok.inj h
    rw [List.map_cons, List.map_cons, hfg row r hr, ih hrest]

theorem mapM_filter_ok {rows : List Row} (h : rows.mapM Row.record? = .ok records) {p : Row → Bool}
    {q : Record → Bool} (hpq : ∀ row r, row.record? = .ok r → p row = q r) :
    (rows.filter p).mapM Row.record? = .ok (records.filter q) := by
  induction rows generalizing records with
  | nil =>
    obtain rfl := Except.ok.inj h
    rfl
  | cons row rows ih =>
    rw [List.mapM_cons] at h
    obtain ⟨r, hr, h⟩ := exists_of_bind_ok h
    obtain ⟨rest, hrest, h⟩ := exists_of_bind_ok h
    obtain rfl := Except.ok.inj h
    rw [List.filter_cons, List.filter_cons, hpq row r hr]
    split
    · rw [List.mapM_cons, hr, ih hrest]
      rfl
    · exact ih hrest

/-- A store that tells its pending records, and where each of their deliveries can be confirmed. -/
structure Deliverable (store : Store) (records : List Record) : Prop where
  pending : Pending store records
  lawful : ∀ t ∈ store.db.table, t.Lawful
  markable : ¬ store.db.Unmarkable (records.map (·.id))
  unskipped : ∀ t ∈ store.db.table, ∀ row ∈ t.rows, Query.pending.selects row = true →
    t.skips [.update, .sentAt] row = false

/-- Without guards all that is pending can be delivered. -/
theorem deliverable_of_ready {es : Ledger} (hs : store.Ready es) :
    Deliverable store ((es.filter Entry.isPending).map Entry.record) where
  pending := pending_of_table hs.isOpen hs.table
  lawful := hs.lawful
  markable := not_unmarkable hs.table hs.writable _
  unskipped := by
    intro t ht row _ _
    obtain rfl := Option.some.inj (hs.table.symm.trans ht)
    rfl

theorem Deliverable.of_db (h : Deliverable store records) (hopen : store'.isOpen = store.isOpen)
    (hdb : store'.db = store.db) : Deliverable store' records where
  pending := ⟨hopen.trans h.pending.1, hdb ▸ h.pending.2⟩
  lawful := hdb ▸ h.lawful
  markable := hdb ▸ h.markable
  unskipped := hdb ▸ h.unskipped

theorem Deliverable.ids (h : Deliverable store records) {t : Table} (ht : t ∈ store.db.table) :
    (t.rows.filter Query.pending.selects).map Row.id = (records.map (·.id)).map Cell.text := by
  obtain ⟨-, t', ht', hread⟩ := h.pending
  obtain rfl := Option.some.inj (ht'.symm.trans ht)
  rw [List.map_map]
  exact map_eq_of_mapM_ok hread fun row r hr => (Row.of_record?_ok hr).1

/-- Ids tell the records that are pending apart. -/
theorem Deliverable.nodup (h : Deliverable store records) : (records.map (·.id)).Nodup := by
  obtain ⟨-, t, ht, -⟩ := h.pending
  have hsub : (t.rows.filter Query.pending.selects).Sublist t.rows := List.filter_sublist
  have hnodup := (h.lawful t ht).ids.sublist (hsub.map Row.id)
  rw [h.ids ht] at hnodup
  exact hnodup.of_map Cell.text

theorem selects_deliver {row : Row} {n m : Int} (hupdated : row.updated = .integer m) (h : m ≤ n) :
    Query.pending.selects (Table.deliver n row) = false := by
  simp [Query.selects, Table.deliver, hupdated, Cell.lt, h]

theorem Deliverable.row_of_mem (h : Deliverable store records) {t : Table} (ht : t ∈ store.db.table)
    {r : Record} (hr : r ∈ records) : ∃ row ∈ t.rows, Query.pending.selects row = true ∧
      row.id = .text r.id ∧ row.updated = .integer r.updated.micros := by
  obtain ⟨-, t', ht', hread⟩ := h.pending
  obtain rfl := Option.some.inj (ht'.symm.trans ht)
  have hpairs := map_eq_of_mapM_ok (f := fun row => (row.id, row.updated))
    (g := fun r => (Cell.text r.id, Cell.integer r.updated.micros)) hread
    fun row r hr => Prod.ext (Row.of_record?_ok hr).1 (Row.of_record?_ok hr).2
  obtain ⟨row, hrow, hpair⟩ := List.mem_map.mp (hpairs ▸ List.mem_map_of_mem hr)
  obtain ⟨hmem, hselects⟩ := List.mem_filter.mp hrow
  exact ⟨row, hmem, hselects, congrArg Prod.fst hpair, congrArg Prod.snd hpair⟩

section

variable {sent left : List Record} {start : Instant}

/-- Rows confirmed not before their last change are pending no more, and no others change. -/
theorem Deliverable.pending_confirm (h : Deliverable store (sent ++ left))
    (hclock : ∀ r ∈ sent, r.updated.micros ≤ start.micros) {t : Table} (ht : t ∈ store.db.table) :
    (t.confirm (sent.map (·.id)) start.micros).rows.filter Query.pending.selects =
      (t.rows.filter Query.pending.selects).filter
        fun row => row.id ∉ (sent.map (·.id)).map Cell.text := by
  have hrow : ∀ row ∈ t.rows,
      Query.pending.selects (t.confirmRow (sent.map (·.id)) start.micros row) =
        (decide (row.id ∉ (sent.map (·.id)).map Cell.text) && Query.pending.selects row) := by
    intro row hmem
    by_cases hid : row.id ∈ (sent.map (·.id)).map Cell.text
    · rw [List.map_map] at hid
      obtain ⟨r, hr, hsame⟩ := List.mem_map.mp hid
      obtain ⟨other, hother, hselects, hotherId, hupdated⟩ :=
        h.row_of_mem ht (List.mem_append_left left hr)
      obtain rfl := (h.lawful t ht).eq_of_id_eq hother hmem (hotherId.trans hsame)
      rw [Table.confirmRow, if_pos ⟨by rwa [List.map_map], h.unskipped t ht other hmem hselects⟩,
        selects_deliver hupdated (hclock r hr)]
      simpa using fun hnone => absurd hotherId.symm (hnone r hr)
    · rw [Table.confirmRow_absent hid, decide_eq_true hid, Bool.true_and]
  rw [Table.confirm, List.filter_map, List.filter_filter]
  have hfilter := List.filter_congr hrow
  simp only [Function.comp_def]
  rw [hfilter]
  refine (List.map_congr_left ?_).trans (List.map_id _)
  intro row hmem
  have hkept := (Bool.and_eq_true_iff.mp (List.mem_filter.mp hmem).2).1
  exact Table.confirmRow_absent (of_decide_eq_true hkept)

/-- A confirmation that is not before the last change of any of its records leaves the others. -/
theorem Deliverable.mark (h : Deliverable store (sent ++ left))
    (hclock : ∀ r ∈ sent, r.updated.micros ≤ start.micros) :
    ∃ n store', (Session.call (Session.markSent (sent.map (·.id)) start)).run store =
      (.ok n, store') ∧ Deliverable store' left := by
  obtain ⟨hopen, t, ht, hread⟩ := h.pending
  have hsub : sent.map (·.id) ⊆ (sent ++ left).map (·.id) :=
    List.map_subset _ (List.subset_append_left sent left)
  obtain ⟨store', hrun, hopen', hdb⟩ := Session.run_markSent_ok ht (h.lawful t ht)
    (fun hunmarkable => h.markable (hunmarkable.mono hsub)) start
  have htable : store'.db.table = some (t.confirm (sent.map (·.id)) start.micros) :=
    congrArg Database.table hdb
  have hdistinct : ∀ r ∈ left, r.id ∉ sent.map (·.id) := by
    have hnodup := h.nodup
    rw [List.map_append] at hnodup
    intro r hr hid
    exact (List.nodup_append'.mp hnodup).2.2 hid (List.mem_map_of_mem hr)
  refine ⟨_, store', (Session.run_call hopen).trans hrun, ⟨?_, ?_, ?_, ?_⟩⟩
  · refine ⟨hopen'.trans hopen, _, htable, ?_⟩
    have hleft : (sent ++ left).filter (fun r => r.id ∉ sent.map (·.id)) = left := by
      rw [List.filter_append, List.filter_eq_nil_iff.mpr, List.nil_append, List.filter_eq_self.mpr]
      · exact fun r hr => decide_eq_true (hdistinct r hr)
      · exact fun r hr => by simpa using ⟨r, hr, rfl⟩
    rw [h.pending_confirm hclock ht, ← hleft]
    refine mapM_filter_ok hread fun row r hr => ?_
    rw [(Row.of_record?_ok hr).1]
    simp
  · intro t' ht'
    obtain rfl := Option.some.inj (htable.symm.trans ht')
    exact (h.lawful t ht).confirm _ _
  · rintro ⟨hne, hrefused⟩
    have hunmarkable : store.db.Unmarkable (left.map (·.id)) := by
      refine ⟨hne, ?_⟩
      rcases hrefused with hreadOnly | ⟨t', ht', hrefuses⟩
      · rw [hdb] at hreadOnly
        exact .inl hreadOnly
      · obtain rfl := Option.some.inj (htable.symm.trans ht')
        rw [Table.refuses_confirm] at hrefuses
        exact .inr ⟨t, ht, hrefuses⟩
    exact h.markable (hunmarkable.mono (List.map_subset _ (List.subset_append_right sent left)))
  · intro t' ht' row' hrow' hselects
    obtain rfl := Option.some.inj (htable.symm.trans ht')
    have hmem := List.mem_filter.mpr ⟨hrow', hselects⟩
    rw [h.pending_confirm hclock ht] at hmem
    obtain ⟨hpending, hkept⟩ := List.mem_filter.mp hmem
    obtain ⟨hrow, hselects⟩ := List.mem_filter.mp hpending
    have hskips := h.unskipped t ht row' hrow hselects
    have hconfirmed : (t.confirm (sent.map (·.id)) start.micros).skips [.update, .sentAt]
        (t.confirmRow (sent.map (·.id)) start.micros row') = false :=
      (Table.skips_confirmRow _ row').trans hskips
    rwa [Table.confirmRow_absent (of_decide_eq_true hkept)] at hconfirmed

end

end Flush

end ClusterOutbox
