import ClusterOutbox.Proofs.Delivery.Effect
import ClusterOutbox.Proofs.Store.Soundness

namespace ClusterOutbox

namespace Ledger

variable {es : Ledger}

theorem table_confirm (es : Ledger) (ids : List String) (t : Instant) :
    (es.table []).confirm ids t.micros = (es.confirm ids t.storeTime).table [] := by
  have hrow (e : Entry) : (es.table []).confirmRow ids t.micros e.row =
      (if e.id ∈ ids then e.confirm t.storeTime else e).row := by
    have hid : e.row.id ∈ ids.map Cell.text ↔ e.id ∈ ids := by simp [Entry.row]
    have hkept : (es.table []).skips [.update, .sentAt] e.row = false := rfl
    unfold Table.confirmRow
    by_cases h : e.id ∈ ids
    · rw [if_pos ⟨hid.mpr h, hkept⟩, if_pos h]
      rfl
    · rw [if_neg fun h' => h (hid.mp h'.1), if_neg h]
  have hrows : (es.map Entry.row).map ((es.table []).confirmRow ids t.micros) =
      (es.confirm ids t.storeTime).map Entry.row := by
    rw [confirm, List.map_map, List.map_map]
    exact List.map_congr_left fun e _ => hrow e
  exact congrArg (fun rows => (⟨rows, []⟩ : Table)) hrows

/-- What is confirmed is pending again where it was changed after the time of the confirmation. -/
theorem filter_isPending_confirm (hd : es.Distinct) (t : StoreTime) :
    (es.confirm ((es.filter Entry.isPending).map Entry.id) t).filter Entry.isPending =
      ((es.filter Entry.isPending).filter fun e => t.micros < e.updated.micros).map
        (Entry.confirm t) := by
  have hconfirm : es.confirm ((es.filter Entry.isPending).map Entry.id) t =
      es.map fun e => if e.isPending then e.confirm t else e := by
    refine List.map_congr_left ?_
    intro e he
    have hid : e.id ∈ (es.filter Entry.isPending).map Entry.id ↔ e.isPending = true := by
      constructor
      · intro h
        obtain ⟨x, hx, hxid⟩ := List.mem_map.mp h
        obtain ⟨hx, hpending⟩ := List.mem_filter.mp hx
        rwa [← eq_of_id_eq hd hx he hxid]
      · exact fun h => List.mem_map_of_mem (List.mem_filter.mpr ⟨he, h⟩)
    simp only [hid]
  have hpending (e : Entry) : (if e.isPending then e.confirm t else e).isPending =
      (decide (t.micros < e.updated.micros) && e.isPending) := by
    cases h : e.isPending <;> simp [h, Entry.isPending_confirm]
  rw [hconfirm, List.filter_map, List.filter_filter]
  simp only [Function.comp_def, hpending]
  refine List.map_congr_left ?_
  intro e he
  have hboth := (List.mem_filter.mp he).2
  rw [Bool.and_eq_true] at hboth
  rw [if_pos hboth.2]

end Ledger

namespace Flush

variable {c : PusherConfig} {s : Surroundings} {store : Store} {es : Ledger}

theorem pending_of_table (hopen : store.isOpen = true) (ht : store.db.table = some (es.table [])) :
    Pending store ((es.filter Entry.isPending).map Entry.record) := by
  refine ⟨hopen, es.table [], ht, ?_⟩
  have hrows : (es.table []).rows.filter Query.pending.selects =
      (es.filter Entry.isPending).map Entry.row := Session.filter_rows Entry.selects_pending_row es
  rw [hrows, Session.mapM_record?]

/-- Without guards every delivery is confirmed. -/
theorem not_unmarkable (ht : store.db.table = some (es.table [])) (hw : store.db.readOnly = false)
    (ids : List String) : ¬ store.db.Unmarkable ids := by
  rintro ⟨-, hreadOnly | ⟨t, ht', r, -, -, g, hguard, -⟩⟩
  · simp [hw] at hreadOnly
  · obtain rfl := Option.some.inj (ht.symm.trans ht')
    simp [Ledger.table, Table.guard?] at hguard

/-- What a flush that succeeds leaves: the entries it has selected are confirmed as of its start. -/
theorem alone_ok {t : Trace} {report : Report} (hs : store.Ready es)
    (hfirst : alone c s store = (some (.ok report), t)) :
    t.store.isOpen = true ∧ t.store.db.table =
      some ((es.confirm ((es.filter Entry.isPending).map Entry.id) s.now.storeTime).table []) := by
  have hpending := pending_of_table hs.isOpen hs.table
  have hids : ((es.filter Entry.isPending).map Entry.record).map (·.id) =
      (es.filter Entry.isPending).map Entry.id := by simp [Entry.record]
  by_cases hnil : (es.filter Entry.isPending).map Entry.record = []
  · obtain ⟨t', hrun, -, hopen, hdb⟩ := alone_idle (c := c) (s := s) (hnil ▸ hpending)
    obtain ⟨-, rfl⟩ := Prod.mk.inj (hfirst.symm.trans hrun)
    refine ⟨hopen.trans hs.isOpen, ?_⟩
    rw [hdb, hs.table, ← hids, hnil]
    simp [Ledger.confirm]
  · by_cases hkey : s.key = ""
    · obtain ⟨t', hrun, -⟩ := alone_keyless (c := c) hpending hnil hkey
      simp [hrun] at hfirst
    · rcases alone_sends (c := c) hpending hnil hkey hs.lawful with ⟨hoverflow, -⟩ |
        ⟨result, t', hrun, hopen, hcourse⟩
      · simp [hfirst] at hoverflow
      obtain ⟨hresult, rfl⟩ := Prod.mk.inj (hfirst.symm.trans hrun)
      rcases hcourse with ⟨-, -, hconfirms⟩ | ⟨-, -, -, -, -, e, rfl, -⟩
      · refine ⟨hopen.trans hs.isOpen, ?_⟩
        have hmarkable := not_unmarkable hs.table hs.writable
        rcases hconfirms with ⟨-, htable, hdb⟩ | ⟨hmark, -⟩ | ⟨hmark, -⟩
        · obtain rfl := Option.some.inj (hs.table.symm.trans htable)
          rw [hdb, hids, Ledger.table_confirm]
        · exact absurd hmark (hmarkable _)
        · exact absurd hmark (hmarkable _)
      · simp at hresult

/-- A flush that finds nothing to send. -/
def Idle (c : PusherConfig) (s : Surroundings) (store : Store) : Prop :=
  ∃ t, alone c s store = (some (.ok ⟨0, 0, 0, 0⟩), t) ∧ t.posts = [] ∧ t.store.db = store.db

theorem idle_iff {records : List Record} (h : Pending store records)
    (hstore : ∀ table ∈ store.db.table, table.Lawful) : Idle c s store ↔ records = [] := by
  constructor
  · rintro ⟨t, hrun, -⟩
    by_contra hne
    by_cases hkey : s.key = ""
    · obtain ⟨t', hrun', -⟩ := alone_keyless (c := c) h hne hkey
      simp [hrun'] at hrun
    · rcases alone_sends (c := c) h hne hkey hstore with ⟨hoverflow, -⟩ |
        ⟨result, t', hrun', -, hcourse⟩
      · simp [hrun] at hoverflow
      rw [hrun', Prod.mk.injEq, Option.some.injEq] at hrun
      rcases hcourse with ⟨hresult, -⟩ | ⟨-, -, -, -, -, e, hresult, -⟩
      · rw [hresult, Except.ok.injEq, Report.mk.injEq] at hrun
        exact hne (List.length_eq_zero_iff.mp hrun.1.1)
      · simp [hresult] at hrun
  · rintro rfl
    obtain ⟨t, hrun, hposts, -, hdb⟩ := alone_idle (c := c) (s := s) h
    exact ⟨t, hrun, hposts, hdb⟩

/-- The records of a delivery that are pending after it: those that were changed after its time. -/
def leftover (at_ : Instant) (records : List Record) : List Record :=
  (records.filter fun r => at_.micros < r.updated.micros).map fun r =>
    { r with sentAt := some at_.floorMicros.stamp }

theorem leftover_eq_nil_iff {at_ : Instant} {records : List Record} :
    leftover at_ records = [] ↔ ∀ r ∈ records, r.updated.micros ≤ at_.micros := by
  simp [leftover]

/-- After a flush that succeeds the next one selects the records that were changed after the first
has started, so it is idle exactly where there are none. -/
theorem idle_after_flush_iff {records : List Record} {report : Report} {t : Trace}
    (hs : store.Reached) (hselected : Pending store records)
    (hfirst : alone c s store = (some (.ok report), t)) :
    Pending t.store (leftover s.now records) ∧
      ∀ s', Idle c s' t.store ↔ ∀ r ∈ records, r.updated.micros ≤ s.now.micros := by
  obtain ⟨es, hes⟩ := hs.ready
  obtain rfl := hselected.eq (pending_of_table hes.isOpen hes.table)
  obtain ⟨hopen, htable⟩ := alone_ok hes hfirst
  have hleft : leftover s.now ((es.filter Entry.isPending).map Entry.record) =
      ((es.confirm ((es.filter Entry.isPending).map Entry.id) s.now.storeTime).filter
        Entry.isPending).map Entry.record := by
    rw [Ledger.filter_isPending_confirm hes.distinct, leftover, List.filter_map, List.map_map,
      List.map_map]
    simp only [Function.comp_def, Entry.micros_updated_record, Instant.micros_storeTime,
      Session.stamp_floorMicros]
    rfl
  have hpending : Pending t.store (leftover s.now ((es.filter Entry.isPending).map Entry.record)) :=
    hleft ▸ pending_of_table hopen htable
  refine ⟨hpending, ?_⟩
  intro s'
  have hlawful : ∀ table ∈ t.store.db.table, table.Lawful := by
    intro table htable'
    obtain rfl := Option.some.inj (htable.symm.trans htable')
    exact (Ledger.distinct_confirm hes.distinct _ _).lawful []
  rw [idle_iff hpending hlawful, leftover_eq_nil_iff]

/-- A second of the clock, where every request is accepted. -/
def acceptedAt (second : UInt8) : Surroundings where
  now := ⟨second.toNat * 1000000000, by omega, by have := second.toNat_lt; omega⟩
  key := "key"
  reply _ := (.status 200, .zero)
  drawn _ := 0
  signal := .never

/-- The pod of ten seconds, sent and confirmed at five seconds. -/
def sentEarly : Option (Except PushError Report) × Trace :=
  alone narrow (acceptedAt 5) Store.onePod

theorem idle_after_flush_iff_sentEarly :
    Store.onePod.Reached ∧ sentEarly.1 = some (.ok ⟨1, 1, 1, 1⟩) ∧
      ∃ records, Pending Store.onePod records ∧
        Pending sentEarly.2.store (leftover (acceptedAt 5).now records) ∧
        ∀ s', Idle narrow s' sentEarly.2.store ↔
          ∀ r ∈ records, r.updated.micros ≤ (acceptedAt 5).now.micros := by
  have hs : Store.onePod.Reached := .call _ .fresh (by decide)
  have hok : sentEarly.1 = some (.ok ⟨1, 1, 1, 1⟩) := by decide +kernel
  obtain ⟨es, hes⟩ := hs.ready
  have hselected := pending_of_table hes.isOpen hes.table
  have hfirst : sentEarly = (some (.ok ⟨1, 1, 1, 1⟩), sentEarly.2) := by
    generalize sentEarly = first at hok ⊢
    rw [← hok]
  exact ⟨hs, hok, _, hselected, idle_after_flush_iff hs hselected hfirst⟩

/-- A pod confirmed at an earlier second than that of its observation is sent again. -/
theorem sentEarly_sends_again :
    Store.onePod.Reached ∧ sentEarly.1 = some (.ok ⟨1, 1, 1, 1⟩) ∧
      sentEarly.2.store.db.rows.map Row.sentAt = [.integer 5000000] ∧
      (alone narrow (acceptedAt 6) sentEarly.2.store).1 = some (.ok ⟨1, 1, 1, 1⟩) ∧
      (alone narrow (acceptedAt 6) sentEarly.2.store).2.posts.length = 1 :=
  ⟨.call _ .fresh (by decide), by decide +kernel, by decide +kernel, by decide +kernel,
    by decide +kernel⟩

end Flush

end ClusterOutbox
