import ClusterOutbox.Proofs.Store.Deletion
import ClusterOutbox.Proofs.Store.Soundness

namespace ClusterOutbox

/-- Whether a row is delivered and all of its times lie before a limit. -/
def Row.isDue (limit : Int) (row : Row) : Bool :=
  match row.sentAt, row.created, row.updated with
  | .integer sent, .integer created, .integer updated =>
    sent < limit && created < limit && updated < limit
  | _, _, _ => false

/-- An open store outside every transaction, whose table holds entries under guards. -/
structure Store.Watched (s : Store) (es : Ledger) (guards : List Guard) : Prop where
  isOpen : s.isOpen = true
  saved : s.db.saved = none
  writable : s.db.readOnly = false
  table : s.db.table = some (es.table guards)
  distinct : es.Distinct

theorem Entry.isDue_row (limit : Int) (e : Entry) : e.row.isDue limit = e.isReclaimable limit := by
  cases h : e.sentAt <;> simp [Row.isDue, Entry.isReclaimable, Entry.row, h, Cell.ofInteger?]

theorem Row.isDue_mono {low high : Int} (hle : low ≤ high) {row : Row}
    (h : row.isDue low = true) : row.isDue high = true := by
  unfold Row.isDue at h ⊢
  split at h
  · simp only [Bool.and_eq_true, decide_eq_true_eq] at h ⊢
    omega
  · exact absurd h Bool.false_ne_true

namespace Keeper

/-- The microsecond that lies a retention before a reading, on the calendar or not. -/
def deadline (now : Instant) (retention : Duration) : Int := (now.nanos - retention.nanos) / 1000

def due (now : Instant) (retention : Duration) : Row → Bool := Row.isDue (deadline now retention)

/-- No entry is old enough to tell a cutoff before the calendar from the first instant of it. -/
theorem isReclaimable_back (now : Instant) (retention : Duration) (e : Entry) :
    e.isReclaimable (now.back retention).micros = e.isReclaimable (deadline now retention) := by
  have hlast := now.le_last
  by_cases hcalendar : -8334601228800000000000 ≤ now.nanos - retention.nanos
  · have hback : now.back retention = ⟨now.nanos - retention.nanos, hcalendar, by omega⟩ := by
      rw [Instant.back_eq, Instant.ofNanos?, dif_pos ⟨hcalendar, by omega⟩]
      rfl
    rw [hback]
    rfl
  · have hback : now.back retention = .first := by
      rw [Instant.back_eq, Instant.ofNanos?, dif_neg (fun h => hcalendar h.1)]
      rfl
    have hfirst : Instant.first.micros = -8334601228800000000 := by decide
    have hdeadline : deadline now retention < -8334601228800000000 := by
      unfold deadline
      omega
    have hcreated := e.created.first_le
    rw [hback, hfirst]
    cases hsent : e.sentAt with
    | none => simp [Entry.isReclaimable, hsent]
    | some t =>
      have hbefore : ¬ e.created.micros < -8334601228800000000 := by omega
      have hbefore' : ¬ e.created.micros < deadline now retention := by omega
      simp [Entry.isReclaimable, hsent, hbefore, hbefore']

theorem deadline_le {now : Instant} {retention longer : Duration}
    (h : retention.nanos ≤ longer.nanos) : deadline now longer ≤ deadline now retention := by
  unfold deadline
  omega

/-- What a pass makes of a table that is the store's: all that is due goes, unless a guard passes over
it in silence, or nothing where a guard refuses a row that is due. -/
structure Exact (s : Store) (t : Table) (now : Instant) (retention : Duration) : Prop where
  unguarded : (∀ row ∈ t.rows, due now retention row = true →
      t.guard? [.delete] row = none) →
    (pass now retention).run (s.holding t) =
      (.ok (t.rows.filter (due now retention)).length,
        s.holding { t with rows := t.rows.filter fun row => !due now retention row })
  unrefused : ¬ t.Stuck (due now retention) →
    (pass now retention).run (s.holding t) =
      (.ok (t.rows.filter (t.drops (due now retention))).length,
        s.holding (t.without (due now retention)))
  refused : t.Stuck (due now retention) →
    ∃ e s', (pass now retention).run (s.holding t) = (.error e, s') ∧ s'.db = (s.holding t).db
  again : ∀ result s', (pass now retention).run (s.holding t) = (result, s') →
    ((pass now retention).run s').2.db = s'.db ∧
      ∀ n, result = .ok n → ((pass now retention).run s').1 = .ok 0
  longer : ∀ longer : Duration, retention.nanos ≤ longer.nanos →
    ∀ n s', (pass now retention).run (s.holding t) = (.ok n, s') →
      ∀ row ∈ s'.db.rows, row ∈ ((pass now longer).run (s.holding t)).2.db.rows

end Keeper

namespace Store

variable {s : Store} {es : Ledger} {guards : List Guard} {now : Instant} {retention : Duration}

theorem Watched.without (h : s.Watched es guards) (target : Row → Bool) :
    ∃ left : Ledger, left.table guards = (es.table guards).without target ∧
      (s.holding (left.table guards)).Watched left guards := by
  let left : Ledger := es.filter fun e => !(es.table guards).drops target e.row
  have hleft : left.table guards = (es.table guards).without target := by
    refine congrArg (fun rows => (⟨rows, guards⟩ : Table)) ?_
    exact (Session.filter_rows (p := fun e => !(es.table guards).drops target e.row)
      (fun _ => rfl) es).symm
  exact ⟨left, hleft, h.isOpen, h.saved, h.writable, rfl, h.distinct.sublist List.filter_sublist⟩

/-- The records that a pass finds are those of the rows that are due. -/
theorem Watched.run_findAll (h : s.Watched es guards) (now : Instant) (retention : Duration) :
    ∃ records, (Session.findAll (.reclaimable (now.back retention))).run s.begun =
        (.ok records, s.begun) ∧
      ∀ row ∈ (es.table guards).rows,
        Table.named (records.map (·.id)) row = Keeper.due now retention row := by
  let limit := (now.back retention).micros
  have hselects : ∀ e : Entry,
      (Query.reclaimable (now.back retention)).selects e.row = e.isReclaimable limit :=
    fun e => e.selects_reclaimable_row (now.back retention)
  have hread : ((es.table guards).rows.filter (Query.reclaimable (now.back retention)).selects).mapM
      Row.record? = .ok ((es.filter (Entry.isReclaimable limit)).map Entry.record) := by
    rw [Ledger.table, Session.filter_rows hselects, Session.mapM_record?]
  refine ⟨_, Session.run_findAll_ok h.table hread, ?_⟩
  intro row hrow
  obtain ⟨e, he, rfl⟩ := List.mem_map.mp hrow
  have hids : ((es.filter (Entry.isReclaimable limit)).map Entry.record).map (·.id) =
      (es.filter (Entry.isReclaimable limit)).map Entry.id := by
    rw [List.map_map]
    rfl
  have hmem : e.row.id ∈ ((es.filter (Entry.isReclaimable limit)).map Entry.id).map Cell.text ↔
      e.isReclaimable limit = true := by
    rw [← Ledger.mem_reclaimable_ids h.distinct he limit]
    exact List.mem_map_of_injective fun _ _ => Cell.text.inj
  rw [Keeper.due, Entry.isDue_row, ← Keeper.isReclaimable_back, Table.named, hids, Bool.eq_iff_iff,
    decide_eq_true_iff]
  exact hmem

theorem Watched.run_pass_done (h : s.Watched es guards)
    (hstuck : ¬ (es.table guards).Stuck (Keeper.due now retention)) :
    (Keeper.pass now retention).run s =
      (.ok ((es.table guards).rows.filter
          ((es.table guards).drops (Keeper.due now retention))).length,
        s.holding ((es.table guards).without (Keeper.due now retention))) := by
  obtain ⟨records, hfind, hnamed⟩ := h.run_findAll now retention
  have hrun := Keeper.run_deleteEach_done (s := s.begun) h.table h.writable records
    (mt (Table.stuck_congr hnamed).mp hstuck)
  rw [Table.drops_congr hnamed, Table.without_congr hnamed] at hrun
  rw [Keeper.pass, Session.run_call h.isOpen, Session.run_tx_ok h.saved
    ((Session.run_bind_ok hfind _).trans hrun) (by simp [Store.holding, Store.begun])]
  simp [Store.holding, Store.begun, h.saved]

theorem Watched.run_pass_stuck (h : s.Watched es guards)
    (hstuck : (es.table guards).Stuck (Keeper.due now retention)) :
    ∃ e s', (Keeper.pass now retention).run s = (.error e, s') ∧ s'.isOpen = true ∧
      s'.db = s.db := by
  obtain ⟨records, hfind, hnamed⟩ := h.run_findAll now retention
  obtain ⟨e, s', hrun, hopen, hrestored⟩ := Keeper.run_deleteEach_stopped (s := s.begun) h.table
    h.writable (by simp [Store.begun]) records ((Table.stuck_congr hnamed).mpr hstuck)
  have hbefore : s.begun.db.restored = s.db := by simp [Store.begun, Database.restored, ← h.saved]
  refine ⟨e, { s' with db := s'.db.restored }, ?_, hopen.trans h.isOpen, hrestored.trans hbefore⟩
  rw [Keeper.pass, Session.run_call h.isOpen,
    Session.run_tx_error h.saved ((Session.run_bind_ok hfind _).trans hrun)]

theorem Watched.run_pass_unguarded (h : s.Watched es guards)
    (hguards : ∀ row ∈ (es.table guards).rows, Keeper.due now retention row = true →
      (es.table guards).guard? [.delete] row = none) :
    (Keeper.pass now retention).run s =
      (.ok ((es.table guards).rows.filter (Keeper.due now retention)).length,
        s.holding { es.table guards with
          rows := (es.table guards).rows.filter fun row =>
            !Keeper.due now retention row }) := by
  have hdrops : ∀ row ∈ (es.table guards).rows,
      (es.table guards).drops (Keeper.due now retention) row =
        Keeper.due now retention row := by
    intro row hrow
    by_cases hdue : Keeper.due now retention row = true
    · simp [Table.drops, Table.skips, hguards row hrow hdue, hdue]
    · simp [Table.drops, hdue]
  have hstuck : ¬ (es.table guards).Stuck (Keeper.due now retention) := by
    rintro ⟨row, hrow, hdue, hforbids⟩
    simp [Table.forbids, hguards row hrow hdue] at hforbids
  have hleft : (es.table guards).without (Keeper.due now retention) =
      { es.table guards with
        rows := (es.table guards).rows.filter fun row =>
          !Keeper.due now retention row } := by
    refine congrArg (fun rows => (⟨rows, guards⟩ : Table)) (List.filter_congr ?_)
    intro row hrow
    rw [hdrops row hrow]
  rw [h.run_pass_done hstuck, hleft, List.filter_congr hdrops]

/-- What a pass has left, a second one at the same reading leaves. -/
theorem Watched.run_pass_again (h : s.Watched es guards)
    (hstuck : ¬ (es.table guards).Stuck (Keeper.due now retention)) :
    let left := s.holding ((es.table guards).without (Keeper.due now retention))
    (Keeper.pass now retention).run left = (.ok 0, left) := by
  intro left
  obtain ⟨es', hes', hleft⟩ := h.without (Keeper.due now retention)
  have hstuck' : ¬ (es'.table guards).Stuck (Keeper.due now retention) := by
    rw [hes', Table.stuck_without hstuck]
    exact hstuck
  have hrun := hleft.run_pass_done hstuck'
  rw [hes', Table.without_rows_drops, Table.without_without] at hrun
  exact hrun

theorem Watched.longer_keeps (h : s.Watched es guards) {longer : Duration}
    (hle : retention.nanos ≤ longer.nanos) {row : Row}
    (hrow : row ∈ ((es.table guards).without (Keeper.due now retention)).rows) :
    row ∈ ((Keeper.pass now longer).run s).2.db.rows := by
  obtain ⟨hmem, hkept⟩ := List.mem_filter.mp hrow
  by_cases hstuck : (es.table guards).Stuck (Keeper.due now longer)
  · obtain ⟨e, s', hrun, -, hdb⟩ := h.run_pass_stuck hstuck
    rw [hrun, hdb, Database.rows, h.table]
    exact hmem
  · rw [h.run_pass_done hstuck]
    refine List.mem_filter.mpr ⟨hmem, ?_⟩
    have hdrops : (es.table guards).drops (Keeper.due now longer) row = true →
        (es.table guards).drops (Keeper.due now retention) row = true := by
      simp only [Table.drops, Bool.and_eq_true]
      exact And.imp_left (Row.isDue_mono (Keeper.deadline_le hle))
    by_contra hgone
    simp [hdrops (by simpa using hgone)] at hkept

/-- A pass over rows that calls have written, under any guards. -/
theorem Reached.pass_exact (hs : s.Reached) (guards : List Guard) (now : Instant)
    (retention : Duration) : Keeper.Exact s ⟨s.db.rows, guards⟩ now retention := by
  obtain ⟨es, hes⟩ := hs.ready
  have h : (s.holding (es.table guards)).Watched es guards :=
    ⟨hes.isOpen, hes.saved, hes.writable, rfl, hes.distinct⟩
  have htable : (⟨s.db.rows, guards⟩ : Table) = es.table guards := by rw [hes.rows]; rfl
  rw [htable]
  refine ⟨h.run_pass_unguarded, h.run_pass_done, ?_, ?_, ?_⟩
  · intro hstuck
    obtain ⟨e, s', hrun, -, hdb⟩ := h.run_pass_stuck hstuck
    exact ⟨e, s', hrun, hdb⟩
  · intro result s' hfirst
    by_cases hstuck : (es.table guards).Stuck (Keeper.due now retention)
    · obtain ⟨e, x, hrun, hopen, hdb⟩ := h.run_pass_stuck hstuck
      obtain ⟨rfl, rfl⟩ := Prod.mk.inj (hrun.symm.trans hfirst)
      have hx : x.Watched es guards := by
        refine ⟨hopen, ?_, ?_, ?_, hes.distinct⟩
        · rw [hdb]
          exact h.saved
        · rw [hdb]
          exact h.writable
        · rw [hdb]
          exact h.table
      obtain ⟨e', x', hrun', -, hdb'⟩ := hx.run_pass_stuck hstuck
      rw [hrun']
      exact ⟨hdb', fun n hn => by cases hn⟩
    · obtain ⟨rfl, rfl⟩ := Prod.mk.inj ((h.run_pass_done hstuck).symm.trans hfirst)
      rw [h.run_pass_again hstuck]
      exact ⟨rfl, fun _ _ => rfl⟩
  · intro longer hle n s' hfirst row hrow
    have hstuck : ¬ (es.table guards).Stuck (Keeper.due now retention) := by
      intro hstuck
      obtain ⟨e, x, hrun, -⟩ := h.run_pass_stuck hstuck
      cases (Prod.mk.inj (hrun.symm.trans hfirst)).1
    obtain ⟨-, rfl⟩ := Prod.mk.inj ((h.run_pass_done hstuck).symm.trans hfirst)
    exact h.longer_keeps hle hrow

def delivered (id name : String) (seconds : Nat) (s : Store) : Store :=
  let observed := (Call.upsert ⟨.sampleSecond seconds, id⟩ (.fresh .pod name none)).perform s
  ((Call.markSent [id] (Instant.sampleSecond seconds).stamp).perform observed.2).2

/-- A pod delivered at ten seconds and one delivered at twenty. -/
def twoDelivered : Store := delivered "b" "web-1" 20 (delivered "a" "web-0" 10 .fresh)

theorem reached_twoDelivered : twoDelivered.Reached :=
  .call _ (.call _ (.call _ (.call _ .fresh (by decide)) (by decide)) (by decide +kernel)) (by decide)

/-- The second pod is not to be deleted. -/
def keepSecond : List Guard := [⟨"g", .delete, some "web-1", .abort, "refused"⟩]

theorem pass_exact_twoDelivered :
    Keeper.Exact twoDelivered ⟨twoDelivered.db.rows, keepSecond⟩ (.sampleSecond 100)
        (.ofSeconds 85) ∧
      (⟨twoDelivered.db.rows, keepSecond⟩ : Table).Stuck
        (Keeper.due (.sampleSecond 100) (.ofSeconds 50)) ∧
      ¬ (⟨twoDelivered.db.rows, keepSecond⟩ : Table).Stuck
        (Keeper.due (.sampleSecond 100) (.ofSeconds 85)) :=
  ⟨reached_twoDelivered.pass_exact keepSecond (.sampleSecond 100) (.ofSeconds 85),
    by decide +kernel, by decide +kernel⟩

/-- The shorter retention fails at the second pod and keeps both; the longer one deletes the first. -/
theorem longer_retention_deletes :
    ¬ ∀ (s : Store) (guards : List Guard) (now : Instant) (retention longer : Duration),
      s.Reached → retention.nanos ≤ longer.nanos →
        ∀ row ∈ ((Keeper.pass now retention).run (s.holding ⟨s.db.rows, guards⟩)).2.db.rows,
          row ∈ ((Keeper.pass now longer).run (s.holding ⟨s.db.rows, guards⟩)).2.db.rows := by
  intro h
  have hkept := h twoDelivered keepSecond (.sampleSecond 100) (.ofSeconds 50) (.ofSeconds 85)
    reached_twoDelivered (by decide)
  have hlost : ¬ ∀ row ∈ ((Keeper.pass (.sampleSecond 100) (.ofSeconds 50)).run
      (twoDelivered.holding ⟨twoDelivered.db.rows, keepSecond⟩)).2.db.rows,
        row ∈ ((Keeper.pass (.sampleSecond 100) (.ofSeconds 85)).run
          (twoDelivered.holding ⟨twoDelivered.db.rows, keepSecond⟩)).2.db.rows := by
    decide +kernel
  exact hlost hkept

end Store

end ClusterOutbox
