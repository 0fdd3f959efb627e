import ClusterOutbox.Proofs.Store.Soundness

namespace ClusterOutbox

/-- Whether a query asks for a record as it reads. A cutoff counts at the precision of the store. -/
def Query.asksFor : Query → Record → Bool
  | all, _ => true
  | identity kind name ns, r => r.kind = kind ∧ r.name = name ∧ r.nsKey = ns.getD ""
  | pending, r => r.isPending
  | reclaimable cutoff, r => r.isReclaimable cutoff.floorMicros.stamp

namespace Entry

theorem isReclaimable_record (cutoff : Instant) (e : Entry) :
    e.record.isReclaimable cutoff.floorMicros.stamp = e.isReclaimable cutoff.micros := by
  rw [Session.stamp_floorMicros]
  cases h : e.sentAt <;>
    simp [Record.isReclaimable, isReclaimable, record, h, StoreTime.stamp_lt_stamp]

/-- Over rows as they are stored and over records as they are read, a query asks for the same. -/
theorem selects_row (q : Query) (e : Entry) : q.selects e.row = q.asksFor e.record := by
  cases q with
  | all => rfl
  | identity kind name ns =>
    simp [Query.selects, Query.asksFor, row, record, Record.nsKey, code_inj, Bool.beq_eq_decide_eq,
      Bool.and_assoc]
  | pending => rw [selects_pending_row, Query.asksFor, isPending_record]
  | reclaimable cutoff => rw [selects_reclaimable_row, Query.asksFor, isReclaimable_record]

end Entry

namespace Ledger

variable {es : Ledger}

theorem ids_map {f : Entry → Entry} (hf : ∀ e : Entry, e.Continues (f e)) :
    (es.map f).map Entry.id = es.map Entry.id := by
  rw [List.map_map]
  exact List.map_congr_left fun e _ => (hf e).id

theorem ids_append (e : Entry) : es.map Entry.id <+: (es ++ [e]).map Entry.id := by
  rw [List.map_append]
  exact List.prefix_append _ _

theorem ids_create (m : Moment) (r : Record) : es.map Entry.id <+: (es.create m r).map Entry.id := by
  unfold create
  cases es.holder? r.identity with
  | none => exact ids_append _
  | some _ => exact List.prefix_rfl

theorem ids_upsert (m : Moment) (r : Record) : es.map Entry.id <+: (es.upsert m r).map Entry.id := by
  unfold upsert
  cases es.holder? r.identity with
  | none => exact ids_append _
  | some _ => exact (ids_map (continues_refresh m r)).symm ▸ List.prefix_rfl

theorem ids_upsertAll (items : List (Moment × Record)) (es : Ledger) :
    es.map Entry.id <+: (es.upsertAll items).map Entry.id := by
  induction items generalizing es with
  | nil => exact List.prefix_rfl
  | cons item items ih => exact (ids_upsert item.1 item.2).trans (ih (es.upsert item.1 item.2))

theorem ids_records (es : Ledger) : (es.map Entry.record).map Record.id = es.map Entry.id := by
  rw [List.map_map]
  rfl

end Ledger

/-- A call that does not delete leaves the ids in their places; a new one goes to the end. -/
theorem Call.ids_ledger {c : Call} (h : c.deletes = false) (es : Ledger) :
    es.map Entry.id <+: (c.ledger es).map Entry.id := by
  cases c with
  | create m r => exact Ledger.ids_create m r
  | update m r => exact (Ledger.ids_map (Ledger.continues_update m r)).symm ▸ List.prefix_rfl
  | upsert m r => exact Ledger.ids_upsert m r
  | markSent ids t =>
    exact (Ledger.ids_map (Ledger.continues_confirm ids t.storeTime)).symm ▸ List.prefix_rfl
  | observeAll items => exact Ledger.ids_upsertAll items es
  | delete id => simp [deletes] at h
  | pass now retention => simp [deletes] at h

/-- A store that lists records, where every query answers from that list. -/
structure Store.Lists (s : Store) (records : List Record) : Prop where
  ids : (records.map Record.id).Nodup
  rows : s.db.rows.map Row.id = (records.map Record.id).map Cell.text
  all : (Session.call (Session.findAll .all)).run s = (.ok records, s)
  findAll (q : Query) :
    (Session.call (Session.findAll q)).run s = (.ok (records.filter q.asksFor), s)
  countBy (q : Query) :
    (Session.call (Session.countBy q)).run s = (.ok (records.filter q.asksFor).length, s)
  findFirst (q : Query) :
    (Session.call (Session.findFirst q)).run s =
      (match records.filter q.asksFor with
        | [] => .error .notFound
        | r :: _ => .ok r, s)

namespace Session

variable {s : Store} {es : Ledger}

theorem run_findAll_records (hs : s.Shows es) (q : Query) :
    (findAll q).run s = (.ok ((es.map Entry.record).filter q.asksFor), s) := by
  rw [run_findAll hs (Entry.selects_row q), List.filter_map]
  rfl

theorem run_countBy (hs : s.Shows es) (q : Query) :
    (countBy q).run s = (.ok ((es.map Entry.record).filter q.asksFor).length, s) := by
  have hcount : ((es.map Entry.row).filter q.selects).length =
      ((es.map Entry.record).filter q.asksFor).length := by
    rw [filter_rows (Entry.selects_row q), List.filter_map, List.length_map, List.length_map]
    rfl
  rw [countBy, run_bind_ok (run_rows hs.table), run_pure, ← hcount]
  rfl

theorem run_findFirst_records (hs : s.Shows es) (q : Query) :
    (findFirst q).run s =
      (match (es.map Entry.record).filter q.asksFor with
        | [] => .error .notFound
        | r :: _ => .ok r, s) := by
  have hhead : ((es.map Entry.record).filter q.asksFor).head? =
      (es.find? fun e => q.selects e.row).map Entry.record := by
    simp only [Entry.selects_row]
    rw [List.head?_filter, List.find?_map]
    rfl
  rw [run_findFirst hs]
  cases hfound : es.find? fun e => q.selects e.row with
  | none =>
    rw [hfound] at hhead
    rw [List.head?_eq_none_iff.mp hhead]
  | some e =>
    rw [hfound] at hhead
    obtain ⟨rest, hrest⟩ := List.head?_eq_some_iff.mp hhead
    rw [hrest]

end Session

namespace Store

variable {s : Store}

theorem Shows.lists {es : Ledger} (hs : s.Shows es) (hopen : s.isOpen = true) :
    s.Lists (es.map Entry.record) where
  ids := by
    rw [Ledger.ids_records]
    exact hs.distinct.ids
  rows := by
    rw [Ledger.ids_records, hs.rows, List.map_map, List.map_map]
    rfl
  all := by
    rw [Session.run_call hopen, Session.run_findAll_records hs]
    exact congrArg (fun records => (Except.ok records, s)) (List.filter_true _)
  findAll q := by rw [Session.run_call hopen, Session.run_findAll_records hs]
  countBy q := by rw [Session.run_call hopen, Session.run_countBy hs]
  findFirst q := by rw [Session.run_call hopen, Session.run_findFirst_records hs]

/-- A call that does not delete moves no row, whatever it is told. -/
theorem Arises.ids_perform (hs : s.Arises) {c : Call} (hc : c.Fresh s) (hkeeps : c.deletes = false) :
    s.db.rows.map Row.id <+: (c.perform s).2.db.rows.map Row.id := by
  obtain ⟨es, hes⟩ := hs.stands
  have hids (s : Store) : s.capped.db.rows.map Row.id = s.db.rows.map Row.id := by
    rw [rows_capped, List.map_map]
    rfl
  have hrow (es : Ledger) : (es.map Entry.row).map Row.id = (es.map Entry.id).map Cell.text := by
    rw [List.map_map, List.map_map]
    rfl
  have hcall := (hes.call hc.capped).rows
  rw [c.perform_capped] at hcall
  rw [← hids s, ← hids (c.perform s).2, hes.rows, hcall, hrow, hrow]
  exact (Call.ids_ledger (c.deletes_capped.trans hkeeps) es).map Cell.text

/-- Where every row reads, every query answers from the list of all records; and what adds or changes
records moves none of them. -/
theorem Arises.queries_agree (hs : s.Arises) :
    (s.Reads → ∃ records, s.Lists records) ∧
    ∀ c : Call, c.Fresh s → c.deletes = false →
      s.db.rows.map Row.id <+: (c.perform s).2.db.rows.map Row.id := by
  refine ⟨fun hreads => ?_, fun c hc hkeeps => hs.ids_perform hc hkeeps⟩
  obtain ⟨hopen, es, hes⟩ := hs.shows hreads
  exact ⟨es.map Entry.record, hes.lists hopen⟩

/-- Inside a transaction the pod is confirmed and a node is added. -/
def twoKinds : Store :=
  let opened := (Session.enter.run onePod).2
  let confirmed := ((Call.markSent ["a"] (Instant.sampleSecond 20).stamp).perform opened).2
  ((Call.upsert ⟨.sampleSecond 30, "b"⟩ (.fresh .node "node-1" none)).perform confirmed).2

theorem queries_agree_twoKinds :
    twoKinds.db.inTransaction = true ∧ twoKinds.Reads ∧ (∃ records, twoKinds.Lists records) ∧
    ∀ c : Call, c.Fresh twoKinds → c.deletes = false →
      twoKinds.db.rows.map Row.id <+: (c.perform twoKinds).2.db.rows.map Row.id := by
  have hpod : onePod.Arises := .call _ .fresh (by decide)
  have hs : twoKinds.Arises := .call _ (.call _ hpod.enter (by decide)) (by decide +kernel)
  have hreads : twoKinds.Reads := by decide +kernel
  obtain ⟨hlists, hkeeps⟩ := hs.queries_agree
  exact ⟨by decide +kernel, hreads, hlists hreads, hkeeps⟩

/-- With a pod told as delivered after the calendar, what asks for all records fails. -/
theorem query_of_unreadable_fails :
    lateDelivered.Arises ∧
      ((Session.call (Session.countBy .all)).run lateDelivered).1 = .ok 1 ∧
      ((Session.call (Session.findAll .all)).run lateDelivered).1 =
        .error (.invalidData "column 9: 8210266876800000000 out of range") ∧
      ((Session.call (Session.findFirst .all)).run lateDelivered).1 =
        .error (.invalidData "column 9: 8210266876800000000 out of range") ∧
      ∀ records, ¬ lateDelivered.Lists records := by
  have hfails : ((Session.call (Session.findAll .all)).run lateDelivered).1 =
      .error (.invalidData "column 9: 8210266876800000000 out of range") := by decide +kernel
  refine ⟨.call lateDelivery .fresh (by decide), by decide +kernel, hfails, by decide +kernel, ?_⟩
  intro records h
  rw [h.all] at hfails
  simp at hfails

end Store

end ClusterOutbox
