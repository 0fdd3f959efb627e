import ClusterOutbox.Proofs.Delivery.Packing
import ClusterOutbox.Proofs.Delivery.Sending
import ClusterOutbox.Proofs.Store.Calls
import ClusterOutbox.Proofs.Store.Lawful

namespace ClusterOutbox

theorem Store.Shows.lawful {s : Store} {es : Ledger} (hs : s.Shows es) :
    ∀ table ∈ s.db.table, table.Lawful := by
  intro table htable
  obtain rfl := Option.some.inj (hs.table.symm.trans htable)
  exact hs.distinct.lawful []

theorem Store.Reached.lawful {s : Store} (hs : s.Reached) :
    ∀ table ∈ s.db.table, table.Lawful := by
  obtain ⟨es, hes⟩ := hs.ready
  exact hes.lawful

namespace Flush

variable {c : PusherConfig} {s : Surroundings} {t : Trace} {store : Store}

/-- The records pending delivery, in the order of their insertion. -/
def Pending (store : Store) (records : List Record) : Prop :=
  store.isOpen = true ∧ ∃ t ∈ store.db.table,
    (t.rows.filter Query.pending.selects).mapM Row.record? = .ok records

/-- A selection changes nothing. -/
theorem run_selection (store : Store) :
    (∃ e, (Session.call (Session.findAll .pending)).run store = (.error e, store) ∧
      ∀ records, ¬ Pending store records) ∨
    ∃ records, (Session.call (Session.findAll .pending)).run store = (.ok records, store) ∧
      Pending store records := by
  cases hopen : store.isOpen with
  | false =>
    left
    refine ⟨.connectionClosed, ?_, fun records h => absurd h.1 (by simp [hopen])⟩
    change (if store.isOpen then Session.findAll .pending else throw .connectionClosed :
      Session _).run store = _
    rw [if_neg (by simp [hopen])]
    rfl
  | true =>
    rw [Session.run_call hopen, Session.findAll]
    cases ht : store.db.table with
    | none =>
      left
      have hrows : Session.rows.run store = (.error (.ofEngine Database.noTable), store) := by
        change (Session.ofEngine store.db.table? >>= fun t => pure t.rows : Session _).run store = _
        have htable : store.db.table? = .error Database.noTable := by simp [Database.table?, ht]
        rw [htable]
        rfl
      refine ⟨_, Session.run_bind_error hrows _, ?_⟩
      rintro records ⟨-, t, ht', -⟩
      simp [ht] at ht'
    | some t =>
      rw [Session.run_bind_ok (Session.run_rows ht)]
      cases hread : (t.rows.filter Query.pending.selects).mapM Row.record? with
      | error e =>
        left
        refine ⟨.ofEngine e, rfl, ?_⟩
        rintro records ⟨-, t', ht', hread'⟩
        obtain rfl := Option.some.inj (ht.symm.trans ht')
        simp [hread] at hread'
      | ok records => exact .inr ⟨records, rfl, hopen, t, ht, hread⟩

/-- What becomes of a database where the delivery of some records is to be confirmed as of a time.
A guard that breaks off what is part of an open transaction leaves the marks of the records before
it, unless it ends the transaction. -/
inductive Confirms (before : Database) (records : List Record) (at_ : Instant) (after : Database) :
    Prop
  | marked {table : Table} : ¬ before.Unmarkable (records.map (·.id)) → table ∈ before.table →
    after = { before with table := some (table.confirm (records.map (·.id)) at_.micros) } →
    Confirms before records at_ after
  | refused : before.Unmarkable (records.map (·.id)) →
    before.saved = none ∨ before.readOnly = true → after = before →
    Confirms before records at_ after
  | halted {table : Table} : before.Unmarkable (records.map (·.id)) →
    ¬ (before.saved = none ∨ before.readOnly = true) → table ∈ before.table →
    before.Halted table (records.map (·.id)) at_.micros after →
    Confirms before records at_ after

theorem run_confirm (c : PusherConfig) (start : Instant) (records : List Record)
    (hopen : t.store.isOpen = true) {table : Table} (ht : t.store.db.table = some table)
    (hl : table.Lawful) :
    ∃ t', (confirm c start (records.map (·.id))).run s t = (some (), t') ∧
      t'.exchanges s = t.exchanges s ∧ t'.store.isOpen = t.store.isOpen ∧
      Confirms t.store.db records start t'.store.db := by
  unfold confirm
  by_cases hids : records.map (·.id) = []
  · refine ⟨t, by rw [if_pos hids]; rfl, rfl, rfl, .marked (fun h => h.1 hids) ht ?_⟩
    rw [hids, Table.confirm_nil, ← ht]
  · rw [if_neg hids, Procedure.run_count]
    let counted := t.counted (·.addProcessed c.endpoint (records.map (·.id)).length.toUInt64)
    have hopen : counted.store.isOpen = true := hopen
    have ht : counted.store.db.table = some table := ht
    by_cases hmark : t.store.db.Unmarkable (records.map (·.id))
    · obtain ⟨e, store, hrun, hopen', hdb⟩ := Session.run_markSent_error ht hl hmark start
      rw [← Session.run_call hopen] at hrun
      refine ⟨_, Procedure.run_mark hrun _, rfl, hopen', ?_⟩
      split at hdb
      next hcond => exact .refused hmark hcond hdb
      next hcond => exact .halted hmark hcond ht hdb
    · obtain ⟨store, hrun, hopen', hdb⟩ := Session.run_markSent_ok ht hl hmark start
      rw [← Session.run_call hopen] at hrun
      exact ⟨_, Procedure.run_mark hrun _, rfl, hopen', .marked hmark ht hdb⟩

/-- A trace in which a flush has just begun. -/
theorem exists_begun (c : PusherConfig) (s : Surroundings) (store : Store) :
    ∃ t : Trace, alone c s store = (flush c).run s t ∧ t.store = store ∧ t.posts = [] ∧
      t.Quiet s := by
  refine ⟨_, rfl, rfl, rfl, ?_⟩
  intro hnever
  simp [hnever]

theorem alone_unselected {e : StoreError}
    (h : (Session.call (Session.findAll .pending)).run store = (.error e, store)) :
    ∃ t, alone c s store = (some (.error (.store e)), t) ∧ t.posts = [] ∧
      t.store.db = store.db := by
  obtain ⟨t, halone, rfl, hposts, -⟩ := exists_begun c s store
  rw [halone, flush, Procedure.run, Procedure.run_select h]
  exact ⟨_, rfl, hposts, rfl⟩

theorem Pending.eq {a b : List Record} (ha : Pending store a) (hb : Pending store b) : a = b := by
  obtain ⟨-, t, ht, ha⟩ := ha
  obtain ⟨-, t', ht', hb⟩ := hb
  obtain rfl := Option.some.inj (ht.symm.trans ht')
  exact Except.ok.inj (ha.symm.trans hb)

theorem Pending.run {records : List Record} (h : Pending store records) :
    (Session.call (Session.findAll .pending)).run store = (.ok records, store) := by
  rcases run_selection store with ⟨e, -, hnone⟩ | ⟨records', hrun, hpending⟩
  · exact absurd h (hnone records)
  · rw [hrun, h.eq hpending]

theorem alone_idle (h : Pending store []) :
    ∃ t, alone c s store = (some (.ok ⟨0, 0, 0, 0⟩), t) ∧ t.posts = [] ∧
      t.store.isOpen = store.isOpen ∧ t.store.db = store.db := by
  obtain ⟨t, halone, rfl, hposts, -⟩ := exists_begun c s store
  rw [halone, flush, Procedure.run, Procedure.run_select h.run]
  exact ⟨_, rfl, hposts, rfl, rfl⟩

theorem alone_keyless {records : List Record} (h : Pending store records) (hne : records ≠ [])
    (hkey : s.key = "") :
    ∃ t, alone c s store = (some (.error .missingKey), t) ∧ t.posts = [] ∧
      t.store.db = store.db := by
  obtain ⟨t, halone, rfl, hposts, -⟩ := exists_begun c s store
  rw [halone, flush, Procedure.run, Procedure.run_select h.run]
  dsimp only
  rw [Procedure.run_count, if_neg hne, Procedure.run, if_pos hkey]
  exact ⟨_, rfl, hposts, rfl⟩

/-- What has been accepted is confirmed, whether or not a batch fails after it. -/
theorem alone_sends {records : List Record} (h : Pending store records) (hne : records ≠ [])
    (hkey : s.key ≠ "") (hstore : ∀ table ∈ store.db.table, table.Lawful) :
    ((alone c s store).1 = none ∧ ¬ c.retry.Bounded) ∨
      ∃ result t, alone c s store = (some result, t) ∧ t.store.isOpen = store.isOpen ∧
        ((result = .ok ⟨records.length, records.length, (pack c.maxBytes records).length,
              (seriesOf c.stem records).length⟩ ∧
            Accepted c s.signal (pack c.maxBytes records) (t.exchanges s) ∧
            Confirms store.db records s.now t.store.db) ∨
          ∃ accepted failing rest xs ys e, result = .error e ∧
            pack c.maxBytes records = accepted ++ failing :: rest ∧ t.exchanges s = xs ++ ys ∧
            Accepted c s.signal accepted xs ∧ Sent c s.signal failing ys (.error e) ∧
            Confirms store.db accepted.flatten s.now t.store.db) := by
  obtain ⟨begun, halone, rfl, hposts, hquiet⟩ := exists_begun c s store
  rw [halone, flush, Procedure.run, Procedure.run_select h.run]
  dsimp only
  rw [Procedure.run_count, if_neg hne, Procedure.run, if_neg hkey]
  obtain ⟨hopen, table, htable, -⟩ := h
  rcases run_sendBatches (t := begun.counted (·.setBacklog c.endpoint records.length.toUInt64))
    c s.key records.length ⟨[], 0, 0⟩ (pack c.maxBytes records) hquiet with ⟨hoverflow, hc⟩ |
    ⟨progress, failure, t, xs, hsent, hlead, hcourse⟩
  · exact .inl ⟨Procedure.run_bind_overflow hoverflow _, hc⟩
  right
  have hexchanges : t.exchanges s = xs := by
    rw [hlead.exchanges]
    simp [Trace.exchanges, Trace.counted, hposts, Trace.exchangesOf]
  have hdb : t.store.db = begun.store.db := hlead.db
  rw [Procedure.run_bind hsent]
  dsimp only
  have hconfirm (done : List Record) := run_confirm (s := s) c s.now done
    (hlead.isOpen.trans hopen) ((congrArg Database.table hdb).trans htable) (hstore table htable)
  rcases hcourse with ⟨rfl, rfl, haccepted⟩ |
    ⟨accepted, failing, rest, ys, zs, e, hpack, rfl, rfl, rfl, haccepted, hfailing⟩
  · obtain ⟨t', hrun, hsame, hopen', hconfirms⟩ := hconfirm records
    have hids : ((⟨[], 0, 0⟩ : Progress).after c.stem (pack c.maxBytes records)).ids =
        records.map (·.id) := by simp [Progress.after, flatten_pack]
    rw [hdb] at hconfirms
    rw [hids, Procedure.run_bind hrun]
    refine ⟨_, t', rfl, hopen'.trans hlead.isOpen, .inl ⟨?_, ?_, hconfirms⟩⟩
    · simp [Progress.after, flatten_pack]
    · rwa [hsame, hexchanges]
  · obtain ⟨t', hrun, hsame, hopen', hconfirms⟩ := hconfirm accepted.flatten
    have hids : ((⟨[], 0, 0⟩ : Progress).after c.stem accepted).ids =
        accepted.flatten.map (·.id) := by simp [Progress.after]
    rw [hdb] at hconfirms
    rw [hids, Procedure.run_bind hrun]
    exact ⟨_, t', rfl, hopen'.trans hlead.isOpen, .inr ⟨accepted, failing, rest, ys, zs, e, rfl,
      hpack, hsame.trans hexchanges, haccepted, hfailing, hconfirms⟩⟩

/-- What a flush comes to. -/
inductive Effect (c : PusherConfig) (s : Surroundings) (store : Store) :
    Except PushError Report → Trace → Prop
  | unselected {e : StoreError} {t : Trace} :
    (Session.call (Session.findAll .pending)).run store = (.error e, store) →
    (∀ records, ¬ Pending store records) → t.posts = [] → t.store.db = store.db →
    Effect c s store (.error (.store e)) t
  | idle {t : Trace} :
    Pending store [] → t.posts = [] → t.store.db = store.db →
    Effect c s store (.ok ⟨0, 0, 0, 0⟩) t
  | keyless {records : List Record} {t : Trace} :
    Pending store records → records ≠ [] → s.key = "" → t.posts = [] → t.store.db = store.db →
    Effect c s store (.error .missingKey) t
  | delivered {records : List Record} {t : Trace} :
    Pending store records → records ≠ [] → s.key ≠ "" →
    Accepted c s.signal (pack c.maxBytes records) (t.exchanges s) →
    Confirms store.db records s.now t.store.db →
    Effect c s store (.ok ⟨records.length, records.length, (pack c.maxBytes records).length,
      (seriesOf c.stem records).length⟩) t
  | stopped {records failing : List Record} {accepted rest : List (List Record)}
      {xs ys : List Exchange} {e : PushError} {t : Trace} :
    Pending store records → s.key ≠ "" →
    pack c.maxBytes records = accepted ++ failing :: rest →
    Accepted c s.signal accepted xs → Sent c s.signal failing ys (.error e) →
    t.exchanges s = xs ++ ys → Confirms store.db accepted.flatten s.now t.store.db →
    Effect c s store (.error e) t

/-- A flush that runs alone has one of the effects told, on every store whose table keeps its
rules. -/
theorem alone_effect (c : PusherConfig) (s : Surroundings) (store : Store)
    (hc : c.retry.Bounded) (hstore : ∀ table ∈ store.db.table, table.Lawful) :
    ∃ result t, alone c s store = (some result, t) ∧ Effect c s store result t := by
  rcases run_selection store with ⟨e, hselection, hnone⟩ | ⟨records, -, hpending⟩
  · obtain ⟨t, hrun, hposts, hdb⟩ := alone_unselected (c := c) (s := s) hselection
    exact ⟨_, t, hrun, .unselected hselection hnone hposts hdb⟩
  by_cases hne : records = []
  · subst hne
    obtain ⟨t, hrun, hposts, -, hdb⟩ := alone_idle (c := c) (s := s) hpending
    exact ⟨_, t, hrun, .idle hpending hposts hdb⟩
  by_cases hkey : s.key = ""
  · obtain ⟨t, hrun, hposts, hdb⟩ := alone_keyless (c := c) hpending hne hkey
    exact ⟨_, t, hrun, .keyless hpending hne hkey hposts hdb⟩
  rcases alone_sends hpending hne hkey hstore with ⟨-, hunbounded⟩ |
    ⟨result, t, hrun, -, ⟨rfl, haccepted, hconfirms⟩ |
      ⟨accepted, failing, rest, xs, ys, e, rfl, hpack, hexchanges, haccepted, hfailing,
        hconfirms⟩⟩
  · exact absurd hc hunbounded
  · exact ⟨_, t, hrun, .delivered hpending hne hkey haccepted hconfirms⟩
  · exact ⟨_, t, hrun, .stopped hpending hkey hpack haccepted hfailing hexchanges hconfirms⟩

/-- Two pods, observed at ten seconds. -/
def twoPods : Store :=
  ((Call.observeAll [
    (⟨.sampleSecond 10, "a"⟩, .fresh .pod "web-0" (some "default")),
    (⟨.sampleSecond 10, "b"⟩, .fresh .pod "web-1" none)]).perform .fresh).2

/-- Each record travels alone, and is tried twice. -/
def narrow : PusherConfig :=
  { PusherConfig.standard "endpoint" with maxBytes := 1, retry := ⟨2, .ofSeconds 1, .ofSeconds 1⟩ }

/-- The first request is accepted, and no other. -/
def firstAccepted : Surroundings where
  now := ⟨20000000000, by decide, by decide⟩
  key := "key"
  reply n := (if n = 0 then .status 200 else .status 500, .zero)
  drawn _ := 0
  signal := .never

theorem alone_effect_firstAccepted :
    narrow.retry.Bounded ∧ (∀ table ∈ twoPods.db.table, table.Lawful) ∧
      ∃ result t, alone narrow firstAccepted twoPods = (some result, t) ∧
        Effect narrow firstAccepted twoPods result t :=
  have hc : narrow.retry.Bounded := RetryPolicy.bounded_of_le (by decide)
  have hs : twoPods.Reached := .call _ .fresh (by decide)
  ⟨hc, hs.lawful, alone_effect narrow firstAccepted twoPods hc hs.lawful⟩

example :
    (alone narrow firstAccepted twoPods).1 = some (.error (.retriesExhausted 2 (.status 500))) ∧
      (alone narrow firstAccepted twoPods).2.posts.length = 3 ∧
      (alone narrow firstAccepted twoPods).2.store.db.rows.map Row.sentAt =
        [.integer 20000000, .null] := by decide +kernel

/-- The two pods, with a guard of the deliveries of the second one. -/
def guardedPods (raise : Raise) : Store :=
  { twoPods with db := (twoPods.db.guard ⟨"g", .sentAt, some "web-1", raise, "refused"⟩).2 }

/-- Every request is accepted. -/
def accepting : Surroundings := { firstAccepted with reply := fun _ => (.status 200, .zero) }

/-- In a transaction that is open already, a confirmation that fails at the second pod leaves the
first one marked. A guard that passes over the second pod leaves it pending, and nothing fails. -/
theorem joined_confirmation_leaves_mark :
    let opened := ((Session.statement Database.begin_).run (guardedPods .abort)).2
    let joined := alone narrow accepting opened
    let passed := alone narrow accepting (guardedPods .ignore)
    joined.1 = some (.ok ⟨2, 2, 2, 2⟩) ∧
    ((Session.markSent ["a", "b"] accepting.now).run opened).1 =
      .error (.engine 1811 (some "refused")) ∧
    opened.db.rows.map Row.sentAt = [.null, .null] ∧
    joined.2.store.db.rows.map Row.sentAt = [.integer 20000000, .null] ∧
    passed.1 = some (.ok ⟨2, 2, 2, 2⟩) ∧
    ((Session.markSent ["a", "b"] accepting.now).run (guardedPods .ignore)).1 = .ok 1 ∧
    passed.2.store.db.rows.map Row.sentAt = [.integer 20000000, .null] := by
  decide +kernel

end Flush

end ClusterOutbox
