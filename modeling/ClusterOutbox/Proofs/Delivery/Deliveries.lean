import ClusterOutbox.Proofs.Delivery.Effect
import ClusterOutbox.Proofs.Delivery.Retries

namespace ClusterOutbox

namespace Flush

variable {c : PusherConfig} {s : Surroundings}

/-- What happens in the sending of batches from one trace to another: those accepted, the log, and
why it stops. -/
inductive Deliveries (c : PusherConfig) (s : Surroundings) : List (List Record) → Trace →
    List (List Record) → List Occurrence → Option PushError → Trace → Prop
  | finished {t : Trace} : Deliveries c s [] t [] [] none t
  | tooLong {batch : List Record} {rest : List (List Record)} {t : Trace}
      (change : Metrics → Metrics) :
    body? (seriesOf c.stem batch) = none →
    Deliveries c s (batch :: rest) t [] [] (some .compress) (t.counted change)
  | failed {batch : List Record} {rest : List (List Record)} {t t' : Trace} {body : List UInt8}
      {os : List Occurrence} {e : PushError} (change : Metrics → Metrics) :
    body? (seriesOf c.stem batch) = some body →
    Attempts c s body (c.retry.limit - 1) 1 t os (.error e) t' →
    Deliveries c s (batch :: rest) t [] os (some e) (t'.counted change)
  | accepted {batch : List Record} {rest batches : List (List Record)} {t t' t'' : Trace}
      {body : List UInt8} {os os' : List Occurrence} {n : Nat} {failure : Option PushError}
      (change : Metrics → Metrics) :
    body? (seriesOf c.stem batch) = some body →
    Attempts c s body (c.retry.limit - 1) 1 t os (.ok n) t' →
    Deliveries c s rest (t'.counted change) batches os' failure t'' →
    Deliveries c s (batch :: rest) t (batch :: batches) (os ++ os') failure t''

/-- A run that breaks off knows of no shutdown. -/
def Broken {α : Type} (s : Surroundings) (p : Procedure α) (t : Trace) : Prop :=
  (p.run s t).1 = none ∧ (p.run s t).2.signalled = false

theorem Broken.bind {α β : Type} {p : Procedure α} {t : Trace} (h : Broken s p t)
    (f : α → Procedure β) : Broken s (p >>= f) t := by
  have hrun := Procedure.run_bind_none (Prod.ext h.1 rfl : p.run s t = (none, _)) f
  exact ⟨congrArg Prod.fst hrun, (congrArg (fun x => x.2.signalled) hrun).trans h.2⟩

/-- Batches are sent as told, unless a delay is no duration. -/
theorem deliveries_sendBatches (c : PusherConfig) (s : Surroundings) (key : String) (selected : Nat)
    (done : Progress) (batches : List (List Record)) (t : Trace) :
    Broken s (sendBatches c key selected done batches) t ∨
      ∃ accepted os failure t', Deliveries c s batches t accepted os failure t' ∧
        (sendBatches c key selected done batches).run s t =
          (some (done.after c.stem accepted, failure), t') ∧
        (sendBatches c key selected done batches).log s t = os := by
  induction batches generalizing done t with
  | nil =>
    right
    refine ⟨[], [], none, t, .finished, ?_, rfl⟩
    rw [Progress.after_none]
    rfl
  | cons batch rest ih =>
    rw [sendBatches]
    cases hbody : body? (seriesOf c.stem batch) with
    | none =>
      right
      have hbatch : (sendBatch c key batch).run s t = (some (.error .compress), t) := by
        simp only [sendBatch, hbody]
        rfl
      have hlog : (sendBatch c key batch).log s t = [] := by
        simp only [sendBatch, hbody]
        rfl
      refine ⟨[], [], _, _, .tooLong (·.addPushFailure c.endpoint) hbody, ?_, ?_⟩
      · rw [Procedure.run_bind hbatch, Progress.after_none]
        rfl
      · rw [Procedure.log_bind hbatch, hlog]
        rfl
    | some body =>
      rcases attempts_send c s key body t with ⟨hnone, hquiet, -⟩ |
        ⟨os, result, t', hattempts, hsend, hsendLog⟩
      · left
        have hbroken : Broken s (send c key body) t := ⟨hnone, hquiet⟩
        refine Broken.bind ?_ _
        simp only [sendBatch, hbody]
        exact hbroken.bind _
      cases result with
      | error e =>
        right
        have hbatch : (sendBatch c key batch).run s t = (some (.error e), t') := by
          simp only [sendBatch, hbody]
          rw [Procedure.run_bind hsend]
          rfl
        have hlog : (sendBatch c key batch).log s t = os := by
          simp only [sendBatch, hbody]
          rw [Procedure.log_bind hsend, hsendLog]
          exact List.append_nil os
        refine ⟨[], os, _, _, .failed (·.addPushFailure c.endpoint) hbody hattempts, ?_, ?_⟩
        · rw [Procedure.run_bind hbatch, Progress.after_none]
          rfl
        · rw [Procedure.log_bind hbatch, hlog]
          exact List.append_nil os
      | ok n =>
        let observe : Metrics → Metrics := (·.observeBatch c.endpoint
          (seriesOf c.stem batch).length.toUInt64 body.length.toUInt64)
        have hbatch : (sendBatch c key batch).run s t =
            (some (.ok (seriesOf c.stem batch).length), t'.counted observe) := by
          simp only [sendBatch, hbody]
          rw [Procedure.run_bind hsend]
          rfl
        have hlog : (sendBatch c key batch).log s t = os := by
          simp only [sendBatch, hbody]
          rw [Procedure.log_bind hsend, hsendLog]
          exact List.append_nil os
        let backlog : Metrics → Metrics := (·.setBacklog c.endpoint
          (selected - (done.ids ++ batch.map (·.id)).length).toUInt64)
        rw [Procedure.run_bind hbatch, Procedure.log_bind hbatch, hlog]
        have hrest := ih (done.after c.stem [batch]) (t'.counted (backlog ∘ observe))
        rw [Progress.after_one] at hrest
        rcases hrest with hbroken | ⟨accepted, os', failure, t'', hdeliveries, hrun, hrunLog⟩
        · left
          rw [Broken, Procedure.run_bind hbatch]
          exact hbroken
        · right
          refine ⟨batch :: accepted, os ++ os', failure, t'',
            .accepted (backlog ∘ observe) hbody hattempts hdeliveries, ?_, ?_⟩
          · rw [Progress.after_cons, Progress.after_one]
            exact hrun
          · exact congrArg (os ++ ·) hrunLog

section

variable {body : List UInt8} {left attempt : Nat} {t t' : Trace} {os : List Occurrence}
  {result : Except PushError Nat} {batches accepted : List (List Record)}
  {failure : Option PushError}

theorem Attempts.store (h : Attempts c s body left attempt t os result t') :
    t'.store.db = t.store.db ∧ t'.store.isOpen = t.store.isOpen := by
  induction h with
  | accepted | exhausted | cancelled => exact ⟨rfl, rfl⟩
  | again _ _ _ _ _ ih => exact ih

theorem Deliveries.store (h : Deliveries c s batches t accepted os failure t') :
    t'.store.db = t.store.db ∧ t'.store.isOpen = t.store.isOpen := by
  induction h with
  | finished | tooLong => exact ⟨rfl, rfl⟩
  | failed _ _ hattempts => exact hattempts.store
  | accepted _ _ hattempts _ ih =>
    exact ⟨ih.1.trans hattempts.store.1, ih.2.trans hattempts.store.2⟩

theorem Deliveries.split (h : Deliveries c s batches t accepted os failure t') :
    (∃ rest, batches = accepted ++ rest) ∧ (failure = none → accepted = batches) := by
  induction h with
  | finished => exact ⟨⟨[], rfl⟩, fun _ => rfl⟩
  | tooLong => exact ⟨⟨_, rfl⟩, by simp⟩
  | failed => exact ⟨⟨_, rfl⟩, by simp⟩
  | accepted _ _ _ _ ih =>
    obtain ⟨⟨rest, hrest⟩, hall⟩ := ih
    exact ⟨⟨rest, by rw [hrest, List.cons_append]⟩, fun hnone => by rw [hall hnone]⟩

end

variable {store : Store} {records : List Record}

/-- The log of a flush that runs alone. -/
def aloneLog (c : PusherConfig) (s : Surroundings) (store : Store) : List Occurrence :=
  (flush c).log s ⟨store, [], [], s.signal matches .already⟩

/-- The result of a flush that has stopped for a reason, or for none. -/
def outcome (c : PusherConfig) (records : List Record) : Option PushError → Except PushError Report
  | some e => .error e
  | none => .ok ⟨records.length, records.length, (pack c.maxBytes records).length,
      (seriesOf c.stem records).length⟩

theorem confirms_none {table : Table} (ht : table ∈ store.db.table) (at_ : Instant) :
    Confirms store.db [] at_ store.db := by
  refine .marked (fun h => h.1 rfl) ht ?_
  rw [List.map_nil, Table.confirm_nil]
  exact congrArg (fun table => ({ store.db with table } : Database)) ht

/-- What a flush does after its batches. -/
def conclude (c : PusherConfig) (start : Instant) (selected : Nat)
    (sent : Progress × Option PushError) : Procedure (Except PushError Report) := do
  confirm c start sent.1.ids
  match sent.2 with
  | some e => .finish (.error e)
  | none => .finish (.ok ⟨selected, sent.1.ids.length, sent.1.batches, sent.1.series⟩)

theorem log_confirm (c : PusherConfig) (start : Instant) (ids : List String) (t : Trace) :
    (confirm c start ids).log s t = [] := by
  unfold confirm
  split
  next => rfl
  next =>
    let counted := t.counted (·.addProcessed c.endpoint ids.length.toUInt64)
    rcases hmark : (Session.call (Session.markSent ids start)).run counted.store with
      ⟨result, store⟩
    have hlog := Procedure.log_mark (α := Unit) (s := s) (t := counted) hmark
    rw [Procedure.log, hlog]
    cases result <;> rfl

/-- A flush that has something to send sends its batches. -/
theorem flush_sends (hpending : Pending store records) (hne : records ≠ []) (hkey : s.key ≠ "")
    {t : Trace} (ht : t.store = store) :
    let sends := sendBatches c s.key records.length ⟨[], 0, 0⟩ (pack c.maxBytes records) >>=
      conclude c s.now records.length
    let counted := t.counted (·.setBacklog c.endpoint records.length.toUInt64)
    (flush c).run s t = sends.run s counted ∧ (flush c).log s t = sends.log s counted := by
  subst ht
  rw [flush]
  constructor
  · rw [Procedure.run, Procedure.run_select hpending.run]
    dsimp only
    rw [Procedure.run_count, if_neg hne, Procedure.run, if_neg hkey]
    rfl
  · rw [Procedure.log, Procedure.log_select hpending.run]
    dsimp only
    rw [Procedure.log, if_neg hne, Procedure.log, if_neg hkey]
    rfl

/-- A flush is the sending of its batches and a confirmation of those accepted. -/
theorem alone_deliveries (hpending : Pending store records) (hkey : s.key ≠ "")
    (hstore : ∀ table ∈ store.db.table, table.Lawful) :
    ((alone c s store).1 = none ∧ (alone c s store).2.signalled = false) ∨
      ∃ accepted failure t₀ t₁ t, t₀.signalled = (s.signal matches .already) ∧
        t₁.signalled = t.signalled ∧
        Deliveries c s (pack c.maxBytes records) t₀ accepted (aloneLog c s store) failure t₁ ∧
        alone c s store = (some (outcome c records failure), t) ∧
        Confirms store.db accepted.flatten s.now t.store.db := by
  obtain ⟨begun, hbegun⟩ : ∃ begun : Trace, begun = ⟨store, [], [], s.signal matches .already⟩ :=
    ⟨_, rfl⟩
  have halone : alone c s store = (flush c).run s begun := by rw [hbegun]; rfl
  have haloneLog : aloneLog c s store = (flush c).log s begun := by rw [hbegun]; rfl
  have hstart : begun.store = store := by rw [hbegun]
  have hsignalled : begun.signalled = (s.signal matches .already) := by rw [hbegun]
  obtain ⟨hopen, table, htable, -⟩ := id hpending
  by_cases hne : records = []
  · right
    subst hne
    have hrun : (flush c).run s begun = (some (.ok ⟨0, 0, 0, 0⟩),
        begun.counted (·.setBacklog c.endpoint (0 : Nat).toUInt64)) := by
      rw [flush, Procedure.run, Procedure.run_select (hstart ▸ hpending.run)]
      rfl
    have hlog : (flush c).log s begun = [] := by
      rw [flush, Procedure.log, Procedure.log_select (hstart ▸ hpending.run)]
      rfl
    rw [halone, haloneLog, hrun, hlog]
    refine ⟨[], none, begun.counted (·.setBacklog c.endpoint (0 : Nat).toUInt64), _, _, hsignalled,
      rfl, .finished, rfl, ?_⟩
    change Confirms store.db [] s.now begun.store.db
    rw [hstart]
    exact confirms_none htable s.now
  obtain ⟨hrun, hlog⟩ := flush_sends (c := c) hpending hne hkey hstart
  rcases deliveries_sendBatches c s s.key records.length ⟨[], 0, 0⟩ (pack c.maxBytes records)
    (begun.counted (·.setBacklog c.endpoint records.length.toUInt64)) with hbroken |
    ⟨accepted, os, failure, t₁, hdeliveries, hsent, hsentLog⟩
  · left
    rw [halone, hrun]
    exact hbroken.bind _
  right
  obtain ⟨hdb, hisOpen⟩ := hdeliveries.store
  have hstartDb : begun.store.db = store.db := congrArg Store.db hstart
  have hstartOpen : begun.store.isOpen = true := (congrArg Store.isOpen hstart).trans hopen
  have hdb : t₁.store.db = store.db := hdb.trans hstartDb
  have hisOpen : t₁.store.isOpen = true := hisOpen.trans hstartOpen
  obtain ⟨t, hconfirm, -, -, hconfirms⟩ := run_confirm (s := s) c s.now accepted.flatten hisOpen
    ((congrArg Database.table hdb).trans htable) (hstore table htable)
  have hsame : t.signalled = t₁.signalled := by
    have hsignal := Procedure.run_signalled s (confirm c s.now (accepted.flatten.map (·.id))) t₁
    rw [hconfirm, log_confirm, List.any_nil, Bool.or_false] at hsignal
    exact hsignal
  have hids : ((⟨[], 0, 0⟩ : Progress).after c.stem accepted).ids =
      accepted.flatten.map (·.id) := by simp [Progress.after]
  have hconclude : (conclude c s.now records.length
      ((⟨[], 0, 0⟩ : Progress).after c.stem accepted, failure)).run s t₁ =
        (some (outcome c records failure), t) := by
    rw [conclude, hids, Procedure.run_bind hconfirm]
    cases failure with
    | some e => rfl
    | none =>
      have hall := hdeliveries.split.2 rfl
      simp only [Procedure.run, outcome, hall, Progress.after, flatten_pack, List.length_map,
        List.nil_append, Nat.zero_add]
  have hconcludeLog : (conclude c s.now records.length
      ((⟨[], 0, 0⟩ : Progress).after c.stem accepted, failure)).log s t₁ = [] := by
    rw [conclude, hids, Procedure.log_bind hconfirm, log_confirm]
    cases failure <;> rfl
  rw [halone, haloneLog, hrun, hlog, Procedure.run_bind hsent, Procedure.log_bind hsent, hsentLog,
    hconclude, hconcludeLog, List.append_nil]
  exact ⟨accepted, failure, begun.counted (·.setBacklog c.endpoint records.length.toUInt64), t₁, t,
    hsignalled, hsame.symm, hdeliveries, rfl, hdb ▸ hconfirms⟩

theorem alone_signalled (c : PusherConfig) (s : Surroundings) (store : Store) :
    (alone c s store).2.signalled =
      ((s.signal matches .already) || (aloneLog c s store).any Occurrence.isCut) :=
  Procedure.run_signalled s (flush c) _

theorem alone_log (c : PusherConfig) (s : Surroundings) (store : Store) :
    (alone c s store).2.posts.reverse = (aloneLog c s store).filterMap Occurrence.body? ∧
      (alone c s store).2.pauses.reverse = (aloneLog c s store).filterMap Occurrence.delay? := by
  obtain ⟨hposts, hpauses⟩ :=
    Procedure.run_log s (flush c) ⟨store, [], [], s.signal matches .already⟩
  rw [List.append_nil] at hposts hpauses
  exact ⟨List.reverse_eq_iff.mpr hposts, List.reverse_eq_iff.mpr hpauses⟩

theorem alone_replies (c : PusherConfig) (s : Surroundings) (store : Store) :
    (aloneLog c s store).filterMap Occurrence.reply? =
      (List.range (alone c s store).2.posts.length).map fun n => (s.reply n).1 := by
  have hreplies := Procedure.log_replies s (flush c) ⟨store, [], [], s.signal matches .already⟩
  have hlength := congrArg List.length (alone_log c s store).1
  rw [List.length_reverse] at hlength
  rw [hlength, List.range_eq_range']
  exact hreplies

theorem aloneLog_unselected {e : StoreError}
    (h : (Session.call (Session.findAll .pending)).run store = (.error e, store)) :
    aloneLog c s store = [] := by
  rw [aloneLog, flush, Procedure.log, Procedure.log_select h]
  rfl

end Flush

end ClusterOutbox
