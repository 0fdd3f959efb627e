import ClusterOutbox.Proofs.Retention.Pass

namespace ClusterOutbox

/-- A call that writes to the store, with what it takes from outside. -/
inductive Call
  | create (m : Moment) (r : Record)
  | update (m : Moment) (r : Record)
  | upsert (m : Moment) (r : Record)
  | markSent (ids : List String) (at_ : Stamp)
  | delete (id : String)
  | observeAll (items : List (Moment × Record))
  | pass (now : Instant) (retention : Duration)

namespace Call

def session : Call → Session Unit
  | create m r => do let _ ← Session.create m r
  | update m r => do let _ ← Session.update m r
  | upsert m r => do let _ ← Session.upsert m r
  | markSent ids t => do let _ ← Session.markAt t.micros ids
  | delete id => do let _ ← Session.delete id
  | observeAll items => do let _ ← Session.observeAll items
  | pass now retention => do let _ ← Keeper.pass now retention

def perform (c : Call) (s : Store) : Except StoreError Unit × Store := (Session.call c.session).run s

def newIds : Call → List String
  | create m _ | upsert m _ => [m.freshId]
  | observeAll items => items.map (·.1.freshId)
  | _ => []

def deletes : Call → Bool
  | delete _ | pass _ _ => true
  | _ => false

/-- The delivery that a call stores as it is told. -/
def sentAt : Call → Option Stamp
  | create _ r | update _ r => r.sentAt
  | markSent _ t => some t
  | _ => none

/-- The ids to be given are new and differ, and a delivery told lies on the calendar. -/
def Admissible (c : Call) (s : Store) : Prop :=
  c.newIds.Nodup ∧ (∀ id ∈ c.newIds, s.IsFresh id) ∧ ∀ t ∈ c.sentAt, ¬ Stamp.last < t

instance (c : Call) (s : Store) : Decidable (c.Admissible s) :=
  inferInstanceAs (Decidable (_ ∧ _ ∧ _))

end Call

namespace Store

/-- The stores that calls lead to from an empty one. -/
inductive Reached : Store → Prop
  | fresh : Reached .fresh
  | call {s : Store} (c : Call) : Reached s → c.Admissible s → Reached (c.perform s).2

theorem ready_fresh : Store.fresh.Ready [] :=
  ⟨⟨rfl, rfl, ⟨by simp, by simp, by simp⟩⟩, rfl, rfl⟩

end Store

namespace Call

variable {s : Store} {es : Ledger} {c : Call}

theorem Admissible.freshIds (hc : c.Admissible s) (hs : s.Shows es) : es.FreshIds c.newIds where
  nodup := hc.1
  nonempty id hid := (hc.2.1 id hid).1
  absent id hid := hs.id_ne_of_isFresh (hc.2.1 id hid)

def ledger : Call → Ledger → Ledger
  | create m r, es => es.create m r
  | update m r, es => es.update m r
  | upsert m r, es => es.upsert m r
  | markSent ids t, es => es.confirm ids t.storeTime
  | delete id, es => es.remove id
  | observeAll items, es => es.upsertAll items
  | pass now retention, es => es.reclaim (now.back retention).micros

/-- What a call gives back; only a change of an id that is not stored fails. -/
def outcome : Call → Ledger → Except StoreError Unit
  | update _ r, es =>
    match es.byId? r.id with
    | some _ => .ok ()
    | none => .error (if r.id = "" then .missingKey else .notFound)
  | _, _ => .ok ()

theorem distinct_ledger (hd : es.Distinct) (hf : es.FreshIds c.newIds) :
    (c.ledger es).Distinct := by
  cases c with
  | create m r =>
    exact Ledger.distinct_create hd (hf.nonempty _ List.mem_cons_self) (hf.absent _ List.mem_cons_self) r
  | update m r => exact Ledger.distinct_update hd m r
  | upsert m r =>
    exact Ledger.distinct_upsert hd (hf.nonempty _ List.mem_cons_self) (hf.absent _ List.mem_cons_self) r
  | markSent ids t => exact Ledger.distinct_confirm hd ids t.storeTime
  | delete id => exact hd.sublist List.filter_sublist
  | observeAll items => exact Ledger.distinct_upsertAll hd hf
  | pass now retention => exact hd.sublist List.filter_sublist

theorem evolves_ledger (c : Call) (es : Ledger) : es.Evolves c.newIds (c.ledger es) := by
  cases c with
  | create m r => exact Ledger.evolves_create m r
  | update m r => exact Ledger.evolves_update m r
  | upsert m r => exact Ledger.evolves_upsert m r
  | markSent ids t => exact Ledger.evolves_confirm ids t.storeTime
  | delete id => exact Ledger.evolves_remove id
  | observeAll items => exact Ledger.evolves_upsertAll items es
  | pass now retention => exact Ledger.evolves_reclaim (now.back retention).micros

theorem keeps_ledger (h : c.deletes = false) : es.Keeps (c.ledger es) := by
  cases c with
  | create m r => exact Ledger.keeps_create m r
  | update m r => exact Ledger.keeps_update m r
  | upsert m r => exact Ledger.keeps_upsert m r
  | markSent ids t => exact Ledger.keeps_confirm ids t.storeTime
  | observeAll items => exact Ledger.keeps_upsertAll items es
  | delete id => simp [deletes] at h
  | pass now retention => simp [deletes] at h

theorem run_discard {α : Type} {work : Session α} {a : α} {s' : Store}
    (h : work.run s = (.ok a, s')) : (do let _ ← work : Session Unit).run s = (.ok (), s') := by
  rw [Session.run_bind_ok h, Session.run_pure]

/-- A call does to the rows what it does to the entries, inside a transaction and outside. -/
theorem perform_shows (hs : s.Shows es) (hopen : s.isOpen = true) (hc : c.Admissible s) :
    (c.perform s).1 = c.outcome es ∧ (c.perform s).2.Shows (c.ledger es) ∧
      (c.perform s).2.isOpen = true ∧ (c.perform s).2.db.saved = s.db.saved := by
  have hf := hc.freshIds hs
  have hput : (s.put (c.ledger es)).Shows (c.ledger es) := hs.put (distinct_ledger hs.distinct hf)
  rw [perform, Session.run_call hopen]
  cases c with
  | create m r =>
    have hid := hf.absent m.freshId List.mem_cons_self
    rw [session, run_discard (Session.run_create hs hid hc.2.2)]
    exact ⟨rfl, hput, hopen, rfl⟩
  | update m r =>
    cases he : es.byId? r.id with
    | some e =>
      rw [session, run_discard (Session.run_update_found hs he hc.2.2)]
      exact ⟨by rw [outcome, he], hput, hopen, rfl⟩
    | none =>
      have hsame : es.update m r = es := Ledger.update_absent he
      rw [session, Session.run_bind_error (Session.run_update_missing hs he hc.2.2), ledger, hsame]
      exact ⟨by rw [outcome, he], ⟨hs.table, hs.writable, hs.distinct⟩, hopen, rfl⟩
  | upsert m r =>
    have hid := hf.absent m.freshId List.mem_cons_self
    rw [session, run_discard (Session.run_upsert hs hid r)]
    exact ⟨rfl, hput, hopen, rfl⟩
  | markSent ids t =>
    rw [session, run_discard (Session.run_markAt hs ids (hc.2.2 t rfl))]
    exact ⟨rfl, ⟨hput.table, hput.writable, hput.distinct⟩, hopen, rfl⟩
  | delete id =>
    rw [session, run_discard (Session.run_delete hs id)]
    exact ⟨rfl, hput, hopen, rfl⟩
  | observeAll items =>
    rw [session, run_discard (Session.run_observeAll hs hopen hf)]
    exact ⟨rfl, hput, hopen, rfl⟩
  | pass now retention =>
    rw [session, run_discard (Keeper.run_pass_shows hs hopen now retention)]
    exact ⟨rfl, hput, hopen, rfl⟩

theorem perform_spec (hs : s.Ready es) (hc : c.Admissible s) :
    (c.perform s).1 = c.outcome es ∧ (c.perform s).2.Ready (c.ledger es) := by
  obtain ⟨hresult, hshows, hopen, hsaved⟩ := perform_shows hs.toShows hs.isOpen hc
  exact ⟨hresult, hshows, hopen, hsaved.trans hs.saved⟩

end Call

theorem Store.Reached.ready {s : Store} (hs : s.Reached) : ∃ es, s.Ready es := by
  induction hs with
  | fresh => exact ⟨[], Store.ready_fresh⟩
  | call c _ hc ih =>
    obtain ⟨es, hes⟩ := ih
    exact ⟨c.ledger es, (c.perform_spec hes hc).2⟩

end ClusterOutbox
