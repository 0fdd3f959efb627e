import ClusterOutbox.Proofs.Store.LookUp
import ClusterOutbox.Proofs.Store.Visited

namespace ClusterOutbox

namespace Ledger

variable {es : Ledger}

/-- The entry that an observation leaves of its identity. -/
def observed (m : Moment) (r : Record) (es : Ledger) : Entry :=
  match es.holder? r.identity with
  | some old => old.overwrite r m.now.storeTime none
  | none => .ofRecord m.freshId m.now.storeTime none r

theorem identity_observed (m : Moment) (r : Record) : (es.observed m r).identity = r.identity := by
  unfold observed
  cases hold : es.holder? r.identity with
  | none => rfl
  | some old => exact (mem_of_holder? hold).2

theorem ns_observed (m : Moment) (r : Record) :
    (es.observed m r).ns = (es.holder? r.identity).elim r.ns Entry.ns := by
  unfold observed
  cases es.holder? r.identity <;> rfl

theorem observed_mem (m : Moment) (r : Record) : es.observed m r ∈ es.upsert m r := by
  rw [mem_upsert, observed]
  cases hold : es.holder? r.identity with
  | none => exact .inr (.inr ⟨holder?_eq_none.mp hold, rfl⟩)
  | some old =>
    obtain ⟨hmem, hident⟩ := mem_of_holder? hold
    exact .inr (.inl ⟨old, hmem, hident, rfl⟩)

/-- An observation reports the entry that it leaves, but for the namespace, which is the one that it
was given. -/
theorem record_observation (m : Moment) (r : Record) :
    (es.observation m r).record = { (es.observed m r).record with ns := r.ns } := by
  have hkind : (es.observed m r).kind = r.kind := congrArg Prod.fst (identity_observed m r)
  have hname : (es.observed m r).name = r.name := congrArg (·.2.1) (identity_observed m r)
  unfold observation observed at *
  cases hold : es.holder? r.identity with
  | none => rfl
  | some old =>
    simp only [hold] at hkind hname ⊢
    simp only [Entry.record, hkind, hname]
    rfl

end Ledger

namespace Store

variable {s : Store}

/-- What an observation reports is the record that is stored where the identity is new or has been
stored with the namespace given; otherwise it is that record with the namespace given. -/
theorem Visited.observation_stored (hs : s.Visited) {m : Moment} (hm : s.IsFresh m.freshId)
    (r : Record) :
    ∃ o s' stored, (Session.upsert m r).run s = (.ok o, s') ∧
      (Session.observe m r).run s = (.ok o, s') ∧
      (Session.call (Session.get? o.record.id)).run s' = (.ok stored, s') ∧
      o.record = { stored with ns := r.ns } ∧ stored.nsKey = r.nsKey ∧
      (o.record = stored ↔
        ∀ found, ((Session.call (Session.findFirst (.identity r.kind r.name r.ns))).run s).1 =
          .ok found → found.ns = r.ns) := by
  obtain ⟨es, hes⟩ := hs.stands
  have hid := hes.id_ne_of_isFresh hm
  have hupsert := Session.run_upsert hes.toShows hid r
  have hobserve : (Session.observe m r).run s = (.ok (es.observation m r), s.put (es.upsert m r)) := by
    rw [Session.observe, Session.run_call hes.isOpen, hupsert]
  have hput : (s.put (es.upsert m r)).Shows (es.upsert m r) :=
    hes.put (Ledger.distinct_upsert hes.distinct hm.1 hid r)
  have hrecord : (es.observation m r).record = { (es.observed m r).record with ns := r.ns } :=
    Ledger.record_observation m r
  have hsame : (es.observation m r).record.id = (es.observed m r).id := by
    rw [hrecord]
    rfl
  have hget : (Session.call (Session.get? (es.observation m r).record.id)).run
      (s.put (es.upsert m r)) = (.ok (es.observed m r).record, s.put (es.upsert m r)) := by
    rw [hsame, Session.run_call (s := s.put (es.upsert m r)) hes.isOpen, Session.run_get hput,
      Ledger.byId?_of_mem hput.distinct (Ledger.observed_mem m r)]
  refine ⟨_, _, _, hupsert, hobserve, hget, hrecord, ?_, ?_⟩
  · exact congrArg (·.2.2) (Ledger.identity_observed m r)
  · have hns : (es.observation m r).record = (es.observed m r).record ↔
        (es.observed m r).ns = r.ns := by
      rw [hrecord]
      refine ⟨fun h => (congrArg Record.ns h).symm, fun h => ?_⟩
      rw [← h]
      rfl
    rw [hns, Ledger.ns_observed, Session.run_call hes.isOpen,
      Session.run_findFirst_identity hes.toShows]
    cases es.holder? r.identity with
    | none => simp
    | some old => simp [Entry.record]

/-- A node observed without a namespace. -/
def oneNode : Store :=
  ((Call.upsert ⟨.sampleSecond 10, "a"⟩ (.fresh .node "node-1" none)).perform .fresh).2

theorem observation_stored_oneNode :
    ∃ o s' stored,
      (Session.upsert ⟨.sampleSecond 20, "b"⟩ (.fresh .node "node-1" (some ""))).run oneNode =
        (.ok o, s') ∧
      (Session.observe ⟨.sampleSecond 20, "b"⟩ (.fresh .node "node-1" (some ""))).run oneNode =
        (.ok o, s') ∧
      (Session.call (Session.get? o.record.id)).run s' = (.ok stored, s') ∧
      o.record = { stored with ns := some "" } ∧ stored.nsKey = "" ∧
      (o.record = stored ↔
        ∀ found, ((Session.call (Session.findFirst (.identity .node "node-1" (some "")))).run
          oneNode).1 = .ok found → found.ns = some "") :=
  have hs : oneNode.Visited := .call _ .fresh (by decide)
  hs.observation_stored (by decide) (.fresh .node "node-1" (some ""))

/-- The node observed anew with an empty namespace: it is the same one, and keeps having none. -/
theorem oneNode_reports_namespace :
    oneNode.Visited ∧ oneNode.IsFresh "b" ∧
    let anew := (Session.observe ⟨.sampleSecond 20, "b"⟩
      (.fresh .node "node-1" (some ""))).run oneNode
    anew.1.map (fun o => (o.outcome, o.record.id, o.record.ns)) =
      .ok (.updated, "a", some "") ∧
    ((Session.call (Session.get? "a")).run anew.2).1.map (fun r => r.ns) = .ok none :=
  ⟨.call _ .fresh (by decide), by decide, by decide +kernel, by decide +kernel⟩

end Store

end ClusterOutbox
