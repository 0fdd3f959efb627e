import ClusterOutbox.Proofs.Delivery.History

namespace ClusterOutbox

namespace Log

theorem latest?_cons_same (m : Moment) (r : Record) (log : Log) :
    latest? ((m, r) :: log) r.identity = some (m, r) := by
  simp [latest?]

theorem latest?_cons_other {r : Record} {i : Identity} (h : r.identity ≠ i) (m : Moment)
    (log : Log) : latest? ((m, r) :: log) i = log.latest? i := by
  simp [latest?, h]

end Log

/-- A record with the identity and the maps of another. -/
structure Record.Repeats (r a : Record) : Prop where
  identity : r.identity = a.identity
  labels : r.labels = a.labels
  annotations : r.annotations = a.annotations
  metricLabels : r.metricLabels = a.metricLabels

theorem Record.Repeats.trans {a b c : Record} (h : a.Repeats b) (h' : b.Repeats c) : a.Repeats c :=
  ⟨h.identity.trans h'.identity, h.labels.trans h'.labels, h.annotations.trans h'.annotations,
    h.metricLabels.trans h'.metricLabels⟩

namespace Entry

/-- An entry as an observation leaves it, but for its delivery. -/
structure Holds (e : Entry) (m : Moment) (a : Record) : Prop where
  content : e.record.Repeats a
  updated : e.updated = m.now.storeTime.later e.created

theorem Holds.micros_updated {e : Entry} {m : Moment} {a : Record} (h : e.Holds m a) :
    e.updated.micros = max m.now.micros e.created.micros := by
  rw [h.updated, StoreTime.micros_later, Instant.micros_storeTime]

theorem Holds.confirm {e : Entry} {m : Moment} {a : Record} (h : e.Holds m a) (t : StoreTime) :
    (e.confirm t).Holds m a :=
  ⟨⟨h.content.1, h.content.2, h.content.3, h.content.4⟩, h.updated⟩

theorem holds_overwrite {e : Entry} {r : Record} (h : e.identity = r.identity) (m : Moment) :
    (e.overwrite r m.now.storeTime none).Holds m r := ⟨⟨h, rfl, rfl, rfl⟩, rfl⟩

theorem holds_ofRecord (m : Moment) (r : Record) :
    (ofRecord m.freshId m.now.storeTime none r).Holds m r :=
  ⟨⟨rfl, rfl, rfl, rfl⟩, (ite_self _).symm⟩

end Entry

namespace Ledger

def Tells (es : Ledger) (log : Log) : Prop :=
  ∀ e ∈ es, ∃ m a, log.latest? e.identity = some (m, a) ∧ e.Holds m a

/-- What was observed of late was the last of its identity, and has not been confirmed. -/
def Awaits (es : Ledger) (since log : Log) : Prop :=
  ∀ i entry, since.latest? i = some entry →
    log.latest? i = some entry ∧ ∃ e ∈ es, e.identity = i ∧ e.sentAt = none

variable {es : Ledger} {log since : Log}

theorem upsert_spec {m : Moment} {r : Record} {e' : Entry} (h : e' ∈ es.upsert m r)
    (hident : e'.identity = r.identity) : e'.Holds m r ∧ e'.sentAt = none := by
  rcases mem_upsert.mp h with ⟨_, hne⟩ | ⟨e, _, hsame, rfl⟩ | ⟨_, rfl⟩
  · exact absurd hident hne
  · exact ⟨Entry.holds_overwrite hsame m, rfl⟩
  · exact ⟨Entry.holds_ofRecord m r, rfl⟩

theorem exists_upsert (es : Ledger) (m : Moment) (r : Record) :
    ∃ e' ∈ es.upsert m r, e'.identity = r.identity := by
  cases h : es.holder? r.identity with
  | none =>
    exact ⟨_, mem_upsert.mpr (.inr (.inr ⟨holder?_eq_none.mp h, rfl⟩)), rfl⟩
  | some old =>
    obtain ⟨hold, hident⟩ := mem_of_holder? h
    exact ⟨_, mem_upsert.mpr (.inr (.inl ⟨old, hold, hident, rfl⟩)), hident⟩

theorem Tells.upsert (h : es.Tells log) (m : Moment) (r : Record) :
    (es.upsert m r).Tells ((m, r) :: log) := by
  intro e' he'
  by_cases hident : e'.identity = r.identity
  · rw [hident]
    exact ⟨m, r, Log.latest?_cons_same m r log, (upsert_spec he' hident).1⟩
  · rcases mem_upsert.mp he' with ⟨he, _⟩ | ⟨e, _, hsame, rfl⟩ | ⟨_, rfl⟩
    · rw [Log.latest?_cons_other (Ne.symm hident)]
      exact h e' he
    · exact absurd hsame hident
    · exact absurd rfl hident

theorem Tells.sublist {es' : Ledger} (h : es.Tells log) (hsub : es'.Sublist es) :
    Tells es' log := fun e he => h e (hsub.subset he)

theorem Tells.confirm (h : es.Tells log) (ids : List String) (t : StoreTime) :
    (es.confirm ids t).Tells log := by
  intro e' he'
  obtain ⟨e, he, ⟨_, rfl⟩ | ⟨_, rfl⟩⟩ := mem_confirm.mp he'
  · obtain ⟨m, a, hlast, hholds⟩ := h e he
    exact ⟨m, a, hlast, hholds.confirm t⟩
  · exact h e' he

theorem Awaits.upsert (h : es.Awaits since log) (m : Moment) (r : Record) :
    (es.upsert m r).Awaits ((m, r) :: since) ((m, r) :: log) := by
  intro i entry hlast
  by_cases hident : r.identity = i
  · subst hident
    rw [Log.latest?_cons_same] at hlast ⊢
    obtain ⟨e', he', hident⟩ := exists_upsert es m r
    exact ⟨hlast, e', he', hident, (upsert_spec he' hident).2⟩
  · rw [Log.latest?_cons_other hident] at hlast ⊢
    obtain ⟨hlog, e, he, rfl, hsent⟩ := h i entry hlast
    exact ⟨hlog, e, mem_upsert.mpr (.inl ⟨he, Ne.symm hident⟩), rfl, hsent⟩

/-- A pass leaves what has not been confirmed. -/
theorem Awaits.reclaim (h : es.Awaits since log) (limit : Int) :
    (es.reclaim limit).Awaits since log := by
  intro i entry hlast
  obtain ⟨hlog, e, he, hident, hsent⟩ := h i entry hlast
  have hkept : e.isReclaimable limit = false := by simp [Entry.isReclaimable, hsent]
  exact ⟨hlog, e, mem_reclaim.mpr ⟨he, hkept⟩, hident, hsent⟩

end Ledger

namespace World

variable {c : PusherConfig} {w : World} {es : Ledger}

theorem History.tells (h : History c w es) : es.Tells w.observed :=
  h.ledger_induction (P := fun _ log es => es.Tells log) (by simp [Ledger.Tells])
    (fun m r ih => ih.upsert m r) (fun _ _ ih => ih.sublist List.filter_sublist) (fun _ ih => ih)
    (fun ids t _ ih => ih.confirm ids t.storeTime)

theorem awaits_nil {es : Ledger} {log : Log} : es.Awaits [] log := by
  intro i entry hlast
  simp [Log.latest?] at hlast

theorem History.awaits (h : History c w es) {f : Flight} (hf : w.flight = some f) :
    es.Awaits f.since w.observed := by
  induction h generalizing f with
  | start => simp [World.start] at hf
  | @observe w es m r _ _ _ ih =>
    obtain ⟨g, hg, rfl⟩ := Option.map_eq_some_iff.mp hf
    exact (ih hg).upsert m r
  | pass now retention _ ih => exact (ih hf).reclaim _
  | begin _ _ => exact Option.some.inj hf ▸ awaits_nil
  | stop _ _ => simp at hf
  | readClock t _ hg _ ih =>
    have hawaits := ih hg
    exact Option.some.inj hf ▸ hawaits
  | select _ _ _ _ _ => exact Option.some.inj hf ▸ awaits_nil
  | post reply elapsed _ hg _ ih =>
    have hawaits := ih hg
    exact Option.some.inj hf ▸ hawaits
  | mark n _ _ _ _ => exact Option.some.inj hf ▸ awaits_nil
  | markFailed e _ _ _ _ => exact Option.some.inj hf ▸ awaits_nil
  | quiet change _ hg _ ih =>
    have hawaits := ih hg
    exact Option.some.inj hf ▸ hawaits
  | count change _ ih => exact ih hf
  | tick t _ ih => exact ih hf

end World

end ClusterOutbox
