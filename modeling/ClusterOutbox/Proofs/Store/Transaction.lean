import ClusterOutbox.Proofs.Store.Execution

namespace ClusterOutbox

/-- A store inside a transaction, or outside of every one. -/
def Store.within (saved : Option (Option Table)) (s : Store) : Store :=
  { s with db := { s.db with saved } }

theorem Store.Shows.within {s : Store} {es : Ledger} (hs : s.Shows es)
    (saved : Option (Option Table)) : (s.within saved).Shows es :=
  ⟨hs.table, hs.writable, hs.distinct⟩

/-- An open store that shows entries, with no transaction open. -/
structure Store.Ready (s : Store) (es : Ledger) : Prop extends s.Shows es where
  isOpen : s.isOpen = true
  saved : s.db.saved = none

theorem Store.Ready.put {s : Store} {es es' : Ledger} (hs : s.Ready es) (hd : es'.Distinct) :
    (s.put es').Ready es' :=
  ⟨hs.toShows.put hd, hs.isOpen, hs.saved⟩

namespace Session

variable {s : Store} {es : Ledger}

/-- Work that succeeds whether a transaction is open or not does as a unit what it does alone. -/
theorem run_tx_within {α : Type} {work : Session α} {a : α} {s s' : Store}
    (h : ∀ saved, work.run (s.within saved) = (.ok a, s'.within saved)) :
    (tx work).run s = (.ok a, s'.within s.db.saved) := by
  by_cases hs : s.db.saved = none
  · rw [run_tx_ok hs (h (some s.db.table)) (by simp [Store.within]), hs]
    rfl
  · rw [run_tx_joined work hs]
    exact h s.db.saved

/-- The deliveries of the ids stored are confirmed, and counted as often as they are named. -/
theorem run_confirmation (hs : s.Shows es) (ids : List String) (t : StoreTime) :
    (markAt t.micros ids).run s =
      (.ok (ids.filter fun id => (es.byId? id).isSome).length,
        { s.put (es.confirm ids t) with prepared := true }) := by
  let confirmed : Store := { s.put (es.confirm ids t) with prepared := true }
  have hwork : ∀ saved, (do prepare; markEach t.micros ids : Session Nat).run (s.within saved) =
      (.ok (ids.filter fun id => (es.byId? id).isSome).length, confirmed.within saved) := by
    intro saved
    have hprepared : Store.Shows { s.within saved with prepared := true } es :=
      ⟨hs.table, hs.writable, hs.distinct⟩
    rw [run_bind_ok (run_prepare (hs.within saved).table)]
    exact run_markEach hprepared t ids
  exact run_tx_within hwork

theorem run_markSent (hs : s.Shows es) (ids : List String) (t : Instant) :
    (markSent ids t).run s =
      (.ok (ids.filter fun id => (es.byId? id).isSome).length,
        { s.put (es.confirm ids t.storeTime) with prepared := true }) :=
  run_confirmation hs ids t.storeTime

theorem run_markAt (hs : s.Shows es) (ids : List String) {t : Stamp} (ht : ¬ Stamp.last < t) :
    (markAt t.micros ids).run s =
      (.ok (ids.filter fun id => (es.byId? id).isSome).length,
        { s.put (es.confirm ids t.storeTime) with prepared := true }) := by
  rw [← Stamp.micros_storeTime ht]
  exact run_confirmation hs ids t.storeTime

theorem run_upsertAll {items : List (Moment × Record)} (hs : s.Shows es)
    (hf : es.FreshIds (items.map (·.1.freshId))) :
    (items.mapM fun (m, r) => upsert m r).run s =
      (.ok (Ledger.observations items es), s.put (es.upsertAll items)) := by
  induction items generalizing s es with
  | nil =>
    rw [List.mapM_nil, run_pure, show es.upsertAll [] = es from rfl, hs.put_self]
    rfl
  | cons item items ih =>
    obtain ⟨m, r⟩ := item
    have hid := hf.absent m.freshId List.mem_cons_self
    have hd := Ledger.distinct_upsert hs.distinct (hf.nonempty m.freshId List.mem_cons_self) hid r
    rw [List.mapM_cons, run_bind_ok (run_upsert hs hid r), run_bind_ok (ih (hs.put hd) (hf.upsert r)),
      run_pure]
    rfl

/-- Observations made as a unit are those made one after another. -/
theorem run_observeAll {items : List (Moment × Record)} (hs : s.Shows es) (hopen : s.isOpen = true)
    (hf : es.FreshIds (items.map (·.1.freshId))) :
    (observeAll items).run s = (.ok (Ledger.observations items es), s.put (es.upsertAll items)) := by
  rw [observeAll, run_call hopen]
  have hwork : ∀ saved, (items.mapM fun (m, r) => upsert m r).run (s.within saved) =
      (.ok (Ledger.observations items es), (s.put (es.upsertAll items)).within saved) :=
    fun saved => run_upsertAll (hs.within saved) hf
  exact run_tx_within hwork

end Session

end ClusterOutbox
