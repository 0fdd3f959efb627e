import ClusterOutbox.Proofs.Store.Transaction

namespace ClusterOutbox

namespace Ledger

variable {es : Ledger}

theorem remove_filter (id : String) (ids : List String) :
    (es.remove id).filter (fun e => e.id ∉ ids) = es.filter fun e => e.id ∉ id :: ids := by
  rw [remove, List.filter_filter]
  refine List.filter_congr ?_
  intro e _
  simp [Bool.and_comm]

theorem length_removed (id : String) (ids : List String) :
    (es.filter fun e => e.id = id).length + ((es.remove id).filter fun e => e.id ∈ ids).length =
      (es.filter fun e => e.id ∈ id :: ids).length := by
  induction es with
  | nil => rfl
  | cons e es ih =>
    simp only [remove, List.filter_cons, List.mem_cons, ne_eq] at ih ⊢
    by_cases hid : e.id = id
    · simp only [hid, decide_true, not_true_eq_false, decide_false, if_true, Bool.false_eq_true,
        if_false, List.length_cons, true_or]
      omega
    · by_cases hmem : e.id ∈ ids
      · simp only [hid, hmem, decide_false, Bool.false_eq_true, if_false, not_false_eq_true,
          decide_true, if_true, List.filter_cons, List.length_cons, or_true]
        omega
      · simpa [hid, hmem, List.filter_cons] using ih

theorem mem_reclaimable_ids (hd : es.Distinct) {e : Entry} (he : e ∈ es) (limit : Int) :
    e.id ∈ (es.filter (Entry.isReclaimable limit)).map Entry.id ↔ e.isReclaimable limit = true := by
  constructor
  · intro hid
    obtain ⟨x, hx, hxid⟩ := List.mem_map.mp hid
    obtain ⟨hx, hreclaim⟩ := List.mem_filter.mp hx
    exact eq_of_id_eq hd hx he hxid ▸ hreclaim
  · intro hreclaim
    exact List.mem_map_of_mem (List.mem_filter.mpr ⟨he, hreclaim⟩)

theorem mem_reclaim {limit : Int} {e : Entry} :
    e ∈ es.reclaim limit ↔ e ∈ es ∧ e.isReclaimable limit = false := by
  simp [reclaim]

end Ledger

namespace Keeper

variable {s : Store} {es : Ledger}

theorem run_deleteEach (hs : s.Shows es) (records : List Record) :
    (deleteEach records).run s =
      (.ok (es.filter fun e => e.id ∈ records.map (·.id)).length,
        s.put (es.filter fun e => e.id ∉ records.map (·.id))) := by
  induction records generalizing s es with
  | nil =>
    rw [deleteEach, Session.run_pure]
    simp [hs.put_self]
  | cons r rest ih =>
    have hd : (es.remove r.id).Distinct := hs.distinct.sublist List.filter_sublist
    rw [deleteEach, Session.run_bind_ok (Session.run_delete hs r.id),
      Session.run_bind_ok (ih (hs.put hd)), Session.run_pure, Store.put_put, List.map_cons,
      Ledger.remove_filter, Ledger.length_removed]

/-- A pass deletes the reclaimable entries and counts them. -/
theorem run_pass_shows (hs : s.Shows es) (hopen : s.isOpen = true) (now : Instant)
    (retention : Duration) :
    (pass now retention).run s =
      (.ok (es.filter (Entry.isReclaimable (now.back retention).micros)).length,
        s.put (es.reclaim (now.back retention).micros)) := by
  let limit := (now.back retention).micros
  have hids : ((es.filter (Entry.isReclaimable limit)).map Entry.record).map (·.id) =
      (es.filter (Entry.isReclaimable limit)).map Entry.id := by
    rw [List.map_map]
    rfl
  have hdeleted : (es.filter fun e => e.id ∈ (es.filter (Entry.isReclaimable limit)).map Entry.id) =
      es.filter (Entry.isReclaimable limit) := by
    refine List.filter_congr ?_
    intro e he
    simp only [Ledger.mem_reclaimable_ids hs.distinct he, Bool.decide_eq_true]
  have hleft : (es.filter fun e => e.id ∉ (es.filter (Entry.isReclaimable limit)).map Entry.id) =
      es.reclaim limit := by
    refine List.filter_congr ?_
    intro e he
    simp only [Ledger.mem_reclaimable_ids hs.distinct he, decide_not, Bool.decide_eq_true]
  have hwork : ∀ saved, (Session.findAll (.reclaimable (now.back retention)) >>= deleteEach).run
      (s.within saved) =
        (.ok (es.filter (Entry.isReclaimable limit)).length,
          (s.put (es.reclaim limit)).within saved) := by
    intro saved
    have hfind := Session.run_findAll (hs.within saved)
      (fun e => e.selects_reclaimable_row (now.back retention))
    rw [Session.run_bind_ok hfind, run_deleteEach (hs.within saved), hids, hdeleted, hleft]
    rfl
  rw [pass, Session.run_call hopen]
  exact Session.run_tx_within hwork

theorem run_pass (hs : s.Ready es) (now : Instant) (retention : Duration) :
    (pass now retention).run s =
      (.ok (es.filter (Entry.isReclaimable (now.back retention).micros)).length,
        s.put (es.reclaim (now.back retention).micros)) :=
  run_pass_shows hs.toShows hs.isOpen now retention

end Keeper

end ClusterOutbox
