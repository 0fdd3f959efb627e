import ClusterOutbox.Proofs.Store.Ledger

namespace ClusterOutbox

namespace Ledger

/-- A new entry goes to the end unless its identity is taken. -/
def create (m : Moment) (r : Record) (es : Ledger) : Ledger :=
  match es.holder? r.identity with
  | some _ => es
  | none => es ++ [.ofRecord m.freshId m.now.storeTime (r.sentAt.map Stamp.storeTime) r]

def update (m : Moment) (r : Record) (es : Ledger) : Ledger :=
  es.map fun e =>
    if e.id = r.id then e.overwrite r m.now.storeTime (r.sentAt.map Stamp.storeTime) else e

/-- A new entry goes to the end, or the one of its identity takes its maps and is pending again. -/
def upsert (m : Moment) (r : Record) (es : Ledger) : Ledger :=
  match es.holder? r.identity with
  | some _ =>
    es.map fun e => if e.identity = r.identity then e.overwrite r m.now.storeTime none else e
  | none => es ++ [.ofRecord m.freshId m.now.storeTime none r]

def upsertAll (items : List (Moment × Record)) (es : Ledger) : Ledger :=
  items.foldl (fun es item => es.upsert item.1 item.2) es

def confirm (ids : List String) (t : StoreTime) (es : Ledger) : Ledger :=
  es.map fun e => if e.id ∈ ids then e.confirm t else e

def remove (id : String) (es : Ledger) : Ledger := es.filter fun e => e.id ≠ id

def reclaim (limit : Int) (es : Ledger) : Ledger := es.filter fun e => !e.isReclaimable limit

/-- The record that a creation gives back; an identity taken leaves it the size it came with. -/
def creation (m : Moment) (r : Record) (es : Ledger) : Record :=
  { r with
    id := m.freshId
    created := m.now.storeTime.stamp
    updated := m.now.storeTime.stamp
    size := match es.holder? r.identity with
      | some _ => r.size
      | none =>
        (Entry.ofRecord m.freshId m.now.storeTime (r.sentAt.map Stamp.storeTime) r).row.size.toUInt64 }

def observation (m : Moment) (r : Record) (es : Ledger) : Observation :=
  let (outcome, e) : Outcome × Entry := match es.holder? r.identity with
    | some e => (.updated, e.overwrite r m.now.storeTime none)
    | none => (.inserted, .ofRecord m.freshId m.now.storeTime none r)
  ⟨outcome, { r with
    id := e.id
    created := e.created.stamp
    updated := e.updated.stamp
    sentAt := none
    size := e.row.size.toUInt64 }⟩

def observations : List (Moment × Record) → Ledger → List Observation
  | [], _ => []
  | (m, r) :: items, es => es.observation m r :: observations items (es.upsert m r)

variable {es : Ledger}

theorem mem_upsert {m : Moment} {r : Record} {e' : Entry} :
    e' ∈ es.upsert m r ↔ (e' ∈ es ∧ e'.identity ≠ r.identity) ∨
      (∃ e ∈ es, e.identity = r.identity ∧ e' = e.overwrite r m.now.storeTime none) ∨
      ((∀ e ∈ es, e.identity ≠ r.identity) ∧ e' = .ofRecord m.freshId m.now.storeTime none r) := by
  unfold upsert
  cases h : es.holder? r.identity with
  | none =>
    have hother := holder?_eq_none.mp h
    rw [List.mem_append, List.mem_singleton]
    constructor
    · rintro (he' | he')
      · exact .inl ⟨he', hother e' he'⟩
      · exact .inr (.inr ⟨hother, he'⟩)
    · rintro (⟨he', _⟩ | ⟨e, he, hident, _⟩ | ⟨_, he'⟩)
      · exact .inl he'
      · exact absurd hident (hother e he)
      · exact .inr he'
  | some old =>
    obtain ⟨hold, hident⟩ := mem_of_holder? h
    rw [List.mem_map]
    constructor
    · rintro ⟨e, he, rfl⟩
      by_cases hsame : e.identity = r.identity
      · rw [if_pos hsame]
        exact .inr (.inl ⟨e, he, hsame, rfl⟩)
      · rw [if_neg hsame]
        exact .inl ⟨he, hsame⟩
    · rintro (⟨he', hne⟩ | ⟨e, he, hsame, rfl⟩ | ⟨hother, _⟩)
      · exact ⟨e', he', if_neg hne⟩
      · exact ⟨e, he, if_pos hsame⟩
      · exact absurd hident (hother old hold)

theorem mem_confirm {ids : List String} {t : StoreTime} {e' : Entry} :
    e' ∈ es.confirm ids t ↔
      ∃ e ∈ es, (e.id ∈ ids ∧ e' = e.confirm t) ∨ (e.id ∉ ids ∧ e' = e) := by
  unfold confirm
  rw [List.mem_map]
  refine exists_congr ?_
  intro e
  by_cases h : e.id ∈ ids <;> simp [h, eq_comm]

theorem update_absent {m : Moment} {r : Record} (h : es.byId? r.id = none) : es.update m r = es :=
  map_absent h _

theorem confirm_cons (id : String) (ids : List String) (t : StoreTime) :
    es.confirm (id :: ids) t =
      confirm ids t (es.map fun e => if e.id = id then e.confirm t else e) := by
  unfold confirm
  rw [List.map_map]
  refine List.map_congr_left ?_
  intro e _
  by_cases h : e.id = id <;> simp [h, Entry.confirm]

theorem distinct_create (hd : es.Distinct) {m : Moment} (hne : m.freshId ≠ "")
    (hid : ∀ e ∈ es, e.id ≠ m.freshId) (r : Record) : (es.create m r).Distinct := by
  unfold create
  cases h : es.holder? r.identity with
  | none => exact hd.append hne hid (holder?_eq_none.mp h)
  | some _ => exact hd

theorem distinct_upsert (hd : es.Distinct) {m : Moment} (hne : m.freshId ≠ "")
    (hid : ∀ e ∈ es, e.id ≠ m.freshId) (r : Record) : (es.upsert m r).Distinct := by
  unfold upsert
  cases h : es.holder? r.identity with
  | none => exact hd.append hne hid (holder?_eq_none.mp h)
  | some _ => exact hd.map (fun e => by split <;> rfl) (fun e => by split <;> rfl)

theorem distinct_update (hd : es.Distinct) (m : Moment) (r : Record) : (es.update m r).Distinct :=
  hd.map (fun e => by split <;> rfl) (fun e => by split <;> rfl)

theorem distinct_confirm (hd : es.Distinct) (ids : List String) (t : StoreTime) :
    (es.confirm ids t).Distinct :=
  hd.map (fun e => by split <;> rfl) (fun e => by split <;> rfl)

/-- Every entry continues an earlier one, or has a new id and an identity that none had. -/
def Evolves (newIds : List String) (es es' : Ledger) : Prop :=
  ∀ e' ∈ es', (∃ e ∈ es, e.Continues e') ∨
    (e'.id ∈ newIds ∧ ∀ e ∈ es, e.identity ≠ e'.identity)

def Keeps (es es' : Ledger) : Prop := ∀ e ∈ es, ∃ e' ∈ es', e.Continues e'

theorem Evolves.refl (es : Ledger) : Evolves [] es es :=
  fun e he => .inl ⟨e, he, .refl e⟩

theorem Keeps.refl (es : Ledger) : Keeps es es := fun e he => ⟨e, he, .refl e⟩

theorem Evolves.weaken {ids ids' : List String} {es' : Ledger} (h : Evolves ids es es')
    (hsub : ids ⊆ ids') : Evolves ids' es es' :=
  fun e he => (h e he).imp_right fun hnew => ⟨hsub hnew.1, hnew.2⟩

theorem Keeps.trans {es' es'' : Ledger} (h : Keeps es es') (h' : Keeps es' es'') :
    Keeps es es'' := by
  intro e he
  obtain ⟨e', he', hc⟩ := h e he
  obtain ⟨e'', he'', hc'⟩ := h' e' he'
  exact ⟨e'', he'', hc.trans hc'⟩

/-- An identity that is new later was new before, as long as nothing is dropped between. -/
theorem Evolves.trans {ids ids' : List String} {es' es'' : Ledger} (h : Evolves ids es es')
    (hkeeps : Keeps es es') (h' : Evolves ids' es' es'') : Evolves (ids ++ ids') es es'' := by
  intro e'' he''
  rcases h' e'' he'' with ⟨e', he', hc'⟩ | ⟨hid, hk⟩
  · rcases h e' he' with ⟨e, he, hc⟩ | ⟨hid, hk⟩
    · exact .inl ⟨e, he, hc.trans hc'⟩
    · exact .inr ⟨List.mem_append_left _ (hc'.id ▸ hid), hc'.identity ▸ hk⟩
  · refine .inr ⟨List.mem_append_right _ hid, ?_⟩
    intro e he
    obtain ⟨e', he', hc⟩ := hkeeps e he
    exact hc.identity ▸ hk e' he'

theorem evolves_map {f : Entry → Entry} (hf : ∀ e : Entry, e.Continues (f e)) :
    Evolves [] es (es.map f) := by
  intro e' he'
  obtain ⟨e, he, rfl⟩ := List.mem_map.mp he'
  exact .inl ⟨e, he, hf e⟩

theorem keeps_map {f : Entry → Entry} (hf : ∀ e : Entry, e.Continues (f e)) :
    Keeps es (es.map f) :=
  fun e he => ⟨f e, List.mem_map_of_mem he, hf e⟩

theorem evolves_sublist {es' : Ledger} (h : es'.Sublist es) : Evolves [] es es' :=
  fun e he => .inl ⟨e, h.subset he, .refl e⟩

theorem evolves_append {e : Entry} (hk : ∀ x ∈ es, x.identity ≠ e.identity) :
    Evolves [e.id] es (es ++ [e]) := by
  intro e' he'
  rcases List.mem_append.mp he' with he' | he'
  · exact .inl ⟨e', he', .refl e'⟩
  · obtain rfl := List.mem_singleton.mp he'
    exact .inr ⟨List.mem_singleton_self _, hk⟩

theorem keeps_append (e : Entry) : Keeps es (es ++ [e]) :=
  fun x hx => ⟨x, List.mem_append_left _ hx, .refl x⟩

theorem evolves_create (m : Moment) (r : Record) : Evolves [m.freshId] es (es.create m r) := by
  unfold create
  cases h : es.holder? r.identity with
  | none => exact evolves_append (holder?_eq_none.mp h)
  | some _ => exact (Evolves.refl es).weaken (by simp)

theorem keeps_create (m : Moment) (r : Record) : Keeps es (es.create m r) := by
  unfold create
  cases es.holder? r.identity with
  | none => exact keeps_append _
  | some _ => exact .refl es

theorem continues_refresh (m : Moment) (r : Record) (e : Entry) :
    e.Continues (if e.identity = r.identity then e.overwrite r m.now.storeTime none else e) := by
  split
  · exact e.continues_overwrite r m.now.storeTime none
  · exact .refl e

theorem evolves_upsert (m : Moment) (r : Record) : Evolves [m.freshId] es (es.upsert m r) := by
  unfold upsert
  cases h : es.holder? r.identity with
  | none => exact evolves_append (holder?_eq_none.mp h)
  | some _ => exact (evolves_map (continues_refresh m r)).weaken (by simp)

theorem keeps_upsert (m : Moment) (r : Record) : Keeps es (es.upsert m r) := by
  unfold upsert
  cases es.holder? r.identity with
  | none => exact keeps_append _
  | some _ => exact keeps_map (continues_refresh m r)

theorem continues_update (m : Moment) (r : Record) (e : Entry) :
    e.Continues (if e.id = r.id then
      e.overwrite r m.now.storeTime (r.sentAt.map Stamp.storeTime) else e) := by
  split
  · exact e.continues_overwrite r m.now.storeTime _
  · exact .refl e

theorem evolves_update (m : Moment) (r : Record) : Evolves [] es (es.update m r) :=
  evolves_map (continues_update m r)

theorem keeps_update (m : Moment) (r : Record) : Keeps es (es.update m r) :=
  keeps_map (continues_update m r)

theorem continues_confirm (ids : List String) (t : StoreTime) (e : Entry) :
    e.Continues (if e.id ∈ ids then e.confirm t else e) := by
  split
  · exact ⟨rfl, rfl, rfl, rfl, rfl⟩
  · exact .refl e

theorem evolves_confirm (ids : List String) (t : StoreTime) : Evolves [] es (es.confirm ids t) :=
  evolves_map (continues_confirm ids t)

theorem keeps_confirm (ids : List String) (t : StoreTime) : Keeps es (es.confirm ids t) :=
  keeps_map (continues_confirm ids t)

theorem evolves_remove (id : String) : Evolves [] es (es.remove id) :=
  evolves_sublist List.filter_sublist

theorem evolves_reclaim (limit : Int) : Evolves [] es (es.reclaim limit) :=
  evolves_sublist List.filter_sublist

structure FreshIds (es : Ledger) (ids : List String) : Prop where
  nodup : ids.Nodup
  nonempty : ∀ id ∈ ids, id ≠ ""
  absent : ∀ id ∈ ids, ∀ e ∈ es, e.id ≠ id

theorem FreshIds.upsert {m : Moment} {ids : List String} (hf : FreshIds es (m.freshId :: ids))
    (r : Record) : FreshIds (es.upsert m r) ids where
  nodup := (List.nodup_cons.mp hf.nodup).2
  nonempty id hid := hf.nonempty id (List.mem_cons_of_mem _ hid)
  absent := by
    intro id hid e' he' heq
    rcases evolves_upsert m r e' he' with ⟨e, he, hc⟩ | ⟨hnew, _⟩
    · exact hf.absent id (List.mem_cons_of_mem _ hid) e he (hc.id ▸ heq)
    · -- The entry is the new one, and the ids given later are not its own.
      rw [List.mem_singleton, heq] at hnew
      exact (List.nodup_cons.mp hf.nodup).1 (hnew ▸ hid)

theorem distinct_upsertAll {items : List (Moment × Record)} (hd : es.Distinct)
    (hf : FreshIds es (items.map (·.1.freshId))) : (es.upsertAll items).Distinct := by
  induction items generalizing es with
  | nil => exact hd
  | cons item items ih =>
    have hd' := distinct_upsert hd (hf.nonempty _ List.mem_cons_self)
      (hf.absent _ List.mem_cons_self) item.2
    exact ih hd' (hf.upsert item.2)

theorem keeps_upsertAll (items : List (Moment × Record)) (es : Ledger) :
    Keeps es (es.upsertAll items) := by
  induction items generalizing es with
  | nil => exact .refl es
  | cons item items ih => exact (keeps_upsert item.1 item.2).trans (ih (es.upsert item.1 item.2))

theorem evolves_upsertAll (items : List (Moment × Record)) (es : Ledger) :
    Evolves (items.map (·.1.freshId)) es (es.upsertAll items) := by
  induction items generalizing es with
  | nil => exact .refl es
  | cons item items ih =>
    exact (evolves_upsert item.1 item.2).trans (keeps_upsert item.1 item.2)
      (ih (es.upsert item.1 item.2))

end Ledger

end ClusterOutbox
