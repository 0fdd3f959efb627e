import ClusterOutbox.Proofs.Store.OrderedMap
import ClusterOutbox.Proofs.Store.Soundness

namespace ClusterOutbox

/-- What is kept of a resource beside its identity. -/
structure Holding where
  id : String
  ns : Option String
  labels : Option LabelMap
  annotations : Option LabelMap
  metricLabels : LabelMap
  created : StoreTime
  updated : StoreTime
  sentAt : Option StoreTime
deriving DecidableEq

namespace Holding

def ofRecord (id : String) (now : StoreTime) (sentAt : Option StoreTime) (r : Record) : Holding where
  id := id
  ns := r.ns
  labels := r.labels
  annotations := r.annotations
  metricLabels := r.metricLabels
  created := now
  updated := now
  sentAt := sentAt

/-- Takes the maps of a record; the change is not before the creation, and has not been sent. -/
def refresh (now : StoreTime) (r : Record) (h : Holding) : Holding :=
  { h with
    labels := r.labels
    annotations := r.annotations
    metricLabels := r.metricLabels
    updated := now.later h.created
    sentAt := none }

/-- Bytes of the text of a map, none where it is not tracked. -/
def textSize : Option LabelMap → Nat
  | some m => (String.ofList m.toJson).utf8ByteSize
  | none => 0

def record (i : Identity) (h : Holding) : Record where
  id := h.id
  kind := i.1
  name := i.2.1
  ns := h.ns
  labels := h.labels
  annotations := h.annotations
  metricLabels := h.metricLabels
  created := h.created.stamp
  updated := h.updated.stamp
  sentAt := h.sentAt.map (·.stamp)
  size := (i.2.1.utf8ByteSize + (h.ns.map String.utf8ByteSize).getD 0 + textSize h.labels +
    textSize h.annotations).toUInt64

end Holding

/-- The resources known, by their identities, in the order in which they were first seen. -/
abbrev Catalog := OrderedMap Identity Holding

namespace Catalog

def create (m : Moment) (r : Record) (c : Catalog) : Catalog :=
  c.add r.identity (.ofRecord m.freshId m.now.storeTime (r.sentAt.map Stamp.storeTime) r)

def upsert (m : Moment) (r : Record) (c : Catalog) : Catalog :=
  if r.identity ∈ c.keys then c.modify r.identity (.refresh m.now.storeTime r)
  else c.add r.identity (.ofRecord m.freshId m.now.storeTime none r)

def confirm (ids : List String) (t : StoreTime) (c : Catalog) : Catalog :=
  c.map fun _ h => if h.id ∈ ids then { h with sentAt := some t } else h

def remove (id : String) (c : Catalog) : Catalog := c.filter fun _ h => h.id ≠ id

def listing (c : Catalog) : List Record := c.entries.map fun e => e.2.record e.1

end Catalog

/-- A call that adds, changes, confirms or deletes, with what it takes from outside. -/
inductive Edit
  | create (m : Moment) (r : Record)
  | upsert (m : Moment) (r : Record)
  | markSent (ids : List String) (at_ : Stamp)
  | delete (id : String)

namespace Edit

def call : Edit → Call
  | create m r => .create m r
  | upsert m r => .upsert m r
  | markSent ids t => .markSent ids t
  | delete id => .delete id

/-- The work of an edit; an upsert tells its outcome. -/
def session : Edit → Session (Option Outcome)
  | create m r => do
    let _ ← Session.create m r
    return none
  | upsert m r => do
    let o ← Session.upsert m r
    return some o.outcome
  | markSent ids t => do
    let _ ← Session.markAt t.micros ids
    return none
  | delete id => do
    let _ ← Session.delete id
    return none

def perform (e : Edit) (s : Store) : Except StoreError (Option Outcome) × Store :=
  (Session.call e.session).run s

/-- Performs edits one after another. -/
def performAll : List Edit → Store → List (Except StoreError (Option Outcome)) × Store
  | [], s => ([], s)
  | e :: rest, s =>
    let (result, s) := e.perform s
    let (results, s) := performAll rest s
    (result :: results, s)

/-- What an edit makes of a catalog. -/
def apply : Edit → Catalog → Option Outcome × Catalog
  | create m r, c => (none, c.create m r)
  | upsert m r, c => (some (if r.identity ∈ c.keys then .updated else .inserted), c.upsert m r)
  | markSent ids t, c => (none, c.confirm ids t.storeTime)
  | delete id, c => (none, c.remove id)

def applyAll : List Edit → Catalog → List (Option Outcome) × Catalog
  | [], c => ([], c)
  | e :: rest, c =>
    let (outcome, c) := e.apply c
    let (outcomes, c) := applyAll rest c
    (outcome :: outcomes, c)

/-- Each edit gives a new id. -/
def FreshAll : List Edit → Store → Prop
  | [], _ => True
  | e :: rest, s => e.call.Fresh s ∧ FreshAll rest (e.perform s).2

instance decidableFreshAll : (edits : List Edit) → (s : Store) → Decidable (FreshAll edits s)
  | [], _ => isTrue trivial
  | e :: rest, s =>
    have := decidableFreshAll rest (e.perform s).2
    inferInstanceAs (Decidable (_ ∧ _))

end Edit

def Entry.holding (e : Entry) : Holding where
  id := e.id
  ns := e.ns
  labels := e.labels
  annotations := e.annotations
  metricLabels := e.metricLabels
  created := e.created
  updated := e.updated
  sentAt := e.sentAt

theorem Entry.record_holding (e : Entry) : e.holding.record e.identity = e.record := by
  have hns : (Cell.ofText? e.ns).size = (e.ns.map String.utf8ByteSize).getD 0 := by
    cases e.ns <;> rfl
  have hmap : ∀ m : Option LabelMap, (Row.labelsCell m).size = Holding.textSize m := by
    intro m
    cases m <;> rfl
  simp only [Holding.record, Entry.record, Row.size, Entry.row, hns, hmap]
  rfl

namespace Catalog

/-- A catalog that holds what a ledger does, entry by entry. -/
def Mirrors (c : Catalog) (es : Ledger) : Prop :=
  c.entries = es.map fun e => (e.identity, e.holding)

variable {c : Catalog} {es : Ledger}

theorem Mirrors.mem_keys (h : c.Mirrors es) {i : Identity} :
    i ∈ c.keys ↔ es.holder? i ≠ none := by
  rw [OrderedMap.keys, h, List.map_map, List.mem_map, ne_eq, Ledger.holder?_eq_none]
  simp

theorem Mirrors.listing (h : c.Mirrors es) : c.listing = es.map Entry.record := by
  rw [Catalog.listing, h, List.map_map]
  refine List.map_congr_left ?_
  intro e _
  exact e.record_holding

theorem Mirrors.add {e : Entry} (h : c.Mirrors es) (habsent : es.holder? e.identity = none) :
    Mirrors (c.add e.identity e.holding) (es ++ [e]) := by
  have hnot : e.identity ∉ c.keys := fun hk => h.mem_keys.mp hk habsent
  rw [Mirrors, OrderedMap.entries_add_of_not_mem hnot, h, List.map_append]
  rfl

theorem Mirrors.map (h : c.Mirrors es) {f : Identity → Holding → Holding} {g : Entry → Entry}
    (hident : ∀ e, (g e).identity = e.identity)
    (hholding : ∀ e : Entry, (g e).holding = f e.identity e.holding) :
    Mirrors (c.map f) (es.map g) := by
  rw [Mirrors, OrderedMap.entries_map, h, List.map_map, List.map_map]
  refine List.map_congr_left ?_
  intro e _
  exact Prod.ext (hident e).symm (hholding e).symm

theorem Mirrors.create (h : c.Mirrors es) (m : Moment) (r : Record) :
    Mirrors (c.create m r) (es.create m r) := by
  unfold Catalog.create Ledger.create
  cases hold : es.holder? r.identity with
  | none => exact h.add (e := .ofRecord _ _ _ r) hold
  | some old =>
    have hin : r.identity ∈ c.keys := h.mem_keys.mpr (by simp [hold])
    rw [Mirrors, OrderedMap.entries_add_of_mem hin]
    exact h

theorem Mirrors.upsert (h : c.Mirrors es) (m : Moment) (r : Record) :
    Mirrors (c.upsert m r) (es.upsert m r) := by
  unfold Catalog.upsert Ledger.upsert
  cases hold : es.holder? r.identity with
  | none =>
    rw [if_neg (fun hk => h.mem_keys.mp hk hold)]
    exact h.add (e := .ofRecord _ _ _ r) hold
  | some old =>
    rw [if_pos (h.mem_keys.mpr (by simp [hold]))]
    refine h.map ?_ ?_
    · intro e
      exact (Ledger.continues_refresh m r e).identity
    · intro e
      split <;> rfl

theorem Mirrors.confirm (h : c.Mirrors es) (ids : List String) (t : StoreTime) :
    Mirrors (c.confirm ids t) (es.confirm ids t) := by
  refine h.map ?_ ?_
  · intro e
    exact (Ledger.continues_confirm ids t e).identity
  · intro e
    by_cases hid : e.id ∈ ids
    · rw [if_pos hid, if_pos (show e.holding.id ∈ ids from hid)]
      rfl
    · rw [if_neg hid, if_neg (show e.holding.id ∉ ids from hid)]

theorem Mirrors.remove (h : c.Mirrors es) (id : String) :
    Mirrors (c.remove id) (es.remove id) := by
  rw [Mirrors, Catalog.remove, OrderedMap.entries_filter, h, List.filter_map]
  rfl

end Catalog

namespace Edit

variable {s : Store} {es : Ledger} {c : Catalog}

theorem mirrors_apply (h : c.Mirrors es) (e : Edit) :
    Catalog.Mirrors (e.apply c).2 (e.call.ledger es) := by
  cases e with
  | create m r => exact h.create m r
  | upsert m r => exact h.upsert m r
  | markSent ids t => exact h.confirm ids t.storeTime
  | delete id => exact h.remove id

/-- An edit does to the rows what it does to the catalog. -/
theorem perform_spec (hs : s.Ready es) (h : c.Mirrors es) {e : Edit} (he : e.call.Admissible s) :
    (e.perform s).1 = .ok (e.apply c).1 ∧ (e.perform s).2.Ready (e.call.ledger es) := by
  have hf := he.freshIds hs.toShows
  have hput : (s.put (e.call.ledger es)).Ready (e.call.ledger es) :=
    hs.put (Call.distinct_ledger hs.distinct hf)
  rw [perform, Session.run_call hs.isOpen]
  cases e with
  | create m r =>
    have hid := hf.absent m.freshId List.mem_cons_self
    rw [session, Session.run_bind_ok (Session.run_create hs.toShows hid he.2.2)]
    exact ⟨rfl, hput⟩
  | upsert m r =>
    have hid := hf.absent m.freshId List.mem_cons_self
    rw [session, Session.run_bind_ok (Session.run_upsert hs.toShows hid r)]
    refine ⟨?_, hput⟩
    rw [Session.run_pure, apply, Ledger.observation]
    cases hold : es.holder? r.identity with
    | none => rw [if_neg (fun hk => h.mem_keys.mp hk hold)]
    | some old => rw [if_pos (h.mem_keys.mpr (by simp [hold]))]
  | markSent ids t =>
    rw [session, Session.run_bind_ok (Session.run_markAt hs.toShows ids (he.2.2 t rfl))]
    exact ⟨rfl, ⟨hput.table, hput.writable, hput.distinct⟩, hput.isOpen, hput.saved⟩
  | delete id =>
    rw [session, Session.run_bind_ok (Session.run_delete hs.toShows id)]
    exact ⟨rfl, hput⟩

/-- The edit with a delivery on the calendar, where it tells one. -/
def capped : Edit → Edit
  | create m r => create m r.capped
  | markSent ids t => markSent ids t.capped
  | e => e

theorem call_capped (e : Edit) : e.capped.call = e.call.capped := by
  cases e <;> rfl

theorem caps_session (e : Edit) : Session.Caps id e.session e.capped.session := by
  cases e with
  | create m r => exact (Session.caps_create m r).bind fun _ => Session.caps_pure none
  | upsert m r => exact (Session.caps_upsert m r).bind fun o => Session.caps_pure (some o.outcome)
  | markSent ids t => exact (Session.caps_markAt t ids).bind fun _ => Session.caps_pure none
  | delete i => exact (Session.caps_delete i).bind fun _ => Session.caps_pure none

theorem perform_capped (e : Edit) (s : Store) :
    e.capped.perform s.capped = ((e.perform s).1, (e.perform s).2.capped) := by
  have hcaps := e.caps_session.call s
  rwa [Except.map_id] at hcaps

/-- A catalog keeps deliveries as the store tells them again. -/
theorem apply_capped (e : Edit) (c : Catalog) : e.capped.apply c = e.apply c := by
  cases e with
  | create m r =>
    have hsent : r.capped.sentAt.map Stamp.storeTime = r.sentAt.map Stamp.storeTime := by
      rw [Record.capped, Option.map_map]
      exact congrArg (r.sentAt.map ·) (funext Stamp.storeTime_capped)
    simp only [capped, apply, Catalog.create, hsent]
    rfl
  | markSent ids t =>
    rw [capped, apply, apply, t.storeTime_capped]
  | upsert m r | delete id => rfl

theorem performAll_spec {edits : List Edit} (hs : s.capped.Ready es) (h : c.Mirrors es)
    (he : FreshAll edits s) :
    (performAll edits s).1 = (applyAll edits c).1.map .ok ∧
      ∃ es', (performAll edits s).2.capped.Ready es' ∧ (applyAll edits c).2.Mirrors es' := by
  induction edits generalizing s es c with
  | nil => exact ⟨rfl, es, hs, h⟩
  | cons e rest ih =>
    have hadmissible : e.capped.call.Admissible s.capped := e.call_capped ▸ he.1.capped
    obtain ⟨hresult, hready⟩ := perform_spec hs h hadmissible
    have hmirrors := mirrors_apply h e.capped
    rw [perform_capped] at hresult hready
    rw [apply_capped] at hresult hmirrors
    obtain ⟨hresults, hrest⟩ := ih hready hmirrors he.2
    refine ⟨?_, hrest⟩
    rw [performAll, applyAll, List.map_cons]
    exact congrArg₂ List.cons hresult hresults

/-- Whatever edits are made, all succeed, and the outcomes told are those of the catalog. The rows
listed are those of the catalog too, where every row reads. -/
theorem listing_of_edits {edits : List Edit} (he : FreshAll edits .fresh) :
    (performAll edits .fresh).1 = (applyAll edits .empty).1.map .ok ∧
      ((performAll edits .fresh).2.Reads →
        (Session.call (Session.findAll .all)).run (performAll edits .fresh).2 =
          (.ok (applyAll edits .empty).2.listing, (performAll edits .fresh).2)) := by
  have hfresh : Store.fresh.capped.Ready [] := Store.ready_fresh
  obtain ⟨hresults, es, hready, hmirrors⟩ := performAll_spec hfresh
    (show Catalog.Mirrors .empty [] from rfl) he
  refine ⟨hresults, fun hreads => ?_⟩
  have hopen : (performAll edits .fresh).2.isOpen = true := hready.isOpen
  rw [Session.run_call hopen, Session.run_findAll (hready.toShows.of_reads hreads)
    (p := fun _ => true) (fun _ => rfl), hmirrors.listing, List.filter_true]

/-- A node is created as sent, observed with an empty namespace after the clock has stepped back,
confirmed and deleted, and observed again. -/
def reappearance : List Edit :=
  [.create ⟨⟨10000000000, by decide, by decide⟩, "a"⟩
      { Record.fresh .node "node-1" none with sentAt := some .epoch },
    .upsert ⟨⟨4000000000, by decide, by decide⟩, "b"⟩ (.fresh .node "node-1" (some "")),
    .markSent ["a"] (Instant.sampleSecond 5).stamp,
    .delete "a",
    .upsert ⟨⟨6000000000, by decide, by decide⟩, "c"⟩ (.fresh .node "node-1" none)]

example : (applyAll reappearance .empty).1 =
    [none, some .updated, none, none, some .inserted] := by decide +kernel

theorem listing_of_edits_reappearance :
    (performAll reappearance .fresh).1 = (applyAll reappearance .empty).1.map .ok ∧
      (performAll reappearance .fresh).2.Reads ∧
      (Session.call (Session.findAll .all)).run (performAll reappearance .fresh).2 =
        (.ok (applyAll reappearance .empty).2.listing, (performAll reappearance .fresh).2) := by
  have he : FreshAll reappearance .fresh := by decide +kernel
  have hreads : (performAll reappearance .fresh).2.Reads := by decide +kernel
  obtain ⟨hresults, hlisting⟩ := listing_of_edits he
  exact ⟨hresults, hreads, hlisting hreads⟩

/-- A pod created as delivered after the calendar is there, and cannot be listed. -/
theorem listing_of_unreadable_fails :
    let edits := [create ⟨.sampleSecond 10, "a"⟩ { Record.fresh .pod "web-0" (some "default") with
      sentAt := some ⟨8210266876799, 1000000000, by decide, by decide, by decide, by decide⟩ }]
    FreshAll edits .fresh ∧ (performAll edits .fresh).1 = [.ok none] ∧
      (applyAll edits .empty).2.listing.map (·.name) = ["web-0"] ∧
      ((Session.call (Session.findAll .all)).run (performAll edits .fresh).2).1 =
        .error (.invalidData "column 9: 8210266876800000000 out of range") := by
  decide +kernel

end Edit

end ClusterOutbox
