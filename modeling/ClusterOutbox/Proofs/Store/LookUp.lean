import ClusterOutbox.Proofs.Store.Soundness

namespace ClusterOutbox

namespace Row

/-- A row whose id, where it is an old one, becomes a new one. -/
def rename (old new : String) (r : Row) : Row :=
  if r.id = .text old then { r with id := .text new } else r

end Row

/-- An entry whose id, where it is an old one, becomes a new one. -/
def Entry.rename (old new : String) (e : Entry) : Entry :=
  if e.id = old then { e with id := new } else e

theorem Entry.row_rename (old new : String) (e : Entry) :
    (e.rename old new).row = e.row.rename old new := by
  unfold Entry.rename Row.rename
  by_cases h : e.id = old <;> simp [Entry.row, h]

def Record.rename (old new : String) (r : Record) : Record :=
  if r.id = old then { r with id := new } else r

def Store.rename (old new : String) (s : Store) : Store :=
  { s with db := { s.db with
      table := s.db.table.map fun t => { t with rows := t.rows.map (Row.rename old new) } } }

namespace Session

/-- The record of an identity, where there is one. -/
def lookUp (kind : Kind) (name : String) (ns : Option String) : Session (Option Record) :=
  tryCatch (do return some (← findFirst (.identity kind name ns))) fun e =>
    if e = .notFound then return none else throw e

/-- Looks the identity of a record up, then adds the record or changes the one found: two calls, and
nothing happens between them. -/
def findThenWrite (m : Moment) (r : Record) : Session Observation := do
  match ← call (lookUp r.kind r.name r.ns) with
  | none =>
    let record ← call (create m { r with sentAt := none })
    return ⟨.inserted, record⟩
  | some found =>
    let record ← call (update m { r with id := found.id, created := found.created, sentAt := none })
    return ⟨.updated, record⟩

variable {s : Store} {es : Ledger}

theorem selects_identity_row (e : Entry) (r : Record) :
    (Query.identity r.kind r.name r.ns).selects e.row = decide (e.identity = r.identity) := by
  simp [Query.selects, Entry.row, Entry.identity, Record.identity, Record.nsKey, Entry.code_inj,
    Bool.beq_eq_decide_eq, Bool.and_assoc]

theorem run_findFirst_identity (hs : s.Shows es) (r : Record) :
    (findFirst (.identity r.kind r.name r.ns)).run s =
      (match es.holder? r.identity with
        | some e => .ok e.record
        | none => .error .notFound, s) := by
  rw [run_findFirst hs]
  simp only [selects_identity_row]
  rfl

theorem run_lookUp (hs : s.Shows es) (r : Record) :
    (lookUp r.kind r.name r.ns).run s =
      (.ok ((es.holder? r.identity).map Entry.record), s) := by
  have hfind := run_findFirst_identity hs r
  unfold lookUp
  rw [run_tryCatch]
  cases hold : es.holder? r.identity with
  | none =>
    rw [hold] at hfind
    rw [run_bind_error hfind]
    rfl
  | some e =>
    rw [hold] at hfind
    rw [run_bind_ok hfind]
    rfl

end Session

namespace Ledger

variable {es : Ledger} {m m' : Moment} {r : Record}

theorem create_eq_upsert (hold : es.holder? r.identity = none) :
    es.create m { r with sentAt := none } = es.upsert m r := by
  have hidentity : Record.identity { r with sentAt := none } = r.identity := rfl
  rw [create, hidentity, upsert, hold]
  rfl

/-- The entry that has an identity is changed as the one that has its id. -/
theorem update_eq_upsert (hd : es.Distinct) {old : Entry} (hold : es.holder? r.identity = some old)
    (created : Stamp) :
    es.update m { r with id := old.id, created, sentAt := none } = es.upsert m r := by
  obtain ⟨hmem, hident⟩ := mem_of_holder? hold
  rw [update, upsert, hold]
  refine List.map_congr_left ?_
  intro e he
  by_cases h : e.id = old.id
  · obtain rfl := eq_of_id_eq hd he hmem h
    rw [if_pos h, if_pos hident]
    rfl
  · have hne : e.identity ≠ r.identity := by
      intro hk
      exact h (congrArg Entry.id (eq_of_identity_eq hd he hmem (hk.trans hident.symm)))
    rw [if_neg h, if_neg hne]

theorem creation_eq_observation (hold : es.holder? r.identity = none) :
    ⟨.inserted, es.creation m { r with sentAt := none }⟩ = es.observation m r := by
  have hidentity : Record.identity { r with sentAt := none } = r.identity := rfl
  simp only [creation, observation, hidentity, hold]
  rfl

theorem rename_upsert (hnow : m.now = m'.now) (hid : ∀ e ∈ es, e.id ≠ m'.freshId) :
    (es.upsert m' r).map (Entry.rename m'.freshId m.freshId) = es.upsert m r := by
  have hkept : ∀ l : Ledger, (∀ e ∈ l, e.id ≠ m'.freshId) →
      l.map (Entry.rename m'.freshId m.freshId) = l := by
    intro l hl
    refine (List.map_congr_left ?_).trans (List.map_id l)
    intro e he
    exact if_neg (hl e he)
  unfold upsert
  cases hold : es.holder? r.identity with
  | none =>
    have hnew : (Entry.ofRecord m'.freshId m'.now.storeTime none r).rename m'.freshId m.freshId =
        .ofRecord m.freshId m.now.storeTime none r := by
      rw [hnow]
      exact if_pos rfl
    simp only [List.map_append, hkept es hid, List.map_cons, hnew, List.map_nil]
  | some old =>
    rw [hkept _ ?_, hnow]
    intro e' he'
    obtain ⟨e, he, rfl⟩ := List.mem_map.mp he'
    rw [(continues_refresh m' r e).id]
    exact hid e he

theorem rename_observation (hnow : m.now = m'.now) (hid : ∀ e ∈ es, e.id ≠ m'.freshId) :
    (⟨(es.observation m' r).outcome,
      (es.observation m' r).record.rename m'.freshId m.freshId⟩ : Observation) =
        es.observation m r := by
  cases hold : es.holder? r.identity with
  | none =>
    simp only [observation, hold, hnow]
    congr 1
    exact if_pos rfl
  | some old =>
    have hne := hid old (mem_of_holder? hold).1
    simp only [observation, hold, hnow]
    congr 1
    exact if_neg hne

end Ledger

namespace Session

variable {s : Store} {es : Ledger}

theorem rename_put (s : Store) (es : Ledger) (old new : String) :
    (s.put es).rename old new = s.put (es.map (Entry.rename old new)) := by
  simp only [Store.rename, Store.put, Option.map_some, Ledger.table, List.map_map]
  simp only [Function.comp_def, Entry.row_rename]

theorem run_observe (hs : s.Shows es) (hopen : s.isOpen = true) {m : Moment}
    (hid : ∀ e ∈ es, e.id ≠ m.freshId) (r : Record) :
    (observe m r).run s = (.ok (es.observation m r), s.put (es.upsert m r)) := by
  rw [observe, run_call hopen, run_upsert hs hid]

theorem run_findThenWrite (hs : s.Shows es) (hopen : s.isOpen = true) {m : Moment}
    (hid : ∀ e ∈ es, e.id ≠ m.freshId) (r : Record) :
    (findThenWrite m r).run s = (.ok (es.observation m r), s.put (es.upsert m r)) := by
  have hlook : (call (lookUp r.kind r.name r.ns)).run s =
      (.ok ((es.holder? r.identity).map Entry.record), s) := by
    rw [run_call hopen, run_lookUp hs]
  rw [findThenWrite, run_bind_ok hlook]
  cases hold : es.holder? r.identity with
  | none =>
    have hcreate : (call (create m { r with sentAt := none })).run s = _ :=
      (run_call hopen).trans (run_create hs hid (by simp))
    rw [← Ledger.create_eq_upsert hold, ← Ledger.creation_eq_observation hold]
    exact run_bind_ok hcreate _
  | some old =>
    have hfound : es.byId? old.id = some old :=
      Ledger.byId?_of_mem hs.distinct (Ledger.mem_of_holder? hold).1
    have hupdate : (call (update m { r with
        id := old.id, created := old.created.stamp, sentAt := none })).run s = _ :=
      (run_call hopen).trans (run_update_found hs hfound (by simp))
    rw [← Ledger.update_eq_upsert hs.distinct hold old.created.stamp, Ledger.observation, hold]
    exact run_bind_ok hupdate _

/-- Where every row reads, an observation does what a look-up followed by a creation or a change does,
but for the id that a new record is given. -/
theorem observe_agrees (hs : s.Arises) (hreads : s.Reads) (r : Record) {m m' : Moment}
    (hnow : m.now = m'.now) (hm : s.IsFresh m.freshId) (hm' : s.IsFresh m'.freshId) :
    ∃ o o' s₁ s₂, (observe m r).run s = (.ok o, s₁) ∧ (findThenWrite m' r).run s = (.ok o', s₂) ∧
      s₁ = s₂.rename m'.freshId m.freshId ∧
      o = ⟨o'.outcome, o'.record.rename m'.freshId m.freshId⟩ ∧
      (o.outcome = .inserted ↔
        ((call (findFirst (.identity r.kind r.name r.ns))).run s).1 = .error .notFound) := by
  obtain ⟨hopen, es, hes⟩ := hs.shows hreads
  have hid := hes.id_ne_of_isFresh hm
  have hid' := hes.id_ne_of_isFresh hm'
  refine ⟨_, _, _, _, run_observe hes hopen hid r, run_findThenWrite hes hopen hid' r, ?_, ?_, ?_⟩
  · rw [rename_put, Ledger.rename_upsert hnow hid']
  · rw [Ledger.rename_observation hnow hid']
  · rw [run_call hopen, run_findFirst_identity hes]
    cases hold : es.holder? r.identity <;> simp [Ledger.observation, hold]

/-- The pod is observed anew after the clock has stepped back. -/
theorem observe_agrees_steppedBack :
    Store.onePod.Reads ∧ ∃ o o' s₁ s₂,
      (observe ⟨⟨4000000000, by decide, by decide⟩, "b"⟩
        (.fresh .pod "web-0" (some "default"))).run Store.onePod = (.ok o, s₁) ∧
      (findThenWrite ⟨⟨4000000000, by decide, by decide⟩, "c"⟩
        (.fresh .pod "web-0" (some "default"))).run Store.onePod = (.ok o', s₂) ∧
      s₁ = s₂.rename "c" "b" ∧ o = ⟨o'.outcome, o'.record.rename "c" "b"⟩ ∧
      (o.outcome = .inserted ↔
        ((call (findFirst (.identity .pod "web-0" (some "default")))).run Store.onePod).1 =
          .error .notFound) := by
  have hs : Store.onePod.Arises := .call _ .fresh (by decide)
  have hreads : Store.onePod.Reads := by decide +kernel
  exact ⟨hreads, observe_agrees hs hreads (.fresh .pod "web-0" (some "default")) rfl (by decide)
    (by decide)⟩

/-- The pod told as delivered after the calendar: an observation changes it, and a look-up before
the change fails. -/
theorem observe_passes_unreadable :
    let pod := Record.fresh .pod "web-0" (some "default")
    let observed := (observe ⟨.sampleSecond 20, "b"⟩ pod).run Store.lateDelivered
    let looked := (findThenWrite ⟨.sampleSecond 20, "c"⟩ pod).run Store.lateDelivered
    Store.lateDelivered.Arises ∧ observed.1.map (·.outcome) = .ok .updated ∧
      observed.2.db.rows.map Row.sentAt = [.null] ∧
      looked.1.map (·.outcome) =
        .error (.invalidData "column 9: 8210266876800000000 out of range") ∧
      looked.2.db.rows.map Row.sentAt = [.integer 8210266876800000000] :=
  ⟨.call Store.lateDelivery .fresh (by decide), by decide +kernel, by decide +kernel,
    by decide +kernel, by decide +kernel⟩

end Session

end ClusterOutbox
