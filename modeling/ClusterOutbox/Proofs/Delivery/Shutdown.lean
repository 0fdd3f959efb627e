import ClusterOutbox.Proofs.Delivery.Acknowledged
import ClusterOutbox.Proofs.Delivery.Deliveries

namespace ClusterOutbox

/-- The table with the rows of some ids delivered. -/
def Table.mark (ids : List String) (sentAt : Int) (t : Table) : Table :=
  { t with rows := t.rows.map fun r => if r.id ∈ ids.map Cell.text then deliver sentAt r else r }

namespace Flush

variable {c : PusherConfig} {s : Surroundings}

/-- One request for each batch, up to the first that fails; a batch too long for a block fails before
its request. -/
inductive Single (c : PusherConfig) : List (List Record) → List (List Record) → List Occurrence →
    Option PushError → Prop
  | finished : Single c [] [] [] none
  | tooLong {batch : List Record} {rest : List (List Record)} :
    body? (seriesOf c.stem batch) = none → Single c (batch :: rest) [] [] (some .compress)
  | failed {batch : List Record} {rest : List (List Record)} {body : List UInt8} {reply : Reply}
      {e : PushError} :
    body? (seriesOf c.stem batch) = some body → reply.error? = some e →
    Single c (batch :: rest) [] [.posted body reply] (some (.retriesExhausted 1 e))
  | accepted {batch : List Record} {rest batches : List (List Record)} {body : List UInt8}
      {reply : Reply} {os : List Occurrence} {failure : Option PushError} :
    body? (seriesOf c.stem batch) = some body → reply.error? = none →
    Single c rest batches os failure →
    Single c (batch :: rest) (batch :: batches) (.posted body reply :: os) failure

/-- Requests with one body, each but the last refused and followed by a wait: the last is accepted, or
the wait after it is cut short. -/
inductive Persists (body : List UInt8) : Bool → List Occurrence → Prop
  | accepted {reply : Reply} : reply.error? = none → Persists body true [.posted body reply]
  | cut {reply : Reply} {e : PushError} {delay : Duration} :
    reply.error? = some e → Persists body false [.posted body reply, .waited delay true]
  | again {reply : Reply} {e : PushError} {delay : Duration} {os : List Occurrence}
      {accepted : Bool} :
    reply.error? = some e → Persists body accepted os →
    Persists body accepted (.posted body reply :: .waited delay false :: os)

/-- Batches that are accepted, one after another, and a wait for the next one that is cut short. -/
inductive Interrupted (c : PusherConfig) : List (List Record) → List (List Record) →
    List Occurrence → Prop
  | here {batch : List Record} {rest : List (List Record)} {body : List UInt8}
      {os : List Occurrence} :
    body? (seriesOf c.stem batch) = some body → Persists body false os →
    Interrupted c (batch :: rest) [] os
  | later {batch : List Record} {rest batches : List (List Record)} {body : List UInt8}
      {os os' : List Occurrence} :
    body? (seriesOf c.stem batch) = some body → Persists body true os →
    Interrupted c rest batches os' →
    Interrupted c (batch :: rest) (batch :: batches) (os ++ os')

section

variable {body : List UInt8} {left attempt : Nat} {t t' : Trace} {os : List Occurrence}
  {result : Except PushError Nat} {batches accepted : List (List Record)}
  {failure : Option PushError}

theorem Attempts.once (h : Attempts c s body left attempt t os result t')
    (hsignalled : t.signalled = true) :
    os = [.posted body (s.answer t)] ∧ t'.signalled = true ∧
      result = match (s.answer t).error? with
        | none => .ok attempt
        | some e => .error (.retriesExhausted attempt e) := by
  cases h with
  | accepted hanswer => exact ⟨rfl, hsignalled, by rw [hanswer]⟩
  | exhausted hanswer _ => exact ⟨rfl, hsignalled, by rw [hanswer]⟩
  | cancelled _ hquiet _ _ => cases hsignalled.symm.trans hquiet
  | again _ hquiet _ _ _ => cases hsignalled.symm.trans hquiet

theorem Deliveries.single (h : Deliveries c s batches t accepted os failure t')
    (hsignalled : t.signalled = true) : Single c batches accepted os failure := by
  induction h with
  | finished => exact .finished
  | tooLong _ hbody => exact .tooLong hbody
  | @failed batch rest t t' body os e _ hbody hattempts =>
    obtain ⟨rfl, -, hresult⟩ := hattempts.once hsignalled
    cases hanswer : (s.answer t).error? with
    | none =>
      rw [hanswer] at hresult
      cases hresult
    | some reason =>
      rw [hanswer] at hresult
      cases hresult
      exact .failed hbody hanswer
  | @accepted batch rest batches t t' t'' body os os' n failure _ hbody hattempts _ ih =>
    obtain ⟨rfl, hsignalled', hresult⟩ := hattempts.once hsignalled
    cases hanswer : (s.answer t).error? with
    | none => exact .accepted hbody hanswer (ih hsignalled')
    | some reason =>
      rw [hanswer] at hresult
      cases hresult

/-- What becomes of one body while no shutdown is signalled, unless one is during a wait. -/
theorem Attempts.persists (h : Attempts c s body left attempt t os result t')
    (hquiet : t.signalled = false) :
    (t'.signalled = false ∧ result ≠ .error .cancelled ∧
      ∀ n, result = .ok n → Persists body true os) ∨
    (t'.signalled = true ∧ result = .error .cancelled ∧ Persists body false os) := by
  induction h with
  | accepted hanswer => exact .inl ⟨hquiet, by simp, fun _ _ => .accepted hanswer⟩
  | exhausted _ _ => exact .inl ⟨hquiet, by simp, by simp⟩
  | cancelled hanswer _ _ _ => exact .inr ⟨rfl, rfl, .cut hanswer⟩
  | again hanswer _ _ _ _ ih =>
    rcases ih rfl with ⟨hquiet', hresult, hpersists⟩ | ⟨hsignalled, hresult, hpersists⟩
    · exact .inl ⟨hquiet', hresult, fun n hn => .again hanswer (hpersists n hn)⟩
    · exact .inr ⟨hsignalled, hresult, .again hanswer hpersists⟩

theorem Deliveries.interrupted (h : Deliveries c s batches t accepted os failure t')
    (hquiet : t.signalled = false) (hsignalled : t'.signalled = true) :
    failure = some .cancelled ∧ Interrupted c batches accepted os := by
  induction h with
  | finished => cases hquiet.symm.trans hsignalled
  | tooLong _ _ => cases hquiet.symm.trans hsignalled
  | failed _ hbody hattempts =>
    rcases hattempts.persists hquiet with ⟨hquiet', -⟩ | ⟨-, hresult, hpersists⟩
    · cases hquiet'.symm.trans hsignalled
    · cases hresult
      exact ⟨rfl, .here hbody hpersists⟩
  | @accepted batch rest batches t t' t'' body os os' n failure _ hbody hattempts _ ih =>
    rcases hattempts.persists hquiet with ⟨hquiet', -, hpersists⟩ | ⟨-, hresult, -⟩
    · obtain ⟨hfailure, hinterrupted⟩ := ih hquiet' hsignalled
      exact ⟨hfailure, .later hbody (hpersists n rfl) hinterrupted⟩
    · cases hresult

theorem Persists.ends {done : Bool} (h : Persists body done os) :
    if done then os.any Occurrence.isCut = false
    else ∃ before delay, os = before ++ [.waited delay true] ∧
      before.any Occurrence.isCut = false := by
  induction h with
  | accepted _ => rfl
  | @cut reply e delay _ => exact ⟨[.posted body reply], delay, rfl, rfl⟩
  | @again reply e delay os done _ _ ih =>
    cases done with
    | true => exact ih
    | false =>
      obtain ⟨before, last, rfl, huncut⟩ := ih
      exact ⟨.posted body reply :: .waited delay false :: before, last, rfl, huncut⟩

/-- Nothing comes after the wait that is cut short. -/
theorem Interrupted.ends (h : Interrupted c batches accepted os) :
    ∃ before delay, os = before ++ [.waited delay true] ∧
      before.any Occurrence.isCut = false := by
  induction h with
  | here _ hpersists => exact hpersists.ends
  | @later batch rest batches body os os' _ hpersists _ ih =>
    obtain ⟨before, delay, rfl, huncut⟩ := ih
    have hos : os.any Occurrence.isCut = false := hpersists.ends
    refine ⟨os ++ before, delay, (List.append_assoc ..).symm, ?_⟩
    rw [List.any_append, hos, huncut]
    rfl

end

variable {store : Store} {records : List Record}

theorem Single.delays {batches accepted : List (List Record)} {os : List Occurrence}
    {failure : Option PushError} (h : Single c batches accepted os failure) :
    os.filterMap Occurrence.delay? = [] := by
  induction h with
  | finished | tooLong | failed => rfl
  | accepted _ _ _ ih => exact ih

/-- No guard passes over a record that is pending, so that each one confirmed is marked. -/
theorem Deliverable.confirm_eq (h : Deliverable store records) {table : Table}
    (ht : table ∈ store.db.table) {ids : List String} (hids : ids ⊆ records.map (·.id))
    (sentAt : Int) : table.confirm ids sentAt = table.mark ids sentAt := by
  refine congrArg (fun rows => (⟨rows, table.guards⟩ : Table)) (List.map_congr_left ?_)
  intro row hrow
  by_cases hid : row.id ∈ ids.map Cell.text
  · have hpending : row.id ∈ (table.rows.filter Query.pending.selects).map Row.id := by
      rw [h.ids ht]
      exact List.map_subset Cell.text hids hid
    obtain ⟨other, hother, hsame⟩ := List.mem_map.mp hpending
    obtain ⟨hmem, hselects⟩ := List.mem_filter.mp hother
    obtain rfl := (h.lawful table ht).eq_of_id_eq hmem hrow hsame
    rw [Table.confirmRow, if_pos ⟨hid, h.unskipped table ht other hrow hselects⟩, if_pos hid]
  · rw [Table.confirmRow_absent hid, if_neg hid]

theorem Deliverable.marks (h : Deliverable store records) {batch : List Record} {at_ : Instant}
    {after : Database} (hbatch : batch ⊆ records) (hconfirms : Confirms store.db batch at_ after) :
    ∃ table ∈ store.db.table, after =
      { store.db with table := some (table.mark (batch.map (·.id)) at_.micros) } := by
  have hids : batch.map (·.id) ⊆ records.map (·.id) := List.map_subset _ hbatch
  -- What cannot be confirmed of the batch, cannot be of all that is pending.
  have hmarkable : ¬ store.db.Unmarkable (batch.map (·.id)) :=
    fun hunmarkable => h.markable (hunmarkable.mono hids)
  cases hconfirms with
  | marked _ ht hafter => exact ⟨_, ht, by rw [hafter, h.confirm_eq ht hids]⟩
  | refused hunmarkable => exact absurd hunmarkable hmarkable
  | halted hunmarkable => exact absurd hunmarkable hmarkable

/-- What a flush leaves of its requests and waits, and of the batches accepted. -/
structure Leaves (c : PusherConfig) (s : Surroundings) (store : Store)
    (accepted : List (List Record)) (t : Trace) : Prop where
  posts : t.posts.reverse = (aloneLog c s store).filterMap Occurrence.body?
  replies : (aloneLog c s store).filterMap Occurrence.reply? =
    (List.range t.posts.length).map fun n => (s.reply n).1
  pauses : t.pauses.reverse = (aloneLog c s store).filterMap Occurrence.delay?
  marked : ∃ table ∈ store.db.table, t.store.db =
    { store.db with table := some (table.mark (accepted.flatten.map (·.id)) s.now.micros) }

/-- A flush that tries each batch once, waits for nothing and stops at the first that fails. -/
structure Curtailed (c : PusherConfig) (s : Surroundings) (store : Store) : Prop where
  unselected : (∀ records, ¬ Pending store records) →
    ∃ e t, alone c s store = (some (.error (.store e)), t) ∧ t.posts = [] ∧ t.pauses = []
  selected : ∀ records, Pending store records →
    ∃ accepted failure t, alone c s store = (some (outcome c records failure), t) ∧
      Single c (pack c.maxBytes records) accepted (aloneLog c s store) failure ∧
      t.pauses = [] ∧ Leaves c s store accepted t

/-- A flush that ends with a wait cut short. -/
def Cancelled (c : PusherConfig) (s : Surroundings) (store : Store) : Prop :=
  ∃ records accepted t, Pending store records ∧ alone c s store = (some (.error .cancelled), t) ∧
    Interrupted c (pack c.maxBytes records) accepted (aloneLog c s store) ∧
    (∃ before delay, aloneLog c s store = before ++ [.waited delay true] ∧
      before.any Occurrence.isCut = false) ∧
    Leaves c s store accepted t

theorem leaves_of_confirms (h : Deliverable store records) {accepted : List (List Record)}
    {failure : Option PushError} {t₀ t₁ t : Trace} {result : Option (Except PushError Report)}
    (hdeliveries : Deliveries c s (pack c.maxBytes records) t₀ accepted (aloneLog c s store)
      failure t₁) (halone : alone c s store = (result, t))
    (hconfirms : Confirms store.db accepted.flatten s.now t.store.db) :
    Leaves c s store accepted t := by
  obtain ⟨hposts, hpauses⟩ := alone_log c s store
  have hreplies := alone_replies c s store
  rw [halone] at hposts hpauses hreplies
  obtain ⟨rest, hrest⟩ := hdeliveries.split.1
  have hsub : accepted.flatten ⊆ records := by
    rw [← flatten_pack c.maxBytes records, hrest, List.flatten_append]
    exact List.subset_append_left _ _
  exact ⟨hposts, hreplies, hpauses, h.marks hsub hconfirms⟩

/-- A shutdown known of from the start leaves each batch one attempt; one that comes during a wait
leaves none. Either way the batches accepted are marked. -/
theorem shutdown_curtails (c : PusherConfig) (s : Surroundings) (store : Store) (hkey : s.key ≠ "")
    (hacks : ∀ records, Pending store records → Deliverable store records) :
    Curtailed c { s with signal := .already } store ∧
      ∀ replies patience,
        (aloneLog c { s with signal := .onWait replies patience } store).any Occurrence.isCut →
          Cancelled c { s with signal := .onWait replies patience } store := by
  constructor
  · let s' : Surroundings := { s with signal := .already }
    have hsignalled : (alone c s' store).2.signalled = true := alone_signalled c s' store
    refine ⟨?_, ?_⟩
    · intro hnone
      rcases run_selection store with ⟨e, hselection, -⟩ | ⟨records, -, hpending⟩
      · obtain ⟨t, halone, hposts, -⟩ := alone_unselected (c := c) (s := s') hselection
        have hpauses := (alone_log c s' store).2
        rw [aloneLog_unselected hselection, halone] at hpauses
        exact ⟨e, t, halone, hposts, List.reverse_eq_nil_iff.mp hpauses⟩
      · exact absurd hpending (hnone records)
    · intro records hpending
      have hdeliverable := hacks records hpending
      rcases alone_deliveries (c := c) (s := s') hpending hkey hdeliverable.lawful with
        ⟨-, hbroken⟩ | ⟨accepted, failure, t₀, t₁, t, hstart, -, hdeliveries, halone, hconfirms⟩
      · cases hsignalled.symm.trans hbroken
      have hsingle := hdeliveries.single hstart
      have hleaves := leaves_of_confirms hdeliverable hdeliveries halone hconfirms
      refine ⟨accepted, failure, t, halone, hsingle, ?_, hleaves⟩
      exact List.reverse_eq_nil_iff.mp (hleaves.pauses.trans hsingle.delays)
  · intro replies patience hcut
    let s' : Surroundings := { s with signal := .onWait replies patience }
    have hsignalled : (alone c s' store).2.signalled = true :=
      (alone_signalled c s' store).trans hcut
    rcases run_selection store with ⟨e, hselection, -⟩ | ⟨records, -, hpending⟩
    · rw [aloneLog_unselected hselection] at hcut
      cases hcut
    have hdeliverable := hacks records hpending
    rcases alone_deliveries (c := c) (s := s') hpending hkey hdeliverable.lawful with
      ⟨-, hbroken⟩ | ⟨accepted, failure, t₀, t₁, t, hstart, hsame, hdeliveries, halone, hconfirms⟩
    · cases hsignalled.symm.trans hbroken
    have hleaves := leaves_of_confirms hdeliverable hdeliveries halone hconfirms
    rw [halone] at hsignalled
    obtain ⟨rfl, hinterrupted⟩ := hdeliveries.interrupted hstart (hsame.trans hsignalled)
    exact ⟨records, accepted, t, hpending, halone, hinterrupted, hinterrupted.ends, hleaves⟩

theorem deliverable_of_reached (hs : store.Reached) (hpending : Pending store records) :
    Deliverable store records := by
  obtain ⟨es, hes⟩ := hs.ready
  have hdeliverable := deliverable_of_ready hes
  obtain rfl := hpending.eq hdeliverable.pending
  exact hdeliverable

/-- Half a second, within the first wait. -/
def halfSecond : Duration := ⟨500000000, by decide⟩

theorem shutdown_curtails_firstAccepted :
    Curtailed narrow { firstAccepted with signal := .already } twoPods ∧
      (alone narrow { firstAccepted with signal := .already } twoPods).1 =
        some (.error (.retriesExhausted 1 (.status 500))) ∧
      Cancelled narrow { firstAccepted with signal := .onWait 9 halfSecond } twoPods := by
  have hs : twoPods.Reached := .call _ .fresh (by decide)
  have hcurtails := shutdown_curtails narrow firstAccepted twoPods (by decide)
    fun _ => deliverable_of_reached hs
  exact ⟨hcurtails.1, by decide +kernel, hcurtails.2 9 halfSecond (by decide +kernel)⟩

example :
    let cancelled := alone narrow { firstAccepted with signal := .onWait 9 halfSecond } twoPods
    cancelled.1 = some (.error .cancelled) ∧ cancelled.2.posts.length = 2 ∧
      cancelled.2.store.db.rows.map Row.sentAt = [.integer 20000000, .null] := by
  decide +kernel

end Flush

end ClusterOutbox
