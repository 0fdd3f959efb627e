import ClusterOutbox.Proofs.Delivery.AtLeastOnce
import ClusterOutbox.Proofs.Delivery.Requests

namespace ClusterOutbox

/-- What the flush under way has selected. -/
def World.selection (w : World) : List Record := w.flight.elim [] (·.journal.selected)

/-- A request as it was sent: the rows at the selection of its flush, what that selected, and the
body. -/
structure Shipment where
  rows : List Row
  selected : List Record
  body : List UInt8
  reply : Reply

/-- The samples of an identity in a request, whichever batch its body is that of. -/
def Shipment.Samples (c : PusherConfig) (s : Shipment) (i : Identity) (x : Sample) : Prop :=
  ∃ batch ∈ pack c.maxBytes s.selected, Flush.body? (seriesOf c.stem batch) = some s.body ∧
    ∃ r ∈ batch, r.identity = i ∧ ∃ series ∈ r.series c.stem, x ∈ series.samples

/-- A world, the rows of its store when a flush last selected, and the requests sent, the last
first. -/
structure Logbook where
  world : World
  rows : List Row
  shipments : List Shipment

namespace Logbook

def start : Logbook := ⟨.start, [], []⟩

def next (c : PusherConfig) (b : Logbook) (e : Event) : Logbook :=
  let world := b.world.next c e
  match e, b.world.flight with
  | .act o, some f =>
    match f.rest with
    | .select _ => { b with world, rows := b.world.store.db.rows }
    | .post _ body _ =>
      { b with world, shipments := ⟨b.rows, f.journal.selected, body, o.reply⟩ :: b.shipments }
    | _ => { b with world }
  | _, _ => { b with world }

/-- The logbooks that events lead to from an empty store, in any order. -/
inductive Kept (c : PusherConfig) : Logbook → Prop
  | start : Kept c .start
  | next {b : Logbook} (e : Event) : Kept c b → b.world.Admits e → Kept c (b.next c e)

variable {c : PusherConfig} {b : Logbook} {es : Ledger}

@[simp] theorem world_next (b : Logbook) (e : Event) : (b.next c e).world = b.world.next c e := by
  unfold next
  split
  · split <;> rfl
  · rfl

/-- What an event makes of a selection and of the requests sent. -/
inductive Turn (c : PusherConfig) (b : Logbook) (es : Ledger) (b' : Logbook) : Prop
  | keeps : b'.world.selection = b.world.selection ∨ b'.world.selection = [] →
    b'.rows = b.rows → b'.shipments = b.shipments → b'.world.posts = b.world.posts → Turn c b es b'
  | selects : b'.world.selection ⊆ es.map Entry.record →
    b'.rows = b.world.store.db.rows → b'.shipments = b.shipments →
    b'.world.posts = b.world.posts → Turn c b es b'
  | ships (body : List UInt8) (reply : Reply) : b'.world.selection = b.world.selection →
    b'.rows = b.rows → b'.shipments = ⟨b.rows, b.world.selection, body, reply⟩ :: b.shipments →
    b'.world.posts = (body, reply) :: b.world.posts →
    Flush.BodyOf c b.world.selection body → Turn c b es b'

end Logbook

namespace World

variable {c : PusherConfig} {w : World} {es : Ledger}

theorem note_frame (w : World) (m : Moment) (r : Record) :
    (w.note m r).selection = w.selection ∧ (w.note m r).posts = w.posts := by
  cases hflight : w.flight <;> simp [note, selection, hflight]

theorem noteAll_frame (w : World) (items : List (Moment × Record)) :
    (w.noteAll items).selection = w.selection ∧ (w.noteAll items).posts = w.posts := by
  induction items generalizing w with
  | nil => exact ⟨rfl, rfl⟩
  | cons item items ih =>
    obtain ⟨hselection, hposts⟩ := ih (w.note item.1 item.2)
    obtain ⟨hselection', hposts'⟩ := w.note_frame item.1 item.2
    exact ⟨hselection.trans hselection', hposts.trans hposts'⟩

theorem tickAll_frame (w : World) (readings : List Instant) :
    (w.tickAll readings).flight = w.flight ∧ (w.tickAll readings).posts = w.posts := by
  induction readings generalizing w with
  | nil => exact ⟨rfl, rfl⟩
  | cons t readings ih => exact ih { w with readings := t :: w.readings }

theorem staged_note {m : Moment} {r : Record} (h : ∀ f, w.flight = some f → f.Staged c) :
    ∀ f, (w.note m r).flight = some f → f.Staged c := by
  intro f hf
  obtain ⟨g, hg, rfl⟩ := Option.map_eq_some_iff.mp hf
  cases h g hg with
  | begun hrest => exact .begun hrest
  | timed start hrest => exact .timed start hrest
  | chosen hposts => exact .chosen hposts

theorem staged_noteAll {items : List (Moment × Record)} (h : ∀ f, w.flight = some f → f.Staged c) :
    ∀ f, (w.noteAll items).flight = some f → f.Staged c := by
  induction items generalizing w with
  | nil => exact h
  | cons item items ih => exact ih (staged_note h)

end World

namespace Logbook

variable {c : PusherConfig} {b : Logbook} {es : Ledger}

/-- The flush under way, if any, is at one of its stages. -/
def Staged (c : PusherConfig) (b : Logbook) : Prop :=
  ∀ f, b.world.flight = some f → f.Staged c

theorem turn_chosen {f : Flight} (hf : b.world.flight = some f)
    (hposts : f.rest.Posts (Flush.BodyOf c f.journal.selected)) (o : Outside) :
    Turn c b es (b.next c (.act o)) ∧ (b.next c (.act o)).Staged c := by
  have hselection : b.world.selection = f.journal.selected := by simp [World.selection, hf]
  have hstep (rest : Procedure (Except PushError Report)) (store : Store) (since : Log)
      (hrest : rest.Posts (Flush.BodyOf c f.journal.selected)) :
      let b' : Logbook :=
        { b with world := { b.world with store, flight := some { f with rest, since } } }
      Turn c b es b' ∧ b'.Staged c := by
    refine ⟨.keeps (.inl hselection.symm) rfl rfl rfl, fun g hg => ?_⟩
    obtain rfl := Option.some.inj hg
    exact .chosen hrest
  cases hrest : f.rest with
  | finish result | overflow =>
    simp only [next, World.next, World.act, hf, hrest]
    exact ⟨.keeps (.inr rfl) rfl rfl rfl, by simp [Staged]⟩
  | readClock after | select after =>
    rw [hrest] at hposts
    exact hposts.elim
  | readKey after =>
    rw [hrest] at hposts
    simp only [next, World.next, World.act, hf, hrest]
    exact hstep _ _ _ (hposts o.key)
  | post key body after =>
    rw [hrest] at hposts
    simp only [next, World.next, World.act, hf, hrest]
    have hsame := (f.journal.extends_replied body o.reply).selected
    refine ⟨.ships body o.reply (hsame.trans hselection.symm) rfl ?_ rfl ?_, fun g hg => ?_⟩
    · rw [hselection]
    · rw [hselection]
      exact hposts.1
    · obtain rfl := Option.some.inj hg
      refine .chosen ?_
      simp only [hsame]
      exact hposts.2 o.reply o.elapsed
  | isSignalled after | pause delay after =>
    rw [hrest] at hposts
    simp only [next, World.next, World.act, hf, hrest]
    exact hstep _ _ _ (hposts o.flag)
  | draw limit after =>
    rw [hrest] at hposts
    simp only [next, World.next, World.act, hf, hrest]
    exact hstep _ _ _ (hposts (min limit o.drawn))
  | mark ids t after =>
    rw [hrest] at hposts
    simp only [next, World.next, World.act, hf, hrest]
    exact hstep _ _ _ (hposts _)
  | count change after =>
    rw [hrest] at hposts
    simp only [next, World.next, World.act, World.count, hf, hrest]
    exact hstep _ _ _ hposts

theorem turn_act (h : World.History c b.world es) (hstaged : b.Staged c) (o : Outside) :
    Turn c b es (b.next c (.act o)) ∧ (b.next c (.act o)).Staged c := by
  cases hf : b.world.flight with
  | none =>
    have hnext : b.next c (.act o) = b := by simp [next, World.next, hf]
    rw [hnext]
    exact ⟨.keeps (.inl rfl) rfl rfl rfl, hstaged⟩
  | some f =>
    rcases hstaged f hf with hrest | ⟨start, hrest⟩ | hposts
    · rw [Flush.flush_eq] at hrest
      simp only [next, World.next, World.act, hf, hrest]
      refine ⟨.keeps (.inr rfl) rfl rfl rfl, fun g hg => ?_⟩
      obtain rfl := Option.some.inj hg
      exact .timed o.now rfl
    · have hfind := Session.run_findAll h.ready.toShows Entry.selects_pending_row
      cases htrouble : o.trouble with
      | some e =>
        simp only [next, World.next, World.act, hf, hrest, Outside.perform, htrouble]
        refine ⟨.selects (List.nil_subset _) rfl rfl rfl, fun g hg => ?_⟩
        obtain rfl := Option.some.inj hg
        exact .chosen (Flush.posts_deliver c start (.error e))
      | none =>
        simp only [next, World.next, World.act, hf, hrest, Outside.perform, htrouble,
          Session.run_call h.ready.isOpen, hfind]
        refine ⟨.selects ?_ rfl rfl rfl, fun g hg => ?_⟩
        · exact List.map_subset _ (List.filter_subset_self es)
        · obtain rfl := Option.some.inj hg
          exact .chosen (Flush.posts_deliver c start (.ok _))
    · exact turn_chosen hf hposts o

theorem turn_next (h : World.History c b.world es) (hstaged : b.Staged c) (e : Event) :
    Turn c b es (b.next c e) ∧ (b.next c e).Staged c := by
  cases e with
  | begin =>
    cases hf : b.world.flight with
    | some f =>
      have hnext : b.next c .begin = b := by simp [next, World.next, hf]
      rw [hnext]
      exact ⟨.keeps (.inl rfl) rfl rfl rfl, hstaged⟩
    | none =>
      simp only [next, World.next, hf]
      refine ⟨.keeps (.inr rfl) rfl rfl rfl, fun g hg => ?_⟩
      obtain rfl := Option.some.inj hg
      exact .begun rfl
  | abandon => exact ⟨.keeps (.inr rfl) rfl rfl rfl, by simp [Staged, next, World.next]⟩
  | act o => exact turn_act h hstaged o
  | observe m r =>
    simp only [next, World.next]
    rcases (Session.observe m r).run b.world.store with ⟨e | x, store⟩
    · exact ⟨.keeps (.inl rfl) rfl rfl rfl, hstaged⟩
    · obtain ⟨hselection, hposts⟩ := World.note_frame { b.world with store } m r
      exact ⟨.keeps (.inl hselection) rfl rfl hposts, World.staged_note hstaged⟩
  | observeAll items =>
    simp only [next, World.next]
    rcases (Session.observeAll items).run b.world.store with ⟨e | x, store⟩
    · exact ⟨.keeps (.inl rfl) rfl rfl rfl, hstaged⟩
    · obtain ⟨hselection, hposts⟩ := World.noteAll_frame { b.world with store } items
      exact ⟨.keeps (.inl hselection) rfl rfl hposts, World.staged_noteAll hstaged⟩
  | pass now retention => exact ⟨.keeps (.inl rfl) rfl rfl rfl, hstaged⟩
  | failed readings change =>
    obtain ⟨hflight, hposts⟩ := (b.world.count change).tickAll_frame readings
    refine ⟨.keeps (.inl ?_) rfl rfl hposts, fun f hf => hstaged f (hflight ▸ hf)⟩
    change ((b.world.count change).tickAll readings).flight.elim [] _ = _
    rw [hflight]
    rfl

/-- Records read off rows, one of an identity. -/
structure Draws (rows : List Row) (selected : List Record) : Prop where
  read : ∀ r ∈ selected, ∃ e : Entry, e.row ∈ rows ∧ e.record = r
  unique : ∀ r ∈ selected, ∀ r' ∈ selected, r.identity = r'.identity → r = r'

/-- Records that have changed neither after the clock nor after the entries of their identities. -/
def Floor (readings : List Instant) (es : Ledger) (selected : List Record) : Prop :=
  ∀ r ∈ selected, (∃ t ∈ readings, r.updated.micros ≤ t.micros) ∧
    ∀ e ∈ es, e.identity = r.identity → r.updated.micros ≤ e.updated.micros

def Precedes (earlier later : List Record) : Prop :=
  ∀ r ∈ earlier, ∀ r' ∈ later, r.identity = r'.identity → r.updated.micros ≤ r'.updated.micros

theorem draws_nil (rows : List Row) : Draws rows [] := ⟨by simp, by simp⟩

theorem draws_of_subset (hd : es.Distinct) {selected : List Record}
    (h : selected ⊆ es.map Entry.record) : Draws (es.map Entry.row) selected := by
  refine ⟨fun r hr => ?_, fun r hr r' hr' hident => ?_⟩
  · obtain ⟨e, he, rfl⟩ := List.mem_map.mp (h hr)
    exact ⟨e, List.mem_map_of_mem he, rfl⟩
  · obtain ⟨e, he, rfl⟩ := List.mem_map.mp (h hr)
    obtain ⟨e', he', rfl⟩ := List.mem_map.mp (h hr')
    exact congrArg Entry.record (Ledger.eq_of_identity_eq hd he he' hident)

theorem Draws.precedes {rows : List Row} {selected : List Record} (h : Draws rows selected) :
    Precedes selected selected := by
  intro r hr r' hr' hident
  exact Int.le_of_eq (congrArg (·.updated.micros) (h.unique r hr r' hr' hident))

theorem floor_of_subset {readings : List Instant} {log : Log} (hd : es.Distinct)
    (hdated : es.Dated readings log) {selected : List Record} (h : selected ⊆ es.map Entry.record) :
    Floor readings es selected := by
  intro r hr
  obtain ⟨e, he, rfl⟩ := List.mem_map.mp (h hr)
  rw [Entry.micros_updated_record]
  refine ⟨hdated.le e he, fun e' he' hident => ?_⟩
  exact Int.le_of_eq (congrArg (·.updated.micros) (Ledger.eq_of_identity_eq hd he he' hident.symm))

theorem Floor.onward {w w' : World} {es' : Ledger} {selected : List Record}
    (h : Floor w.readings es selected) (honward : World.Onward w w' es es') (hsteady : w'.Steady) :
    Floor w'.readings es' selected := by
  intro r hr
  obtain ⟨⟨t, ht, hle⟩, hentries⟩ := h r hr
  refine ⟨⟨t, honward.readings.mem ht, hle⟩, fun e' he' hident => ?_⟩
  rcases honward.entries hsteady e' he' with ⟨e, he, hident', hupdated⟩ | hlater
  · rw [← hupdated]
    exact hentries e he (hident'.trans hident)
  · exact Int.le_trans hle (hlater t ht)

theorem Floor.precedes {readings : List Instant} {earlier later : List Record}
    (h : Floor readings es earlier) (hlater : later ⊆ es.map Entry.record) :
    Precedes earlier later := by
  intro r hr r' hr' hident
  obtain ⟨e, he, rfl⟩ := List.mem_map.mp (hlater hr')
  rw [Entry.micros_updated_record]
  exact (h r hr).2 e he hident.symm

/-- What is selected now, and what was for the requests sent. -/
def selections (b : Logbook) : List (List Record) :=
  b.world.selection :: b.shipments.map (·.selected)

/-- What holds of a logbook, and while the clock does not go back. -/
structure Sound (c : PusherConfig) (b : Logbook) (es : Ledger) : Prop where
  history : World.History c b.world es
  staged : b.Staged c
  posted : b.shipments.map (fun s => (s.body, s.reply)) = b.world.posts
  drawn : Draws b.rows b.world.selection
  shipped : ∀ s ∈ b.shipments, Draws s.rows s.selected ∧ Flush.BodyOf c s.selected s.body
  floor : b.world.Steady → ∀ selected ∈ b.selections, Floor b.world.readings es selected
  order : b.world.Steady → b.selections.Pairwise fun later earlier => Precedes earlier later

theorem sound_start (c : PusherConfig) : Sound c start [] where
  history := .start
  staged := by simp [Staged, start, World.start]
  posted := rfl
  drawn := draws_nil []
  shipped := by simp [start]
  floor := by simp [selections, start, World.start, World.selection, Floor]
  order := by simp [selections, start]

theorem Turn.posted {b' : Logbook} (h : Turn c b es b')
    (hposted : b.shipments.map (fun s => (s.body, s.reply)) = b.world.posts) :
    b'.shipments.map (fun s => (s.body, s.reply)) = b'.world.posts := by
  cases h with
  | keeps _ _ hshipments hposts => rw [hshipments, hposts, hposted]
  | selects _ _ hshipments hposts => rw [hshipments, hposts, hposted]
  | ships body reply _ _ hshipments hposts _ => rw [hshipments, hposts, List.map_cons, hposted]

theorem Turn.drawn {b' : Logbook} (h : Turn c b es b') (hd : es.Distinct)
    (hrows : b.world.store.db.rows = es.map Entry.row) (hdrawn : Draws b.rows b.world.selection) :
    Draws b'.rows b'.world.selection := by
  cases h with
  | keeps hselection hrows' _ _ =>
    rcases hselection with hselection | hselection
    · rwa [hrows', hselection]
    · rw [hselection]
      exact draws_nil _
  | selects hselection hrows' _ _ =>
    rw [hrows', hrows]
    exact draws_of_subset hd hselection
  | ships body reply hselection hrows' _ _ _ => rwa [hrows', hselection]

theorem Turn.shipped {b' : Logbook} (h : Turn c b es b') (hdrawn : Draws b.rows b.world.selection)
    (hshipped : ∀ s ∈ b.shipments, Draws s.rows s.selected ∧ Flush.BodyOf c s.selected s.body) :
    ∀ s ∈ b'.shipments, Draws s.rows s.selected ∧ Flush.BodyOf c s.selected s.body := by
  cases h with
  | keeps _ _ hshipments _ => rwa [hshipments]
  | selects _ _ hshipments _ => rwa [hshipments]
  | ships body reply _ _ hshipments _ hbody =>
    rw [hshipments]
    exact List.forall_mem_cons.mpr ⟨⟨hdrawn, hbody⟩, hshipped⟩

theorem Turn.floor {b' : Logbook} {readings : List Instant} {log : Log} (h : Turn c b es b')
    (hd : es.Distinct) (hdated : es.Dated readings log)
    (hfloor : ∀ selected ∈ b.selections, Floor readings es selected) :
    ∀ selected ∈ b'.selections, Floor readings es selected := by
  obtain ⟨hnow, hsent⟩ := List.forall_mem_cons.mp hfloor
  cases h with
  | keeps hselection _ hshipments _ =>
    rw [selections, hshipments]
    refine List.forall_mem_cons.mpr ⟨?_, hsent⟩
    rcases hselection with hselection | hselection <;> rw [hselection]
    · exact hnow
    · simp [Floor]
  | selects hselection _ hshipments _ =>
    rw [selections, hshipments]
    exact List.forall_mem_cons.mpr ⟨floor_of_subset hd hdated hselection, hsent⟩
  | ships body reply hselection _ hshipments _ _ =>
    rw [selections, hselection, hshipments]
    exact List.forall_mem_cons.mpr ⟨hnow, hfloor⟩

theorem Turn.order {b' : Logbook} {readings : List Instant} (h : Turn c b es b')
    (hdrawn : Draws b.rows b.world.selection)
    (hfloor : ∀ selected ∈ b.selections, Floor readings es selected)
    (horder : b.selections.Pairwise fun later earlier => Precedes earlier later) :
    b'.selections.Pairwise fun later earlier => Precedes earlier later := by
  obtain ⟨hnow, hsent⟩ := List.pairwise_cons.mp horder
  cases h with
  | keeps hselection _ hshipments _ =>
    rw [selections, hshipments]
    refine List.pairwise_cons.mpr ⟨?_, hsent⟩
    rcases hselection with hselection | hselection <;> rw [hselection]
    · exact hnow
    · simp [Precedes]
  | selects hselection _ hshipments _ =>
    rw [selections, hshipments]
    refine List.pairwise_cons.mpr ⟨fun earlier hearlier => ?_, hsent⟩
    exact (hfloor earlier (List.mem_cons_of_mem _ hearlier)).precedes hselection
  | ships body reply hselection _ hshipments _ _ =>
    rw [selections, hselection, hshipments]
    -- The requests of one flush send what it has selected once.
    exact List.pairwise_cons.mpr ⟨List.forall_mem_cons.mpr ⟨hdrawn.precedes, hnow⟩, horder⟩

theorem Sound.next (h : Sound c b es) {event : Event} (hadmits : b.world.Admits event) :
    ∃ es', Sound c (b.next c event) es' := by
  obtain ⟨es', hhistory, honward⟩ := h.history.next hadmits
  obtain ⟨hturn, hstaged⟩ := turn_next h.history h.staged event
  rw [← world_next] at hhistory honward
  have hbefore (hsteady : (b.next c event).world.Steady) : b.world.Steady :=
    List.Pairwise.sublist honward.readings.sublist hsteady
  have hd := h.history.ready.distinct
  refine ⟨es', hhistory, hstaged, hturn.posted h.posted,
    hturn.drawn hd h.history.ready.rows h.drawn, hturn.shipped h.drawn h.shipped,
    fun hsteady selected hselected => ?_, fun hsteady => ?_⟩
  · have hfloor := hturn.floor hd h.history.dated (h.floor (hbefore hsteady))
    exact (hfloor selected hselected).onward honward hsteady
  · exact hturn.order h.drawn (h.floor (hbefore hsteady)) (h.order (hbefore hsteady))

theorem Kept.sound (h : Kept c b) : ∃ es, Sound c b es := by
  induction h with
  | start => exact ⟨[], sound_start c⟩
  | next event _ hadmits ih =>
    obtain ⟨es, h⟩ := ih
    exact h.next hadmits

/-- The time of every sample of a record: its last change, in whole milliseconds. -/
theorem timestamp_of_mem_series {e : Entry} {stem : String} {series : Series} {x : Sample}
    (hseries : series ∈ e.record.series stem) (hx : x ∈ series.samples) :
    x.timestamp.toInt = e.updated.micros / 1000 := by
  have hnotBefore : ¬ e.record.updated < e.record.created := by
    have hle := e.created_le_updated
    change ¬ e.updated.stamp < e.created.stamp
    rw [StoreTime.stamp_lt_stamp]
    omega
  have hmillis : e.record.lastObserved.millis = e.updated.micros / 1000 := by
    rw [Record.lastObserved, Stamp.later, if_neg hnotBefore]
    change e.updated.micros / 1000000 * 1000 +
      ((e.updated.micros % 1000000).toNat * 1000 : Nat) / 1000000 = _
    omega
  have htimestamp : x.timestamp = Int64.ofInt e.record.lastObserved.millis := by
    unfold Record.series at hseries
    rcases List.mem_cons.mp hseries with rfl | hseries
    · exact List.mem_singleton.mp hx ▸ rfl
    · cases hannotations : e.record.annotations with
      | none => simp [hannotations] at hseries
      | some annotations =>
        simp only [hannotations, List.mem_singleton] at hseries
        subst hseries
        exact List.mem_singleton.mp hx ▸ rfl
  have hfirst := e.updated.first_le
  have hlast := e.updated.le_last
  rw [htimestamp, hmillis, Int64.toInt_ofInt_of_le (by omega) (by omega)]

theorem Draws.read_samples {s : Shipment} (h : Draws s.rows s.selected) {i : Identity} {x : Sample}
    (hx : s.Samples c i x) :
    ∃ e : Entry, e.row ∈ s.rows ∧ e.record ∈ s.selected ∧ e.identity = i ∧
      x.timestamp.toInt = e.updated.micros / 1000 := by
  obtain ⟨batch, hbatch, _, r, hr, hident, series, hseries, hsample⟩ := hx
  have hselected := mem_pack hbatch hr
  obtain ⟨e, he, rfl⟩ := h.read r hselected
  exact ⟨e, he, hselected, hident, timestamp_of_mem_series hseries hsample⟩

/-- While the clock does not go back, neither do the samples of an identity, over all requests sent:
each has the time at which its row had changed last when it was selected, in whole milliseconds. -/
theorem samples_in_order (h : Kept c b) (hsteady : b.world.Steady) :
    b.shipments.map (fun s => (s.body, s.reply)) = b.world.posts ∧
    (∀ s ∈ b.shipments, Flush.BodyOf c s.selected s.body ∧
      (∀ i x, s.Samples c i x → ∃ row ∈ s.rows, ∃ r m, row.record? = .ok r ∧ r.identity = i ∧
        row.updated = .integer m ∧ x.timestamp.toInt = m / 1000) ∧
      ∀ i x y, s.Samples c i x → s.Samples c i y → x.timestamp = y.timestamp) ∧
    b.shipments.Pairwise fun later earlier => ∀ i x y, earlier.Samples c i x →
      later.Samples c i y → x.timestamp.toInt ≤ y.timestamp.toInt := by
  obtain ⟨es, hsound⟩ := h.sound
  refine ⟨hsound.posted, fun s hs => ?_, ?_⟩
  · obtain ⟨hdraws, hbody⟩ := hsound.shipped s hs
    refine ⟨hbody, fun i x hx => ?_, fun i x y hx hy => ?_⟩
    · obtain ⟨e, he, _, hident, htime⟩ := hdraws.read_samples hx
      exact ⟨e.row, he, e.record, e.updated.micros, e.record?_row, hident, rfl, htime⟩
    · obtain ⟨e, _, he, hident, htime⟩ := hdraws.read_samples hx
      obtain ⟨e', _, he', hident', htime'⟩ := hdraws.read_samples hy
      have hsame := hdraws.unique _ he _ he' (hident.trans hident'.symm)
      have hupdated := congrArg (·.updated.micros) hsame
      simp only [Entry.micros_updated_record] at hupdated
      rw [← Int64.toInt_inj, htime, htime', hupdated]
  · have horder := (List.pairwise_cons.mp (hsound.order hsteady)).2
    refine (List.pairwise_map.mp horder).imp_of_mem ?_
    intro later earlier hlater hearlier hprecedes i x y hx hy
    obtain ⟨e, _, he, hident, htime⟩ := (hsound.shipped earlier hearlier).1.read_samples hx
    obtain ⟨e', _, he', hident', htime'⟩ := (hsound.shipped later hlater).1.read_samples hy
    have hle := hprecedes _ he _ he' (hident.trans hident'.symm)
    rw [Entry.micros_updated_record, Entry.micros_updated_record] at hle
    omega

theorem Kept.run {events : List Event} (h : Kept c b) (hadmits : b.world.AdmitsAll c events) :
    Kept c (events.foldl (Logbook.next c) b) := by
  induction events generalizing b with
  | nil => exact h
  | cons e events ih =>
    refine ih (h.next e hadmits.1) ?_
    rw [world_next]
    exact hadmits.2

/-- A pod is sent and confirmed, deleted by a pass, and observed anew at the same reading of the
clock; the next flush sends it twice, as the first request is refused. -/
def recreatedEvents : List Event :=
  let refused := { World.sampleOutside 100 with reply := .status 503 }
  let waited := { World.sampleOutside 100 with flag := true }
  [.observe ⟨.sampleSecond 0, "a"⟩ (World.samplePod "1"), .begin] ++
    List.replicate 11 (.act (World.sampleOutside 1)) ++
    [.pass (.sampleSecond 100) (.ofSeconds 10),
      .observe ⟨.sampleSecond 100, "b"⟩ (World.samplePod "2"), .begin] ++
    List.replicate 4 (.act (World.sampleOutside 100)) ++ [.act refused] ++
    List.replicate 3 (.act (World.sampleOutside 100)) ++ List.replicate 2 (.act waited)

def recreated : Logbook := recreatedEvents.foldl (Logbook.next World.sampleConfig) start

theorem samples_in_order_recreated :
    recreated.world.Steady ∧
    recreated.shipments.map (fun s => (s.rows.map (·.updated), s.reply)) =
      [([.integer 100000000], .status 200), ([.integer 100000000], .status 503),
        ([.integer 0], .status 200)] ∧
    recreated.shipments.Pairwise fun later earlier => ∀ i x y,
      earlier.Samples World.sampleConfig i x → later.Samples World.sampleConfig i y →
        x.timestamp.toInt ≤ y.timestamp.toInt :=
  have hkept : Kept World.sampleConfig recreated := Kept.start.run (by decide +kernel)
  have hsteady : recreated.world.Steady := by decide +kernel
  ⟨hsteady, by decide +kernel, (samples_in_order hkept hsteady).2.2⟩

end Logbook

end ClusterOutbox
