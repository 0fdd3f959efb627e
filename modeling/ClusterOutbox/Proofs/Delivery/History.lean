import ClusterOutbox.Proofs.Delivery.World

namespace ClusterOutbox

namespace World

/-- The worlds reached, with the entries of their stores. An act that neither asks the store nor
sends leaves the journal as it is. -/
inductive History (c : PusherConfig) : World → Ledger → Prop
  | start : History c .start []
  | observe {w : World} {es : Ledger} {m : Moment} (r : Record) : History c w es →
      m.freshId ≠ "" → (∀ e ∈ es, e.id ≠ m.freshId) →
      History c (note { w with store := w.store.put (es.upsert m r) } m r) (es.upsert m r)
  | pass {w : World} {es : Ledger} (now : Instant) (retention : Duration) : History c w es →
      History c (w.sweep now (w.store.put (es.reclaim (now.back retention).micros)))
        (es.reclaim (now.back retention).micros)
  | begin {w : World} {es : Ledger} : History c w es →
      History c { w with flight := some ⟨Flush.flush c, .blank, []⟩ } es
  | stop {w : World} {es : Ledger} : History c w es → History c { w with flight := none } es
  | readClock {w : World} {es : Ledger} {f : Flight}
      {next : Instant → Procedure (Except PushError Report)} (t : Instant) : History c w es →
      w.flight = some f → f.rest = .readClock next →
      History c
        { w with
          readings := t :: w.readings
          flight := some { f with rest := next t, journal := f.journal.started t } } es
  | select {w : World} {es : Ledger} {f : Flight}
      {next : Except StoreError (List Record) → Procedure (Except PushError Report)}
      {found : Except StoreError (List Record)} : History c w es →
      w.flight = some f → f.rest = .select next →
      (∀ records, found = .ok records → records = (es.filter Entry.isPending).map Entry.record) →
      History c
        { w with
          flight := some
            ⟨next found, { f.journal with selected := found.toOption.getD [] }, []⟩ } es
  | post {w : World} {es : Ledger} {f : Flight} {key : String} {body : List UInt8}
      {next : Reply → Duration → Procedure (Except PushError Report)} (reply : Reply)
      (elapsed : Duration) : History c w es → w.flight = some f → f.rest = .post key body next →
      History c
        { w with
          posts := (body, reply) :: w.posts
          flight := some
            { f with rest := next reply elapsed, journal := f.journal.replied body reply } } es
  | mark {w : World} {es : Ledger} {f : Flight} {ids : List String} {t : Instant}
      {next : Except StoreError Nat → Procedure (Except PushError Report)} (n : Nat) :
      History c w es → w.flight = some f → f.rest = .mark ids t next →
      History c
        { w with
          store := { w.store.put (es.confirm ids t.storeTime) with prepared := true }
          flight := some { f with rest := next (.ok n), since := [] } }
        (es.confirm ids t.storeTime)
  | markFailed {w : World} {es : Ledger} {f : Flight} {ids : List String} {t : Instant}
      {next : Except StoreError Nat → Procedure (Except PushError Report)} (e : StoreError) :
      History c w es → w.flight = some f → f.rest = .mark ids t next →
      History c { w with flight := some { f with rest := next (.error e), since := [] } } es
  | quiet {w : World} {es : Ledger} {f : Flight} {rest : Procedure (Except PushError Report)}
      (change : Metrics → Metrics) : History c w es → w.flight = some f →
      (∀ marks result, f.rest.Ensures marks result f.journal →
        rest.Ensures marks result f.journal) →
      History c { w.count change with flight := some { f with rest } } es
  | count {w : World} {es : Ledger} (change : Metrics → Metrics) : History c w es →
      History c (w.count change) es
  | tick {w : World} {es : Ledger} (t : Instant) : History c w es →
      History c { w with readings := t :: w.readings } es

variable {c : PusherConfig} {w : World} {es : Ledger}

theorem History.ready (h : History c w es) : w.store.Ready es := by
  induction h with
  | start => exact ⟨⟨rfl, rfl, ⟨by simp, by simp, by simp⟩⟩, rfl, rfl⟩
  | observe r _ hne hid ih => exact ih.put (Ledger.distinct_upsert ih.distinct hne hid r)
  | pass now retention _ ih => exact ih.put (ih.distinct.sublist List.filter_sublist)
  | begin _ ih => exact ih
  | stop _ ih => exact ih
  | readClock t _ _ _ ih => exact ih
  | select _ _ _ _ ih => exact ih
  | post reply elapsed _ _ _ ih => exact ih
  | @mark w es f ids t next n _ _ _ ih =>
    have hput := ih.put (Ledger.distinct_confirm ih.distinct ids t.storeTime)
    exact ⟨⟨hput.table, hput.writable, hput.distinct⟩, hput.isOpen, hput.saved⟩
  | markFailed e _ _ _ ih => exact ih
  | quiet change _ _ _ ih => exact ⟨⟨ih.table, ih.writable, ih.distinct⟩, ih.isOpen, ih.saved⟩
  | count change _ ih => exact ⟨⟨ih.table, ih.writable, ih.distinct⟩, ih.isOpen, ih.saved⟩
  | tick t _ ih => exact ih

/-- No reading of the clock is before an earlier one. -/
def Steady (w : World) : Prop := w.readings.Pairwise fun later earlier => earlier ≤ later

instance (w : World) : Decidable w.Steady := inferInstanceAs (Decidable (List.Pairwise _ _))

/-- While the clock does not go back, an entry changed last when one of its identity was before, or
not before any reading there was. -/
structure Onward (w w' : World) (es es' : Ledger) : Prop where
  readings : w.readings <:+ w'.readings
  entries : w'.Steady → ∀ e' ∈ es', (∃ e ∈ es, e.identity = e'.identity ∧ e.updated = e'.updated) ∨
    ∀ t ∈ w.readings, t.micros ≤ e'.updated.micros

theorem Onward.of_entries {w' : World} {es' : Ledger} (hreadings : w.readings <:+ w'.readings)
    (h : ∀ e' ∈ es', ∃ e ∈ es, e.identity = e'.identity ∧ e.updated = e'.updated) :
    Onward w w' es es' := ⟨hreadings, fun _ e' he' => .inl (h e' he')⟩

theorem Onward.still {w' : World} (hreadings : w.readings <:+ w'.readings) : Onward w w' es es :=
  .of_entries hreadings fun e he => ⟨e, he, rfl, rfl⟩

theorem Onward.trans {w' w'' : World} {es' es'' : Ledger} (h : Onward w w' es es')
    (h' : Onward w' w'' es' es'') : Onward w w'' es es'' where
  readings := h.readings.trans h'.readings
  entries := by
    intro hsteady e'' he''
    have hsteady' : w'.Steady := List.Pairwise.sublist h'.readings.sublist hsteady
    rcases h'.entries hsteady e'' he'' with ⟨e', he', hident', hupdated'⟩ | hlater
    · rcases h.entries hsteady' e' he' with ⟨e, he, hident, hupdated⟩ | hlater
      · exact .inl ⟨e, he, hident.trans hident', hupdated.trans hupdated'⟩
      · exact .inr fun t ht => hupdated' ▸ hlater t ht
    · exact .inr fun t ht => hlater t (h.readings.mem ht)

theorem onward_observe (store : Store) (m : Moment) (r : Record) :
    Onward w (note { w with store } m r) es (es.upsert m r) where
  readings := List.suffix_cons _ _
  entries := by
    intro hsteady e' he'
    have hlater := (List.pairwise_cons.mp hsteady).1
    rcases Ledger.mem_upsert.mp he' with ⟨he, _⟩ | ⟨e, _, _, rfl⟩ | ⟨_, rfl⟩
    · exact .inl ⟨e', he, rfl, rfl⟩
    · refine .inr fun t ht => ?_
      have hmicros := Instant.micros_mono (hlater t ht)
      have hmax := StoreTime.micros_later m.now.storeTime e.created
      change t.micros ≤ (m.now.storeTime.later e.created).micros
      rw [hmax, Instant.micros_storeTime]
      omega
    · exact .inr fun t ht => Instant.micros_mono (hlater t ht)

theorem History.observeAll {items : List (Moment × Record)} (h : History c w es)
    (hf : es.FreshIds (items.map (·.1.freshId))) :
    History c (noteAll { w with store := w.store.put (es.upsertAll items) } items)
        (es.upsertAll items) ∧
      Onward w (noteAll { w with store := w.store.put (es.upsertAll items) } items) es
        (es.upsertAll items) := by
  induction items generalizing w es with
  | nil =>
    have hsame : w.store.put es = w.store := h.ready.put_self
    rw [show es.upsertAll [] = es from rfl, hsame]
    exact ⟨h, .still (List.suffix_refl _)⟩
  | cons item items ih =>
    have hnext := h.observe item.2 (hf.nonempty _ List.mem_cons_self) (hf.absent _ List.mem_cons_self)
    obtain ⟨hrest, honward⟩ := ih hnext (hf.upsert item.2)
    exact ⟨hrest, (onward_observe _ item.1 item.2).trans honward⟩

theorem History.tickAll (h : History c w es) (readings : List Instant) :
    History c (w.tickAll readings) es ∧ Onward w (w.tickAll readings) es es := by
  induction readings generalizing w with
  | nil => exact ⟨h, .still (List.suffix_refl _)⟩
  | cons t readings ih =>
    obtain ⟨hrest, honward⟩ := ih (h.tick t)
    exact ⟨hrest, (Onward.still (List.suffix_cons t _)).trans honward⟩

theorem History.act {f : Flight} (h : History c w es) (hf : w.flight = some f) (o : Outside) :
    ∃ es', History c (w.act o f) es' ∧ Onward w (w.act o f) es es' := by
  have hsame : w.readings <:+ w.readings := List.suffix_refl _
  unfold World.act
  cases hrest : f.rest with
  | finish result => exact ⟨es, h.stop, .still hsame⟩
  | overflow => exact ⟨es, h.stop, .still hsame⟩
  | readClock next => exact ⟨es, h.readClock o.now hf hrest, .still (List.suffix_cons _ _)⟩
  | select next =>
    cases htrouble : o.trouble with
    | some e =>
      simp only [Outside.perform, htrouble]
      exact ⟨es, h.select hf hrest (by simp), .still hsame⟩
    | none =>
      have hfind := Session.run_findAll h.ready.toShows Entry.selects_pending_row
      simp only [Outside.perform, htrouble, Session.run_call h.ready.isOpen, hfind]
      exact ⟨es, h.select hf hrest (by simp), .still hsame⟩
  | readKey next =>
    exact ⟨es, h.quiet id hf fun _ _ hensures => (hrest ▸ hensures) o.key, .still hsame⟩
  | post key body next => exact ⟨es, h.post o.reply o.elapsed hf hrest, .still hsame⟩
  | isSignalled next =>
    exact ⟨es, h.quiet id hf fun _ _ hensures => (hrest ▸ hensures) o.flag, .still hsame⟩
  | draw limit next =>
    have hquiet := h.quiet id hf fun _ _ hensures => (hrest ▸ hensures) (min limit o.drawn)
    exact ⟨es, hquiet, .still hsame⟩
  | pause delay next =>
    exact ⟨es, h.quiet id hf fun _ _ hensures => (hrest ▸ hensures) o.flag, .still hsame⟩
  | mark ids t next =>
    cases htrouble : o.trouble with
    | some e =>
      simp only [Outside.perform, htrouble]
      exact ⟨es, h.markFailed e hf hrest, .still hsame⟩
    | none =>
      simp only [Outside.perform, htrouble, Session.run_call h.ready.isOpen,
        Session.run_markSent h.ready.toShows]
      refine ⟨_, h.mark _ hf hrest, .of_entries hsame fun e' he' => ?_⟩
      obtain ⟨e, he, ⟨_, rfl⟩ | ⟨_, rfl⟩⟩ := Ledger.mem_confirm.mp he'
      · exact ⟨e, he, rfl, rfl⟩
      · exact ⟨_, he, rfl, rfl⟩
  | count change next =>
    refine ⟨es, h.quiet change hf ?_, .still hsame⟩
    intro marks result hensures
    rw [hrest] at hensures
    exact hensures

theorem History.next_pass (h : History c w es) (now : Instant) (retention : Duration) :
    History c (w.next c (.pass now retention)) (es.reclaim (now.back retention).micros) := by
  simp only [World.next, Keeper.run_pass h.ready]
  exact h.pass now retention

theorem History.next {event : Event} (h : History c w es) (hadmits : w.Admits event) :
    ∃ es', History c (w.next c event) es' ∧ Onward w (w.next c event) es es' := by
  have hsame : w.readings <:+ w.readings := List.suffix_refl _
  cases event with
  | begin =>
    unfold World.next
    cases w.flight with
    | some f => exact ⟨es, h, .still hsame⟩
    | none => exact ⟨es, h.begin, .still hsame⟩
  | abandon => exact ⟨es, h.stop, .still hsame⟩
  | act o =>
    unfold World.next
    cases hf : w.flight with
    | some f => exact h.act hf o
    | none => exact ⟨es, h, .still hsame⟩
  | observe m r =>
    have hid := h.ready.id_ne_of_isFresh hadmits
    have hrun : (Session.observe m r).run w.store =
        (.ok (es.observation m r), w.store.put (es.upsert m r)) := by
      rw [Session.observe, Session.run_call h.ready.isOpen, Session.run_upsert h.ready.toShows hid]
    simp only [World.next, hrun]
    exact ⟨_, h.observe r hadmits.1 hid, onward_observe _ m r⟩
  | observeAll items =>
    have hfresh : es.FreshIds (items.map (·.1.freshId)) := by
      refine ⟨hadmits.1, ?_, ?_⟩
      · intro id hid
        obtain ⟨item, hitem, rfl⟩ := List.mem_map.mp hid
        exact (hadmits.2 item hitem).1
      · intro id hid
        obtain ⟨item, hitem, rfl⟩ := List.mem_map.mp hid
        exact h.ready.id_ne_of_isFresh (hadmits.2 item hitem)
    simp only [World.next, Session.run_observeAll h.ready.toShows h.ready.isOpen hfresh]
    exact ⟨_, h.observeAll hfresh⟩
  | pass now retention =>
    refine ⟨_, h.next_pass now retention, .of_entries (List.suffix_cons now _) fun e he => ?_⟩
    exact ⟨e, (Ledger.mem_reclaim.mp he).1, rfl, rfl⟩
  | failed readings change =>
    obtain ⟨hrest, honward⟩ := (h.count change).tickAll readings
    exact ⟨es, hrest, honward.readings, honward.entries⟩

theorem Reachable.history (hw : Reachable c w) : ∃ es, History c w es := by
  induction hw with
  | start => exact ⟨[], .start⟩
  | next _ _ hadmits ih =>
    obtain ⟨es, h⟩ := ih
    obtain ⟨es', h', _⟩ := h.next hadmits
    exact ⟨es', h'⟩

/-- What holds of a flush under way: it confirms only what it may, and its journal tells what has
happened. -/
structure Flight.Sound (c : PusherConfig) (w : World) (f : Flight) : Prop where
  ensures : f.rest.Ensures (Flush.Justified c.stem) (fun _ _ => True) f.journal
  started : ∀ t, f.journal.start = some t → t ∈ w.readings
  posted : ∀ body ∈ f.journal.accepted, ∃ reply, (body, reply) ∈ w.posts ∧ reply.error? = none

theorem History.flight_sound (h : History c w es) {f : Flight} (hf : w.flight = some f) :
    Flight.Sound c w f := by
  induction h generalizing f with
  | start => simp [World.start] at hf
  | observe r _ _ _ ih =>
    obtain ⟨g, hg, rfl⟩ := Option.map_eq_some_iff.mp hf
    obtain ⟨hensures, hstarted, hposted⟩ := ih hg
    exact ⟨hensures, fun t ht => List.mem_cons_of_mem _ (hstarted t ht), hposted⟩
  | pass now retention _ ih =>
    obtain ⟨hensures, hstarted, hposted⟩ := ih hf
    exact ⟨hensures, fun t ht => List.mem_cons_of_mem _ (hstarted t ht), hposted⟩
  | begin _ _ =>
    obtain rfl := Option.some.inj hf
    exact ⟨Flush.ensures_flush c .blank, by simp [Journal.blank], by simp [Journal.blank]⟩
  | stop _ _ => simp at hf
  | readClock t _ hg hrest ih =>
    obtain rfl := Option.some.inj hf
    obtain ⟨hensures, _, hposted⟩ := ih hg
    rw [hrest] at hensures
    refine ⟨hensures t, ?_, hposted⟩
    intro t' ht'
    exact List.mem_cons.mpr (.inl (Option.some.inj ht').symm)
  | @select w es g next found _ hg hrest _ ih =>
    obtain rfl := Option.some.inj hf
    obtain ⟨hensures, hstarted, hposted⟩ := ih hg
    rw [hrest] at hensures
    exact ⟨hensures found, hstarted, hposted⟩
  | @post w es g key body next reply elapsed _ hg hrest ih =>
    obtain rfl := Option.some.inj hf
    obtain ⟨hensures, hstarted, hposted⟩ := ih hg
    rw [hrest] at hensures
    have hext := g.journal.extends_replied body reply
    refine ⟨hensures reply elapsed, fun t ht => hstarted t (hext.start ▸ ht), ?_⟩
    intro other hother
    rcases Journal.mem_accepted_replied hother with hold | ⟨rfl, hreply⟩
    · obtain ⟨answer, hanswer, haccepts⟩ := hposted other hold
      exact ⟨answer, List.mem_cons_of_mem _ hanswer, haccepts⟩
    · exact ⟨reply, List.mem_cons_self, hreply⟩
  | mark n _ hg hrest ih =>
    obtain rfl := Option.some.inj hf
    obtain ⟨hensures, hstarted, hposted⟩ := ih hg
    rw [hrest] at hensures
    exact ⟨hensures.2 (.ok n), hstarted, hposted⟩
  | markFailed e _ hg hrest ih =>
    obtain rfl := Option.some.inj hf
    obtain ⟨hensures, hstarted, hposted⟩ := ih hg
    rw [hrest] at hensures
    exact ⟨hensures.2 (.error e), hstarted, hposted⟩
  | quiet change _ hg hrest ih =>
    obtain rfl := Option.some.inj hf
    obtain ⟨hensures, hstarted, hposted⟩ := ih hg
    exact ⟨hrest _ _ hensures, hstarted, hposted⟩
  | count change _ ih =>
    obtain ⟨hensures, hstarted, hposted⟩ := ih hf
    exact ⟨hensures, hstarted, hposted⟩
  | tick t _ ih =>
    obtain ⟨hensures, hstarted, hposted⟩ := ih hf
    exact ⟨hensures, fun t ht => List.mem_cons_of_mem _ (hstarted t ht), hposted⟩

/-- What holds of the readings of the clock, the observations and the entries, whatever happens. -/
theorem History.ledger_induction {P : List Instant → Log → Ledger → Prop} (h : History c w es)
    (start : P [] [] [])
    (observe : ∀ {readings log es} (m : Moment) (r : Record), P readings log es →
      P (m.now :: readings) ((m, r) :: log) (es.upsert m r))
    (pass : ∀ {readings log es} (now : Instant) (limit : Int), P readings log es →
      P (now :: readings) log (es.reclaim limit))
    (readClock : ∀ {readings log es} (t : Instant), P readings log es → P (t :: readings) log es)
    (mark : ∀ {readings log es} (ids : List String) (t : Instant), t ∈ readings →
      P readings log es → P readings log (es.confirm ids t.storeTime)) :
    P w.readings w.observed es := by
  induction h with
  | start => exact start
  | observe r _ _ _ ih => exact observe _ r ih
  | pass now retention _ ih => exact pass now _ ih
  | begin _ ih => exact ih
  | stop _ ih => exact ih
  | readClock t _ _ _ ih => exact readClock t ih
  | select _ _ _ _ ih => exact ih
  | post reply elapsed _ _ _ ih => exact ih
  | @mark w es f ids t next n h hf hrest ih =>
    have hsound := h.flight_sound hf
    have hjustified := hsound.ensures
    rw [hrest] at hjustified
    exact mark ids t (hsound.started t hjustified.1.1) ih
  | markFailed e _ _ _ ih => exact ih
  | quiet change _ _ _ ih => exact ih
  | count change _ ih => exact ih
  | tick t _ ih => exact readClock t ih

end World

end ClusterOutbox
