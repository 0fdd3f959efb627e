import ClusterOutbox.Proofs.Delivery.Latest

namespace ClusterOutbox

structure Entry.Matches (e : Entry) (r : Record) : Prop where
  content : r.Repeats e.record
  updated : r.updated = e.updated.stamp

theorem Entry.matches_record (e : Entry) : e.Matches e.record := ⟨⟨rfl, rfl, rfl, rfl⟩, rfl⟩

theorem Entry.Matches.confirm {e : Entry} {r : Record} (h : e.Matches r) (t : StoreTime) :
    (e.confirm t).Matches r :=
  ⟨⟨h.content.1, h.content.2, h.content.3, h.content.4⟩, h.updated⟩

/-- The entry of a selected record has changed after the clock of the flush, or is as selected. -/
def Ledger.Vouches (es : Ledger) (start : Option Instant) (r : Record) : Prop :=
  ∃ e ∈ es, e.id = r.id ∧
    ((∀ t, start = some t → t.micros < e.updated.micros) ∨ e.Matches r)

namespace Ledger

variable {es : Ledger} {readings : List Instant} {log : Log}

/-- No entry has changed after the clock, and while the clock advances each has changed at its last
observation. -/
structure Dated (es : Ledger) (readings : List Instant) (log : Log) : Prop where
  le : ∀ e ∈ es, ∃ t ∈ readings, e.updated.micros ≤ t.micros
  eq : (readings.Pairwise fun later earlier => earlier.micros < later.micros) →
    ∀ e ∈ es, ∀ m a, log.latest? e.identity = some (m, a) → e.updated.micros = m.now.micros

theorem Dated.tick (h : es.Dated readings log) (t : Instant) : es.Dated (t :: readings) log where
  le e he := List.exists_mem_cons_of_exists (h.le e he)
  eq hclock := h.eq (List.pairwise_cons.mp hclock).2

theorem Dated.reclaim (h : es.Dated readings log) (limit : Int) :
    (es.reclaim limit).Dated readings log where
  le e he := h.le e (mem_reclaim.mp he).1
  eq hclock e he := h.eq hclock e (mem_reclaim.mp he).1

theorem Dated.confirm (h : es.Dated readings log) (ids : List String) (t : StoreTime) :
    (es.confirm ids t).Dated readings log where
  le := by
    intro e' he'
    obtain ⟨e, he, ⟨_, rfl⟩ | ⟨_, rfl⟩⟩ := mem_confirm.mp he'
    · have hle := h.le e he
      exact hle
    · exact h.le e' he
  eq := by
    intro hclock e' he'
    obtain ⟨e, he, ⟨_, rfl⟩ | ⟨_, rfl⟩⟩ := mem_confirm.mp he'
    · have heq := h.eq hclock e he
      exact heq
    · exact h.eq hclock e' he

theorem Dated.upsert (h : es.Dated readings log) (m : Moment) (r : Record) :
    (es.upsert m r).Dated (m.now :: readings) ((m, r) :: log) where
  le := by
    intro e' he'
    rcases mem_upsert.mp he' with ⟨he, _⟩ | ⟨e, he, hident, rfl⟩ | ⟨_, rfl⟩
    · exact List.exists_mem_cons_of_exists (h.le e' he)
    · obtain ⟨t, ht, hle⟩ := h.le e he
      have hupdated := (Entry.holds_overwrite hident m).micros_updated
      have hcreated := e.created_le_updated
      rw [hupdated, Entry.created_overwrite]
      by_cases hnow : m.now.micros ≤ t.micros
      · exact ⟨t, List.mem_cons_of_mem _ ht, by omega⟩
      · exact ⟨m.now, List.mem_cons_self, by omega⟩
    · exact ⟨m.now, List.mem_cons_self, Int.le_refl _⟩
  eq := by
    intro hclock e' he' n a hlast
    obtain ⟨hlater, hclock⟩ := List.pairwise_cons.mp hclock
    rcases mem_upsert.mp he' with ⟨he, hne⟩ | ⟨e, he, hident, rfl⟩ | ⟨_, rfl⟩
    · rw [Log.latest?_cons_other (Ne.symm hne)] at hlast
      exact h.eq hclock e' he n a hlast
    · have hsame : (e.overwrite r m.now.storeTime none).identity = r.identity := hident
      rw [hsame, Log.latest?_cons_same, Option.some.injEq, Prod.mk.injEq] at hlast
      obtain ⟨rfl, rfl⟩ := hlast
      obtain ⟨t, ht, hle⟩ := h.le e he
      have hnow := hlater t ht
      have hcreated := e.created_le_updated
      -- The entry is not ahead of the clock, so its creation does not hold its change back.
      rw [(Entry.holds_overwrite hident m).micros_updated, Entry.created_overwrite]
      omega
    · have hsame : (Entry.ofRecord m.freshId m.now.storeTime none r).identity = r.identity := rfl
      rw [hsame, Log.latest?_cons_same, Option.some.injEq, Prod.mk.injEq] at hlast
      obtain ⟨rfl, rfl⟩ := hlast
      rfl

end Ledger

namespace World

variable {c : PusherConfig} {w : World} {es : Ledger}

/-- Every reading of the clock is later than those before, in microseconds. -/
def Advances (w : World) : Prop :=
  w.readings.Pairwise fun later earlier => earlier.micros < later.micros

instance (w : World) : Decidable w.Advances := inferInstanceAs (Decidable (List.Pairwise _ _))

/-- A request accepted has carried an entry as it is. -/
def Delivered (c : PusherConfig) (w : World) (e : Entry) : Prop :=
  ∃ body reply r, (body, reply) ∈ w.posts ∧ reply.error? = none ∧
    Flush.Carries c.stem body r ∧ e.Matches r

theorem History.dated (h : History c w es) : es.Dated w.readings w.observed :=
  h.ledger_induction (P := fun readings log es => es.Dated readings log)
    ⟨by simp, by simp⟩ (fun m r ih => ih.upsert m r) (fun now limit ih => (ih.tick now).reclaim limit)
    (fun t ih => ih.tick t) (fun ids t _ ih => ih.confirm ids t.storeTime)

theorem Delivered.mono {w' : World} {e : Entry} (h : w.Delivered c e) (hposts : w.posts ⊆ w'.posts) :
    w'.Delivered c e := by
  obtain ⟨body, reply, r, hpost, haccepts, hcarries, hmatches⟩ := h
  exact ⟨body, reply, r, hposts hpost, haccepts, hcarries, hmatches⟩

/-- Nothing observed is lost: its entry is there, and is pending or has been delivered as it is, and
what a flush has selected is vouched for. -/
structure Settles (c : PusherConfig) (w : World) (es : Ledger) : Prop where
  observed : ∀ i entry, w.observed.latest? i = some entry → ∃ e ∈ es, e.identity = i
  entries : ∀ e ∈ es, e.isPending = true ∨ w.Delivered c e
  selected : ∀ f, w.flight = some f → ∀ r ∈ f.journal.selected, es.Vouches f.journal.start r

/-- An event that leaves the entries and what was observed settles what was settled, where the flush
has selected what it had, or nothing. -/
theorem Settles.frame {w' : World} (h : w.Settles c es) (hobserved : w'.observed = w.observed)
    (hposts : w.posts ⊆ w'.posts)
    (hflight : ∀ f', w'.flight = some f' → f'.journal.selected = [] ∨
      ∃ f, w.flight = some f ∧ f'.journal.start = f.journal.start ∧
        f'.journal.selected = f.journal.selected) : w'.Settles c es where
  observed := by
    rw [hobserved]
    exact h.observed
  entries e he := (h.entries e he).imp_right fun hold => hold.mono hposts
  selected := by
    intro f' hf' r hr
    rcases hflight f' hf' with hnone | ⟨f, hf, hstart, hselected⟩
    · simp [hnone] at hr
    · rw [hselected] at hr
      rw [hstart]
      exact h.selected f hf r hr

theorem Settles.observe (h : w.Settles c es) {m : Moment} (r : Record)
    (hlater : ∀ t ∈ w.readings, t.micros < m.now.micros)
    (hstarted : ∀ f, w.flight = some f → ∀ t, f.journal.start = some t → t ∈ w.readings) :
    Settles c (note { w with store := w.store.put (es.upsert m r) } m r) (es.upsert m r) where
  observed := by
    intro i entry hlast
    by_cases hident : r.identity = i
    · subst hident
      exact Ledger.exists_upsert es m r
    · have hlast' : w.observed.latest? i = some entry := by
        rw [← hlast]
        exact (Log.latest?_cons_other hident m w.observed).symm
      obtain ⟨e, he, rfl⟩ := h.observed i entry hlast'
      exact ⟨e, Ledger.mem_upsert.mpr (.inl ⟨he, Ne.symm hident⟩), rfl⟩
  entries := by
    intro e' he'
    by_cases hident : e'.identity = r.identity
    · have hsent := (Ledger.upsert_spec he' hident).2
      exact .inl (by simp [Entry.isPending, hsent])
    · rcases Ledger.mem_upsert.mp he' with ⟨he, _⟩ | ⟨e, _, hsame, rfl⟩ | ⟨_, rfl⟩
      · have hold := h.entries e' he
        exact hold
      · exact absurd hsame hident
      · exact absurd rfl hident
  selected := by
    intro f hf x hx
    obtain ⟨g, hg, rfl⟩ := Option.map_eq_some_iff.mp hf
    obtain ⟨e, he, hid, hvouch⟩ := h.selected g hg x hx
    by_cases hident : e.identity = r.identity
    · refine ⟨_, Ledger.mem_upsert.mpr (.inr (.inl ⟨e, he, hident, rfl⟩)), hid, .inl ?_⟩
      intro t ht
      have hnow := hlater t (hstarted g hg t ht)
      rw [(Entry.holds_overwrite hident m).micros_updated]
      omega
    · exact ⟨e, Ledger.mem_upsert.mpr (.inl ⟨he, hident⟩), hid, hvouch⟩

theorem History.pass_kept (h : History c w es) {now : Instant} {retention : Duration}
    (hkept : (w.sweep now (w.store.put (es.reclaim (now.back retention).micros))).dropped = []) :
    w.dropped = [] ∧ es ⊆ es.reclaim (now.back retention).micros := by
  obtain ⟨hrows, hdropped⟩ := List.append_eq_nil_iff.mp hkept
  refine ⟨hdropped, ?_⟩
  intro e he
  have hsub : es.reclaim (now.back retention).micros ⊆ es := List.filter_subset_self es
  have hleft : (w.store.put (es.reclaim (now.back retention).micros)).db.rows =
      (es.reclaim (now.back retention).micros).map Entry.row := (h.pass now retention).ready.rows
  have hrow : e.row ∈ w.store.db.rows := h.ready.rows ▸ List.mem_map_of_mem he
  -- Had the pass taken the row away, it would stand among those dropped.
  have hin := List.filter_eq_nil_iff.mp hrows e.row hrow
  rw [hleft, decide_eq_true_eq, not_not] at hin
  exact (Ledger.row_mem_iff h.ready.distinct hsub he).mp hin

theorem Settles.mark (h : w.Settles c es) {f : Flight} (hf : w.flight = some f)
    (hd : es.Distinct) (hposted : ∀ body ∈ f.journal.accepted,
      ∃ reply, (body, reply) ∈ w.posts ∧ reply.error? = none)
    {ids : List String} {t : Instant} (hjustified : Flush.Justified c.stem f.journal ids t)
    (store : Store) (rest : Procedure (Except PushError Report)) :
    Settles c { w with store, flight := some { f with rest, since := [] } }
      (es.confirm ids t.storeTime) where
  observed := by
    intro i entry hlast
    obtain ⟨e, he, hident⟩ := h.observed i entry hlast
    obtain ⟨e', he', hcont⟩ := Ledger.keeps_confirm ids t.storeTime e he
    exact ⟨e', he', hcont.identity.trans hident⟩
  entries := by
    intro e' he'
    obtain ⟨e, he, ⟨hid, rfl⟩ | ⟨_, rfl⟩⟩ := Ledger.mem_confirm.mp he'
    · -- A delivery confirmed reaches past the last change only where the entry is as selected.
      obtain ⟨r, hr, hrid, body, hbody, hcarries⟩ := hjustified.2 e.id hid
      obtain ⟨x, hx, hxid, hvouch⟩ := h.selected f hf r hr
      obtain rfl := Ledger.eq_of_id_eq hd hx he (hxid.trans hrid)
      rcases hvouch with hlater | hmatches
      · exact .inl (decide_eq_true (hlater t hjustified.1))
      · obtain ⟨reply, hpost, haccepts⟩ := hposted body hbody
        exact .inr ⟨body, reply, r, hpost, haccepts, hcarries, hmatches.confirm _⟩
    · have hold := h.entries e' he
      exact hold
  selected := by
    intro g hg r hr
    obtain rfl := Option.some.inj hg
    obtain ⟨e, he, hid, hvouch⟩ := h.selected f hf r hr
    by_cases hmem : e.id ∈ ids
    · refine ⟨_, Ledger.mem_confirm.mpr ⟨e, he, .inl ⟨hmem, rfl⟩⟩, hid, ?_⟩
      exact hvouch.imp_right fun hmatches => hmatches.confirm _
    · exact ⟨e, Ledger.mem_confirm.mpr ⟨e, he, .inr ⟨hmem, rfl⟩⟩, hid, hvouch⟩

theorem History.settles (h : History c w es) (hclock : w.Advances) (hkept : w.dropped = []) :
    w.Settles c es := by
  induction h with
  | start => exact ⟨by simp [World.start, Log.latest?], by simp, by simp [World.start]⟩
  | observe r h _ _ ih =>
    obtain ⟨hlater, hclock⟩ := List.pairwise_cons.mp hclock
    exact (ih hclock hkept).observe r hlater fun f hf => (h.flight_sound hf).started
  | pass now retention h ih =>
    obtain ⟨hdropped, hsub⟩ := h.pass_kept hkept
    obtain ⟨hobserved, hentries, hselected⟩ := ih (List.pairwise_cons.mp hclock).2 hdropped
    refine ⟨?_, ?_, ?_⟩
    · intro i entry hlast
      obtain ⟨e, he, hident⟩ := hobserved i entry hlast
      exact ⟨e, hsub he, hident⟩
    · intro e he
      have hold := hentries e (Ledger.mem_reclaim.mp he).1
      exact hold
    · intro f hf r hr
      obtain ⟨e, he, hvouch⟩ := hselected f hf r hr
      exact ⟨e, hsub he, hvouch⟩
  | begin _ ih =>
    refine (ih hclock hkept).frame rfl (List.Subset.refl _) ?_
    intro f' hf'
    exact .inl (Option.some.inj hf' ▸ rfl)
  | stop _ ih =>
    refine (ih hclock hkept).frame rfl (List.Subset.refl _) ?_
    simp
  | readClock t _ _ _ ih =>
    refine (ih (List.pairwise_cons.mp hclock).2 hkept).frame rfl (List.Subset.refl _) ?_
    intro f' hf'
    exact .inl (Option.some.inj hf' ▸ rfl)
  | @select w es f next found _ _ _ hfound ih =>
    obtain ⟨hobserved, hentries, _⟩ := ih hclock hkept
    refine ⟨hobserved, hentries, ?_⟩
    intro g hg r hr
    obtain rfl := Option.some.inj hg
    cases found with
    | error e => simp [Except.toOption] at hr
    | ok records =>
      obtain rfl := hfound records rfl
      obtain ⟨e, he, rfl⟩ := List.mem_map.mp hr
      exact ⟨e, (List.mem_filter.mp he).1, rfl, .inr e.matches_record⟩
  | @post w es f key body next reply elapsed _ hf _ ih =>
    have hext := f.journal.extends_replied body reply
    refine (ih hclock hkept).frame rfl (List.subset_cons_self _ _) ?_
    intro f' hf'
    obtain rfl := Option.some.inj hf'
    exact .inr ⟨f, hf, hext.start, hext.selected⟩
  | mark n h hf hrest ih =>
    have hsound := h.flight_sound hf
    have hjustified := hsound.ensures
    rw [hrest] at hjustified
    exact (ih hclock hkept).mark hf h.ready.distinct hsound.posted hjustified.1 _ _
  | markFailed e _ hf _ ih =>
    refine (ih hclock hkept).frame rfl (List.Subset.refl _) ?_
    intro f' hf'
    exact .inr ⟨_, hf, by rw [← Option.some.inj hf'], by rw [← Option.some.inj hf']⟩
  | quiet change _ hf _ ih =>
    refine (ih hclock hkept).frame rfl (List.Subset.refl _) ?_
    intro f' hf'
    exact .inr ⟨_, hf, by rw [← Option.some.inj hf'], by rw [← Option.some.inj hf']⟩
  | count change _ ih =>
    exact (ih hclock hkept).frame rfl (List.Subset.refl _) fun f hf => .inr ⟨f, hf, rfl, rfl⟩
  | tick t _ ih =>
    exact (ih (List.pairwise_cons.mp hclock).2 hkept).frame rfl (List.Subset.refl _)
      fun f hf => .inr ⟨f, hf, rfl, rfl⟩

/-- At least once: while the clock advances and nothing is dropped, what an identity has last been
observed as is pending in the store, or has been carried by a request that was accepted. -/
theorem latest_pending_or_delivered (hw : Reachable c w) (hclock : w.Advances)
    (hkept : w.dropped = []) {i : Identity} {m : Moment} {a : Record}
    (hlast : w.observed.latest? i = some (m, a)) :
    (∃ row ∈ w.store.db.rows, ∃ r, row.record? = .ok r ∧ r.isPending = true ∧ r.Repeats a ∧
        r.updated.micros = m.now.micros) ∨
      ∃ body code r, (body, Reply.status code) ∈ w.posts ∧ 200 ≤ code ∧ code < 300 ∧
        Flush.Carries c.stem body r ∧ r.Repeats a ∧ r.updated.micros = m.now.micros := by
  obtain ⟨es, h⟩ := hw.history
  have hsettles := h.settles hclock hkept
  obtain ⟨e, he, rfl⟩ := hsettles.observed i (m, a) hlast
  obtain ⟨m', a', hlast', hholds⟩ := h.tells e he
  rw [hlast, Option.some.injEq, Prod.mk.injEq] at hlast'
  obtain ⟨rfl, rfl⟩ := hlast'
  have hupdated := h.dated.eq hclock e he m a hlast
  rcases hsettles.entries e he with hpending | ⟨body, reply, r, hpost, haccepts, hcarries, hmatches⟩
  · left
    refine ⟨e.row, h.ready.rows ▸ List.mem_map_of_mem he, e.record, e.record?_row, ?_,
      hholds.content, ?_⟩
    · rw [Entry.isPending_record, hpending]
    · rw [Entry.micros_updated_record, hupdated]
  · right
    obtain ⟨code, rfl, hle, hlt⟩ := Reply.error?_eq_none.mp haccepts
    refine ⟨body, code, r, hpost, hle, hlt, hcarries, hmatches.content.trans hholds.content, ?_⟩
    rw [hmatches.updated, StoreTime.micros_stamp, hupdated]

/-- The pod is confirmed after it has been observed anew, and a second flush has selected it. -/
def selectedAgain : World :=
  start.run sampleConfig <|
    sampleEvents 0 1 2 ++ [.act (sampleOutside 1), .act (sampleOutside 1), .begin] ++
      List.replicate 2 (.act (sampleOutside 3))

theorem latest_pending_or_delivered_selectedAgain :
    (∃ row ∈ selectedAgain.store.db.rows, ∃ r, row.record? = .ok r ∧ r.isPending = true ∧
        r.Repeats (samplePod "2") ∧ r.updated.micros = (Instant.sampleSecond 2).micros) ∨
      ∃ body code r, (body, Reply.status code) ∈ selectedAgain.posts ∧ 200 ≤ code ∧ code < 300 ∧
        Flush.Carries sampleConfig.stem body r ∧ r.Repeats (samplePod "2") ∧
        r.updated.micros = (Instant.sampleSecond 2).micros :=
  have hw : Reachable sampleConfig selectedAgain := .run .start (by decide +kernel)
  have hlast : selectedAgain.observed.latest? (samplePod "2").identity =
      some (⟨.sampleSecond 2, "b"⟩, samplePod "2") := by decide +kernel
  latest_pending_or_delivered hw (by decide +kernel) (by decide +kernel) hlast

end World

end ClusterOutbox
