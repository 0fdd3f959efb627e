import ClusterOutbox.Proofs.Store.Arising

namespace ClusterOutbox

structure Row.Continues (old new : Row) : Prop where
  id : new.id = old.id
  kind : new.kind = old.kind
  name : new.name = old.name
  ns : new.ns = old.ns
  nsKey : new.nsKey = old.nsKey
  created : new.created = old.created

theorem Entry.Continues.row {a b : Entry} (h : a.Continues b) : a.row.Continues b.row where
  id := congrArg Cell.text h.id
  kind := by simp only [Entry.row, h.kind]
  name := congrArg Cell.text h.name
  ns := congrArg Cell.ofText? h.ns
  nsKey := by simp only [Entry.row, h.ns]
  created := by simp only [Entry.row, h.created]

/-- A store whose rows are told apart by their ids and by their identities, and have their times in
order. -/
structure Store.Orderly (s : Store) : Prop where
  ids_nonempty : ∀ row ∈ s.db.rows, ∃ id, id ≠ "" ∧ row.id = .text id
  ids_differ : s.db.rows.Pairwise fun a b => a.id ≠ b.id
  identities_differ : s.db.rows.Pairwise fun a b => a.sameIdentity b = false
  namespaces : ∀ row ∈ s.db.rows, row.nsKey = if row.ns = .null then .text "" else row.ns
  times : ∀ row ∈ s.db.rows, ∃ created updated,
    row.created = .integer created ∧ row.updated = .integer updated ∧ created ≤ updated

/-- Whether every row reads back. -/
def Store.Reads (s : Store) : Prop := ∀ row ∈ s.db.rows, ∃ r, row.record? = .ok r

instance (s : Store) : Decidable s.Reads :=
  decidable_of_iff (∀ row ∈ s.db.rows, row.record?.isOk = true) <| forall₂_congr fun row _ => by
    cases row.record? <;> simp [Except.isOk, Except.toBool]

/-- A store where no look-up fails on what is stored. -/
structure Store.Readable (s : Store) : Prop where
  reads : s.Reads
  findAll : ∀ q, ∃ records, (Session.call (Session.findAll q)).run s = (.ok records, s)
  findFirst : ∀ q reason, ((Session.call (Session.findFirst q)).run s).1 ≠ .error (.invalidData reason)
  get : ∀ id reason, ((Session.call (Session.get? id)).run s).1 ≠ .error (.invalidData reason)

/-- A call that breaks no rule of the table, keeps what identifies a row and when it was created, and
takes no row away unless it deletes. -/
structure Call.Faithful (c : Call) (s : Store) : Prop where
  not_duplicate : (c.perform s).1 ≠ .error .duplicateKey
  not_checked : (c.perform s).1 ≠ .error .checkViolated
  continues : ∀ row ∈ s.db.rows, ∀ row' ∈ (c.perform s).2.db.rows,
    row'.id = row.id ∨ row'.sameIdentity row = true → row.Continues row'
  origin : ∀ row' ∈ (c.perform s).2.db.rows,
    (∃ row ∈ s.db.rows, row.Continues row') ∨ ∃ id ∈ c.newIds, row'.id = .text id
  keeps : c.deletes = false →
    ∀ row ∈ s.db.rows, ∃ row' ∈ (c.perform s).2.db.rows, row.Continues row'

namespace Ledger

variable {es es' : Ledger} {ids : List String}

/-- An entry with the id or the identity of an earlier one continues it. -/
theorem Evolves.continues (h : es.Evolves ids es') (hd : es.Distinct) (hf : es.FreshIds ids)
    {e e' : Entry} (he : e ∈ es) (he' : e' ∈ es') (hsame : e'.id = e.id ∨ e'.identity = e.identity) :
    e.Continues e' := by
  rcases h e' he' with ⟨x, hx, hc⟩ | ⟨hnew, hk⟩
  · have hxe : x = e := by
      rcases hsame with hid | hident
      · exact eq_of_id_eq hd hx he (hc.id.symm.trans hid)
      · exact eq_of_identity_eq hd hx he (hc.identity.symm.trans hident)
    exact hxe ▸ hc
  · rcases hsame with hid | hident
    · exact absurd hid.symm (hf.absent e'.id hnew e he)
    · exact absurd hident.symm (hk e he)

end Ledger

namespace Store

variable {s : Store} {es : Ledger}

theorem Stands.orderly (hs : s.Stands es) : s.Orderly where
  ids_nonempty := by
    rw [hs.rows]
    intro row hrow
    obtain ⟨e, he, rfl⟩ := List.mem_map.mp hrow
    exact ⟨e.id, hs.distinct.ids_nonempty e he, rfl⟩
  ids_differ := by
    rw [hs.rows, List.pairwise_map]
    refine (List.pairwise_map.mp hs.distinct.ids).imp ?_
    intro a b hne heq
    exact hne (Cell.text.inj heq)
  identities_differ := by
    rw [hs.rows, List.pairwise_map]
    refine (List.pairwise_map.mp hs.distinct.identities).imp ?_
    intro a b hne
    rw [Entry.sameIdentity_row]
    exact decide_eq_false hne
  namespaces := by
    rw [hs.rows]
    intro row hrow
    obtain ⟨e, _, rfl⟩ := List.mem_map.mp hrow
    cases h : e.ns <;> simp [Entry.row, h, Cell.ofText?]
  times := by
    rw [hs.rows]
    intro row hrow
    obtain ⟨e, _, rfl⟩ := List.mem_map.mp hrow
    exact ⟨e.created.micros, e.updated.micros, rfl, rfl, e.created_le_updated⟩

theorem Shows.readable (hs : s.Shows es) (hopen : s.isOpen = true) : s.Readable where
  reads := by
    rw [Reads, hs.rows]
    intro row hrow
    obtain ⟨e, _, rfl⟩ := List.mem_map.mp hrow
    exact ⟨e.record, e.record?_row⟩
  findAll q := by
    rw [Session.run_call hopen]
    exact ⟨_, Session.run_findAll hs (p := fun e => q.selects e.row) (fun _ => rfl)⟩
  findFirst q reason := by
    rw [Session.run_call hopen, Session.run_findFirst hs]
    cases es.find? fun e => q.selects e.row <;> simp
  get id reason := by
    rw [Session.run_call hopen, Session.run_get hs]
    cases es.byId? id <;> simp

theorem outcome_ne (c : Call) (es : Ledger) :
    c.outcome es ≠ .error .duplicateKey ∧ c.outcome es ≠ .error .checkViolated := by
  cases c with
  | update m r =>
    simp only [Call.outcome]
    cases es.byId? r.id with
    | some _ => simp
    | none => by_cases h : r.id = "" <;> simp [h]
  | _ => simp [Call.outcome]

theorem Stands.faithful (hs : s.Stands es) {c : Call} (hc : c.Admissible s) : c.Faithful s := by
  obtain ⟨hresult, -⟩ := c.perform_shows hs.toShows hs.isOpen hc
  have hready := hs.call hc
  have hevolves := c.evolves_ledger es
  refine ⟨hresult ▸ (outcome_ne c es).1, hresult ▸ (outcome_ne c es).2, ?_, ?_, ?_⟩
  · rw [hs.rows, hready.rows]
    intro row hrow row' hrow' hsame
    obtain ⟨e, he, rfl⟩ := List.mem_map.mp hrow
    obtain ⟨e', he', rfl⟩ := List.mem_map.mp hrow'
    have hsame' : e'.id = e.id ∨ e'.identity = e.identity := by
      rw [Entry.sameIdentity_row, decide_eq_true_eq] at hsame
      exact hsame.imp_left Cell.text.inj
    exact (hevolves.continues hs.distinct (hc.freshIds hs.toShows) he he' hsame').row
  · rw [hs.rows, hready.rows]
    intro row' hrow'
    obtain ⟨e', he', rfl⟩ := List.mem_map.mp hrow'
    rcases hevolves e' he' with ⟨e, he, hcont⟩ | ⟨hnew, _⟩
    · exact .inl ⟨e.row, List.mem_map_of_mem he, hcont.row⟩
    · exact .inr ⟨e'.id, hnew, rfl⟩
  · intro hdeletes
    rw [hs.rows, hready.rows]
    intro row hrow
    obtain ⟨e, he, rfl⟩ := List.mem_map.mp hrow
    obtain ⟨e', he', hcont⟩ := Call.keeps_ledger (c := c) hdeletes e he
    exact ⟨e'.row, List.mem_map_of_mem he', hcont.row⟩

theorem Orderly.of_capped (h : s.capped.Orderly) : s.Orderly := by
  obtain ⟨hnonempty, hids, hidentities, hnamespaces, htimes⟩ := h
  rw [rows_capped, List.pairwise_map] at hids hidentities
  rw [rows_capped, List.forall_mem_map] at hnonempty hnamespaces htimes
  exact ⟨hnonempty, hids, hidentities, hnamespaces, htimes⟩

/-- What a call keeps of capped rows it keeps of the rows. -/
theorem faithful_of_capped {c : Call} (h : c.capped.Faithful s.capped) : c.Faithful s := by
  obtain ⟨hduplicate, hchecked, hcontinues, horigin, hkeeps⟩ := h
  simp only [c.perform_capped] at hduplicate hchecked
  simp only [c.perform_capped, rows_capped, List.forall_mem_map] at hcontinues horigin hkeeps
  have hback {a b : Row} (h : a.capped.Continues b.capped) : a.Continues b :=
    ⟨h.id, h.kind, h.name, h.ns, h.nsKey, h.created⟩
  refine ⟨hduplicate, hchecked, ?_, ?_, ?_⟩
  · exact fun row hrow row' hrow' hsame => hback (hcontinues row hrow row' hrow' hsame)
  · intro row' hrow'
    rcases horigin row' hrow' with ⟨capped, hcapped, hcont⟩ | ⟨id, hid, hnew⟩
    · obtain ⟨row, hrow, rfl⟩ := List.mem_map.mp hcapped
      exact .inl ⟨row, hrow, hback hcont⟩
    · exact .inr ⟨id, c.newIds_capped ▸ hid, hnew⟩
  · intro hdeletes row hrow
    obtain ⟨capped, hcapped, hcont⟩ := hkeeps (c.deletes_capped.trans hdeletes) row hrow
    obtain ⟨row', hrow', rfl⟩ := List.mem_map.mp hcapped
    exact ⟨row', hrow', hback hcont⟩

theorem Shows.exists_row_eq (hs : s.capped.Shows es) {row : Row} (hrow : row ∈ s.db.rows) :
    ∃ e : Entry, e.row = row.capped := by
  have hmem : row.capped ∈ es.map Entry.row := by
    rw [← hs.rows, rows_capped]
    exact List.mem_map_of_mem hrow
  obtain ⟨e, -, he⟩ := List.mem_map.mp hmem
  exact ⟨e, he⟩

theorem Shows.record?_beyond (hs : s.capped.Shows es) {row : Row} (hrow : row ∈ s.db.rows)
    {m : Int} (hsent : row.sentAt = .integer m) (hlate : 8210266876799999999 < m) :
    row.record? = .error (.outOfRange 9 m) := by
  obtain ⟨e, he⟩ := hs.exists_row_eq hrow
  have hsame : row = { e.row with sentAt := .integer m } := by
    rw [he, ← hsent]
    rfl
  exact hsame ▸ e.record?_row_beyond hlate

/-- Without a row whose delivery is after the calendar the capped store is the store. -/
theorem Shows.of_capped (hs : s.capped.Shows es) (hrows : ∀ row ∈ s.db.rows, ¬ row.Beyond) :
    s.Shows es := by
  obtain ⟨t, ht, hcapped⟩ := Option.map_eq_some_iff.mp hs.table
  have hsame : t.capped = t := by
    refine Table.capped_eq_self fun row hrow => hrows row ?_
    simpa [Database.rows, ht] using hrow
  exact ⟨by rw [ht, ← hcapped, hsame], hs.writable, hs.distinct⟩

theorem Shows.of_reads (hs : s.capped.Shows es) (hreads : s.Reads) : s.Shows es := by
  refine hs.of_capped fun row hrow => ?_
  rintro ⟨m, hsent, hlate⟩
  obtain ⟨r, hr⟩ := hreads row hrow
  cases (hs.record?_beyond hrow hsent hlate).symm.trans hr

/-- A store from which every row reads shows entries. -/
theorem Arises.shows (hs : s.Arises) (hreads : s.Reads) :
    s.isOpen = true ∧ ∃ es, s.Shows es := by
  obtain ⟨es, hes⟩ := hs.stands
  exact ⟨hes.isOpen, es, hes.toShows.of_reads hreads⟩

/-- No time that the store keeps lies after the calendar. -/
theorem not_beyond_row (e : Entry) : ¬ e.row.Beyond := by
  rintro ⟨m, hsent, hlate⟩
  cases htime : e.sentAt with
  | none => simp [Entry.row, htime, Cell.ofInteger?] at hsent
  | some t =>
    have hlast := t.le_last
    simp only [Entry.row, htime, Option.map_some, Cell.ofInteger?, Cell.integer.injEq] at hsent
    omega

/-- Whatever the calls are told, every store they lead to is in order and every further call is
faithful to its rows. A row reads back unless its delivery was told as one after the calendar. Without
such a row no look-up fails on what is stored, and a call makes none unless it tells such a delivery. -/
theorem Arises.orderly_and_faithful (hs : s.Arises) :
    s.Orderly ∧ (∀ c : Call, c.Fresh s → c.Faithful s) ∧
    (∀ row ∈ s.db.rows, (∃ r, row.record? = .ok r) ∨
      ∃ m, row.sentAt = .integer m ∧ 8210266876799999999 < m ∧
        row.record? = .error (.outOfRange 9 m)) ∧
    ((∀ row ∈ s.db.rows, ¬ row.Beyond) → s.Readable ∧
      ∀ c : Call, c.Admissible s → ∀ row ∈ (c.perform s).2.db.rows, ¬ row.Beyond) := by
  obtain ⟨es, hes⟩ := hs.stands
  refine ⟨hes.orderly.of_capped, fun c hc => faithful_of_capped (hes.faithful hc.capped), ?_, ?_⟩
  · intro row hrow
    by_cases hbeyond : row.Beyond
    · obtain ⟨m, hsent, hlate⟩ := hbeyond
      exact .inr ⟨m, hsent, hlate, hes.toShows.record?_beyond hrow hsent hlate⟩
    · obtain ⟨e, he⟩ := hes.toShows.exists_row_eq hrow
      rw [Row.capped_eq_self hbeyond] at he
      exact .inl ⟨e.record, he ▸ e.record?_row⟩
  · intro hrows
    have hopen : s.isOpen = true := hes.isOpen
    have hshows := hes.toShows.of_capped hrows
    refine ⟨hshows.readable hopen, fun c hc row hrow => ?_⟩
    obtain ⟨-, hafter, -⟩ := c.perform_shows hshows hopen hc
    rw [hafter.rows] at hrow
    obtain ⟨e, -, rfl⟩ := List.mem_map.mp hrow
    exact not_beyond_row e

/-- A store with one pod, observed at ten seconds. -/
def onePod : Store :=
  ((Call.upsert ⟨.sampleSecond 10, "a"⟩
    (.fresh .pod "web-0" (some "default"))).perform .fresh).2

/-- The pod observed twice more, after the clock has stepped back. -/
def steppedBack : Call :=
  .observeAll [(⟨.sampleSecond 4, "b"⟩, .fresh .pod "web-0" (some "default")),
    (⟨.sampleSecond 4, "c"⟩, .fresh .pod "web-0" (some "default"))]

theorem orderly_and_faithful_steppedBack :
    onePod.Orderly ∧ onePod.Readable ∧ steppedBack.Faithful onePod := by
  have hs : onePod.Arises := .call _ .fresh (by decide)
  obtain ⟨horderly, hfaithful, -, hreadable⟩ := hs.orderly_and_faithful
  obtain ⟨hread, -⟩ := hreadable (by decide +kernel)
  exact ⟨horderly, hread, hfaithful steppedBack (by decide)⟩

/-- A pod told as delivered in the leap second after the last minute of the calendar. -/
def lateDelivery : Call :=
  .create ⟨.sampleSecond 10, "a"⟩ { Record.fresh .pod "web-0" (some "default") with
    sentAt := Stamp.ofParts? 8210266876799 1000000000 }

def lateDelivered : Store := (lateDelivery.perform .fresh).2

/-- A delivery after the calendar is stored as it is told, and cannot be read. -/
theorem late_delivery_unreadable :
    lateDelivery.Fresh .fresh ∧ (lateDelivery.perform .fresh).1 = .ok () ∧
      lateDelivered.db.rows.map Row.record? = [.error (.outOfRange 9 8210266876800000000)] ∧
      ((Session.call (Session.get? "a")).run lateDelivered).1 =
        .error (.invalidData "column 9: 8210266876800000000 out of range") ∧
      ¬ ∀ s : Store, s.Arises → s.Reads := by
  have hfresh : lateDelivery.Fresh .fresh := by decide
  have hreads : ¬ lateDelivered.Reads := by decide +kernel
  exact ⟨hfresh, by decide +kernel, by decide +kernel, by decide +kernel,
    fun h => hreads (h lateDelivered (.call lateDelivery .fresh hfresh))⟩

end Store

end ClusterOutbox
