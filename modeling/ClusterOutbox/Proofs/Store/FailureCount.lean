import ClusterOutbox.Proofs.Delivery.Tally
import ClusterOutbox.Proofs.Store.Calls
import ClusterOutbox.Proofs.Store.Owner

namespace ClusterOutbox

/-- A write that failed, with the database that it was made on. -/
structure FailedWrite where
  write : Write
  db : Database

def Record.isOf (resourceType ns : String) (r : Record) : Bool :=
  r.kind.name == resourceType && r.nsKey == ns

/-- Whether a row has a kind of a name, and a namespace. -/
def Row.isOf (resourceType ns : String) (row : Row) : Bool :=
  (Kind.all.any fun k => k.name == resourceType && row.kind == .integer k.code) &&
    row.nsKey == .text ns

namespace FailedWrite

/-- Whether a failed write counts under some labels: those of the record written, or of the row that
was to be deleted. -/
def countsUnder (resourceType ns action : String) (x : FailedWrite) : Bool :=
  match x.write with
  | .create _ r => action == "create" && r.isOf resourceType ns
  | .update _ r => action == "update" && r.isOf resourceType ns
  | .upsert _ r => action == "upsert" && r.isOf resourceType ns
  | .delete id =>
    action == "delete" &&
      x.db.rows.any fun row => row.id == .text id && row.isOf resourceType ns
  | .deleteAll | .confirm _ _ => false

/-- The failures among writes made one after another until one fails. -/
def inTurn : List Write → Store → List FailedWrite
  | [], _ => []
  | w :: ws, s =>
    match w.session.run s with
    | (.ok _, s') => inTurn ws s'
    | (.error _, _) => [⟨w, s.db⟩]

end FailedWrite

/-- The failed writes of a call. A batch and a pass make theirs in a transaction of their own. -/
def Call.failures (c : Call) (s : Store) : List FailedWrite :=
  match c with
  | create m r => FailedWrite.inTurn [.create m r] s
  | update m r => FailedWrite.inTurn [.update m r] s
  | upsert m r => FailedWrite.inTurn [.upsert m r] s
  | delete id => FailedWrite.inTurn [.delete id] s
  | markSent _ _ => []
  | observeAll items => FailedWrite.inTurn (items.map fun item => .upsert item.1 item.2) s.begun
  | pass now retention =>
    match ((Session.findAll (.reclaimable (now.back retention))).run s.begun).1 with
    | .ok records => FailedWrite.inTurn (records.map fun r => .delete r.id) s.begun
    | .error _ => []

/-- The reads that the store offers. -/
inductive Inquiry
  | get (id : String)
  | first (q : Query)
  | all (q : Query)
  | count (q : Query)

def Inquiry.session : Inquiry → Session Unit
  | get id => do let _ ← Session.get? id
  | first q => do let _ ← Session.findFirst q
  | all q => do let _ ← Session.findAll q
  | count q => do let _ ← Session.countBy q

/-- What happens to a store: calls and reads, and guards that come and go between them. -/
inductive StoreEvent
  | call (c : Call)
  | read (q : Inquiry)
  | guard (g : Guard)
  | unguard (title : String)

namespace StoreEvent

def perform : StoreEvent → Store → Store
  | call c, s => (c.perform s).2
  | read q, s => ((Session.call q.session).run s).2
  | guard g, s => ((Session.statement fun db => db.guard g).run s).2
  | unguard title, s => ((Session.statement fun db => db.unguard title).run s).2

def failures : StoreEvent → Store → List FailedWrite
  | call c, s => c.failures s
  | read _, _ | guard _, _ | unguard _, _ => []

def performAll : List StoreEvent → Store → Store
  | [], s => s
  | h :: hs, s => performAll hs (h.perform s)

/-- The failed writes of all that happens to a store, in order. -/
def allFailures : List StoreEvent → Store → List FailedWrite
  | [], _ => []
  | h :: hs, s => h.failures s ++ allFailures hs (h.perform s)

end StoreEvent

namespace Store

/-- From one store to another, some failed writes are counted, and nothing else. -/
def Counts (failures : List FailedWrite) (s s' : Store) : Prop :=
  ∀ resourceType ns action, s'.metrics.writeFailureCount resourceType ns action =
    s.metrics.writeFailureCount resourceType ns action +
      .ofNat (failures.countP (·.countsUnder resourceType ns action))

variable {s s' s'' : Store} {failures more : List FailedWrite}

theorem counts_nothing (h : s'.metrics = s.metrics) : Counts [] s s' := by
  intro resourceType ns action
  rw [h]
  exact (UInt64.add_zero _).symm

theorem Counts.append (h : Counts failures s s') (h' : Counts more s' s'') :
    Counts (failures ++ more) s s'' := by
  intro resourceType ns action
  rw [h', h, List.countP_append, UInt64.ofNat_add, UInt64.add_assoc]

/-- One failure more under the labels of a failed write is that write counted. -/
theorem counts_failure {x : FailedWrite} {kind : Kind} {ns action : String}
    (hx : ∀ resourceType ns' action', x.countsUnder resourceType ns' action' =
      (action' == action && (kind.name == resourceType && ns == ns')))
    (h : s'.metrics = s.metrics.addWriteFailures kind.name ns action 1) : Counts [x] s s' := by
  intro resourceType ns' action'
  rw [h, List.countP_singleton, hx]
  by_cases hsame : action' = action ∧ kind.name = resourceType ∧ ns = ns'
  · obtain ⟨rfl, rfl, rfl⟩ := hsame
    simpa [Metrics.writeFailureCount, Metrics.addWriteFailures] using Metrics.countOf_addTo ..
  · have hkey : Metrics.writeFailureKey resourceType ns' action' ≠
        Metrics.writeFailureKey kind.name ns action := by
      simp only [Metrics.writeFailureKey, ne_eq, List.cons.injEq, and_true]
      rintro ⟨haction, hns, hkind⟩
      exact hsame ⟨haction, hkind.symm, hns.symm⟩
    rw [if_neg (by simpa using hsame)]
    exact (Metrics.countOf_addTo_of_ne hkey _ 1).trans (UInt64.add_zero _).symm

end Store

theorem Row.isOf_eq {row : Row} {kind : Kind} {ns : String} (hkind : row.kind = .integer kind.code)
    (hns : row.nsKey = .text ns) (resourceType ns' : String) :
    row.isOf resourceType ns' = (kind.name == resourceType && ns == ns') := by
  have hcode : ∀ k : Kind, row.kind == .integer k.code ↔ kind = k := by
    intro k
    rw [hkind, beq_iff_eq, Cell.integer.injEq]
    exact ⟨fun h => by rw [← Kind.ofCode_code kind, h, Kind.ofCode_code], fun h => h ▸ rfl⟩
  have hall : kind ∈ Kind.all := by cases kind <;> decide
  rw [Bool.eq_iff_iff]
  simp only [Row.isOf, hns, Bool.and_eq_true, List.any_eq_true, hcode, beq_iff_eq, Cell.text.injEq]
  constructor
  · rintro ⟨⟨k, -, hname, rfl⟩, hsame⟩
    exact ⟨hname, hsame⟩
  · rintro ⟨hname, hsame⟩
    exact ⟨⟨kind, hall, hname, rfl⟩, hsame⟩

namespace Session

variable {α β : Type}

theorem snd_run_map (x : Session α) (f : α → β) (s : Store) :
    ((x >>= fun a => pure (f a)).run s).2 = (x.run s).2 := by
  rcases hrun : x.run s with ⟨e | a, s'⟩
  · rw [run_bind_error hrun]
  · rw [run_bind_ok hrun, run_pure]

end Session

namespace FailedWrite

variable {s s' : Store} {w : Write} {ws : List Write}

theorem inTurn_ok {a : w.Outcome} (h : w.session.run s = (.ok a, s')) :
    inTurn (w :: ws) s = inTurn ws s' := by
  rw [inTurn, h]

theorem inTurn_error {e : StoreError} (h : w.session.run s = (.error e, s')) :
    inTurn (w :: ws) s = [⟨w, s.db⟩] := by
  rw [inTurn, h]

end FailedWrite

/-- A write whose failure, and nothing else, is counted where it is made. -/
def Write.Counted (w : Write) (s : Store) : Prop :=
  Store.Counts (FailedWrite.inTurn [w] s) s (w.session.run s).2

namespace Write

variable {s : Store}

theorem counted_record {w : Write} {work : Session w.Outcome} {r : Record} {action : String}
    (hw : w.session = Session.counted r action work) (hwork : work.Uncounted)
    (hunder : ∀ db resourceType ns action',
      (⟨w, db⟩ : FailedWrite).countsUnder resourceType ns action' =
        (action' == action && r.isOf resourceType ns)) (s : Store) : w.Counted s := by
  have hmetrics := hwork s
  rcases hrun : work.run s with ⟨e | a, s'⟩
  · rw [hrun] at hmetrics
    have hfailed : w.session.run s = (.error e, Session.failedWrite r action s') := by
      rw [hw, Session.run_counted_error hrun]
    rw [Counted, FailedWrite.inTurn_error hfailed, hfailed]
    refine Store.counts_failure (hunder s.db) ?_
    rw [← hmetrics]
    rfl
  · rw [hrun] at hmetrics
    have hdone : w.session.run s = (.ok a, s') := by rw [hw, Session.run_counted_ok hrun]
    rw [Counted, FailedWrite.inTurn_ok hdone, hdone]
    exact Store.counts_nothing hmetrics

theorem counted_create (m : Moment) (r : Record) (s : Store) : (create m r).Counted s :=
  counted_record rfl
    ((Session.uncounted_statement _).bind fun _ => Session.uncounted_pure _) (fun _ _ _ _ => rfl) s

theorem counted_update (m : Moment) (r : Record) (s : Store) : (update m r).Counted s := by
  by_cases hid : r.id = ""
  · have hthrow : (update m r).session = Session.counted r "update" (throw .missingKey) := by
      simp only [session, Session.update, if_pos hid]
      rfl
    exact counted_record hthrow (Session.uncounted_throw _) (fun _ _ _ _ => rfl) s
  · exact counted_record (w := .update m r) (Session.update_eq m hid)
      ((Session.uncounted_statement _).bind fun row => (Session.reads_updateAnswer r row).uncounted)
      (fun _ _ _ _ => rfl) s

theorem counted_upsert (m : Moment) (r : Record) (s : Store) : (upsert m r).Counted s :=
  counted_record (w := .upsert m r) (Session.upsert_eq m r)
    ((Session.uncounted_statement _).bind fun row => (Session.reads_upsertAnswer m r row).uncounted)
    (fun _ _ _ _ => rfl) s

/-- The stored row of the id tells what a failed deletion counts under. -/
theorem counted_delete {id : String} (hs : s.Tidy) (hback : s.db.rows ⊆ s.db.restored.rows) :
    (delete id).Counted s := by
  rcases hrun : (Session.delete id).run s with ⟨e | n, s'⟩
  · obtain ⟨row, hrow, hid, kind, ns, hkind, hns, hmetrics⟩ :=
      Session.run_delete_error hs hback hrun
    have hfailed : (delete id).session.run s = (.error e, s') := hrun
    rw [Counted, FailedWrite.inTurn_error hfailed, hfailed]
    refine Store.counts_failure ?_ hmetrics
    intro resourceType ns' action'
    have honly : ∀ other ∈ s.db.rows, other.id = .text id → other = row := by
      obtain ⟨t, ht, htidy⟩ := hs.db.table
      rw [Database.rows_of_table ht] at hrow ⊢
      exact fun other hother hsame => htidy.eq_of_id_eq hother hrow (hsame.trans hid.symm)
    have hany : (s.db.rows.any fun other => other.id == .text id && other.isOf resourceType ns') =
        row.isOf resourceType ns' := by
      rw [Bool.eq_iff_iff, List.any_eq_true]
      constructor
      · rintro ⟨other, hother, hmatch⟩
        obtain ⟨hsame, hof⟩ := Bool.and_eq_true_iff.mp hmatch
        rwa [← honly other hother (beq_iff_eq.mp hsame)]
      · intro hof
        exact ⟨row, hrow, by simp [hid, hof]⟩
    rw [← row.isOf_eq hkind hns, ← hany]
    rfl
  · obtain ⟨t, t', -, -, rfl⟩ := Session.run_delete_ok hrun
    have hdone : (delete id).session.run s = (.ok n, s.holding t') := hrun
    rw [Counted, FailedWrite.inTurn_ok hdone, hdone]
    exact Store.counts_nothing rfl

end Write

namespace Session

variable {α β : Type} {s : Store}

/-- A write, and what is made of its success. -/
theorem counts_bind {w : Write} {ws : List Write} {k : w.Outcome → Session β} (hw : w.Counted s)
    (hk : ∀ a s', w.session.run s = (.ok a, s') →
      Store.Counts (FailedWrite.inTurn ws s') s' ((k a).run s').2) :
    Store.Counts (FailedWrite.inTurn (w :: ws) s) s ((w.session >>= k).run s).2 := by
  rcases hrun : w.session.run s with ⟨e | a, s'⟩
  · rw [Write.Counted, FailedWrite.inTurn_error hrun, hrun] at hw
    rw [FailedWrite.inTurn_error hrun, run_bind_error hrun]
    exact hw
  · rw [Write.Counted, FailedWrite.inTurn_ok hrun, hrun] at hw
    rw [FailedWrite.inTurn_ok hrun, run_bind_ok hrun]
    exact hw.append (hk a s' hrun)

theorem counts_upserts (items : List (Moment × Record)) (s : Store) :
    Store.Counts (FailedWrite.inTurn (items.map fun item => .upsert item.1 item.2) s) s
      ((items.mapM fun (m, r) => upsert m r).run s).2 := by
  induction items generalizing s with
  | nil => exact Store.counts_nothing rfl
  | cons item items ih =>
    rw [List.mapM_cons]
    refine counts_bind (Write.counted_upsert item.1 item.2 s) ?_
    intro o s' _
    rw [snd_run_map]
    exact ih s'

/-- Deletions made inside a transaction that leads back to all the rows. -/
theorem counts_deleteEach (records : List Record) (hs : s.Tidy) (hsaved : s.db.saved ≠ none)
    (hback : s.db.rows ⊆ s.db.restored.rows) :
    Store.Counts (FailedWrite.inTurn (records.map fun r => .delete r.id) s) s
      ((Keeper.deleteEach records).run s).2 := by
  induction records generalizing s with
  | nil => exact Store.counts_nothing rfl
  | cons r records ih =>
    rw [Keeper.deleteEach]
    refine counts_bind (w := .delete r.id) (Write.counted_delete hs hback) ?_
    intro n s' hrun
    have htidy : s'.Tidy := by
      have hkept := (Write.delete r.id).keepsTidy s hs
      rwa [hrun] at hkept
    obtain ⟨t, t', ht, hrows, rfl⟩ := run_delete_ok hrun
    rw [snd_run_map]
    refine ih htidy hsaved ?_
    have hrestored : (s.holding t').db.restored = s.db.restored :=
      Database.restored_showing hsaved t'
    rw [hrestored]
    rw [Database.rows_of_table ht] at hback
    exact fun row hrow => hback (hrows hrow)

/-- What is counted inside a transaction stays counted when it ends, kept or undone. -/
theorem counts_tx {work : Session α} {failures : List FailedWrite} (hs : s.db.saved = none)
    (h : Store.Counts failures s.begun (work.run s.begun).2) :
    Store.Counts failures s ((tx work).run s).2 := by
  rcases hrun : work.run s.begun with ⟨result, s'⟩
  rw [hrun] at h
  have hleave : ((leave true result).run s').2.metrics = s'.metrics := by
    cases result with
    | ok a => exact (uncounted_statement _).bind (fun _ => uncounted_pure a) s'
    | error e => rfl
  rw [run_tx_begun hs hrun]
  intro resourceType ns action
  rw [hleave]
  exact h resourceType ns action

end Session

/-- A tidy store outside every transaction. -/
structure Store.Settled (s : Store) : Prop extends s.Tidy where
  saved : s.db.saved = none

theorem Store.settled_fresh : Store.fresh.Settled := ⟨⟨rfl, Database.tidy_fresh⟩, rfl⟩

theorem Write.saved_session (w : Write) {s : Store} (hs : s.db.saved = none) :
    (w.session.run s).2.db.saved = none := by
  rw [w.turns_session s]
  cases w.statement? with
  | none => exact hs
  | some st => exact Database.saved_write hs st.effect

namespace Call

variable {s : Store}

theorem snd_perform (hs : s.isOpen = true) (c : Call) : (c.perform s).2 = (c.session.run s).2 := by
  rw [perform, Session.run_call hs]

theorem settled_perform (hs : s.Settled) (c : Call) : (c.perform s).2.Settled := by
  rw [c.snd_perform hs.isOpen]
  have hwrite : ∀ w : Write, (w.session.run s).2.Settled :=
    fun w => ⟨w.keepsTidy s hs.toTidy, w.saved_session hs.saved⟩
  have htx : ∀ {α : Type} (work : Session α), work.KeepsTidy →
      ((Session.tx work).run s).2.Settled := by
    intro α work hwork
    refine ⟨hwork.tx s hs.toTidy, ?_⟩
    rcases hrun : work.run s.begun with ⟨result, s'⟩
    rw [Session.run_tx_begun hs.saved hrun]
    exact Session.saved_leave result s'
  cases c with
  | create m r =>
    rw [session, Session.snd_run_map]
    exact hwrite (.create m r)
  | update m r =>
    rw [session, Session.snd_run_map]
    exact hwrite (.update m r)
  | upsert m r =>
    rw [session, Session.snd_run_map]
    exact hwrite (.upsert m r)
  | delete id =>
    rw [session, Session.snd_run_map]
    exact hwrite (.delete id)
  | markSent ids t =>
    rw [session, Session.snd_run_map, Session.markAt]
    exact htx _ (Session.keepsTidy_confirmation t.micros ids)
  | observeAll items =>
    rw [session, Session.snd_run_map, Session.observeAll, Session.run_call hs.isOpen]
    exact htx _ (Session.keepsTidy_upserts items)
  | pass now retention =>
    rw [session, Session.snd_run_map, Keeper.pass, Session.run_call hs.isOpen]
    exact htx _ ((Session.reads_findAll _).keepsTidy.bind Session.keepsTidy_deleteEach)

/-- A call counts its failed writes. -/
theorem counts_perform (hs : s.Settled) (c : Call) :
    Store.Counts (c.failures s) s (c.perform s).2 := by
  rw [c.snd_perform hs.isOpen]
  cases c with
  | create m r =>
    rw [session, Session.snd_run_map]
    exact Write.counted_create m r s
  | update m r =>
    rw [session, Session.snd_run_map]
    exact Write.counted_update m r s
  | upsert m r =>
    rw [session, Session.snd_run_map]
    exact Write.counted_upsert m r s
  | delete id =>
    rw [session, Session.snd_run_map]
    have hself : s.db.restored = s.db := by simp [Database.restored, hs.saved]
    exact Write.counted_delete hs.toTidy (by rw [hself]; exact List.Subset.refl _)
  | markSent ids t =>
    rw [session, Session.snd_run_map]
    exact Store.counts_nothing (Session.uncounted_markAt t.micros ids s)
  | observeAll items =>
    rw [session, Session.snd_run_map, Session.observeAll, Session.run_call hs.isOpen]
    exact Session.counts_tx hs.saved (Session.counts_upserts items s.begun)
  | pass now retention =>
    rw [session, Session.snd_run_map, Keeper.pass, Session.run_call hs.isOpen]
    refine Session.counts_tx hs.saved ?_
    let q : Query := .reclaimable (now.back retention)
    have hread := Session.reads_findAll q s.begun
    have hback : s.begun.db.rows ⊆ s.begun.db.restored.rows := List.Subset.refl _
    rcases hfind : (Session.findAll q).run s.begun with ⟨e | records, s'⟩
    · rw [hfind] at hread
      obtain rfl : s' = s.begun := hread
      rw [Session.run_bind_error hfind]
      simp only [failures, q, hfind]
      exact Store.counts_nothing rfl
    · rw [hfind] at hread
      obtain rfl : s' = s.begun := hread
      rw [Session.run_bind_ok hfind]
      simp only [failures, q, hfind]
      exact Session.counts_deleteEach records hs.toTidy.begun (by simp [Store.begun]) hback

end Call

theorem Inquiry.reads (q : Inquiry) : q.session.Reads := by
  cases q with
  | get id =>
    exact (Session.reads_find fun stored => stored.find? fun r => r.id == .text id).bind
      fun _ => Session.reads_pure ()
  | first q =>
    exact (Session.reads_find fun stored => stored.find? q.selects).bind
      fun _ => Session.reads_pure ()
  | all q => exact (Session.reads_findAll q).bind fun _ => Session.reads_pure ()
  | count q =>
    exact (Session.reads_rows.bind fun _ => Session.reads_pure _).bind fun _ => Session.reads_pure ()

namespace StoreEvent

variable {s : Store}

theorem settled_perform (hs : s.Settled) (h : StoreEvent) : (h.perform s).Settled := by
  cases h with
  | call c => exact c.settled_perform hs
  | read q =>
    rw [perform, Session.run_call hs.isOpen, q.reads s]
    exact hs
  | guard g => exact ⟨⟨hs.isOpen, hs.db.guard g⟩, Database.saved_guard hs.saved g⟩
  | unguard title => exact ⟨⟨hs.isOpen, hs.db.unguard title⟩, Database.saved_unguard hs.saved title⟩

theorem counts_perform (hs : s.Settled) (h : StoreEvent) :
    Store.Counts (h.failures s) s (h.perform s) := by
  cases h with
  | call c => exact c.counts_perform hs
  | read q =>
    rw [perform, Session.run_call hs.isOpen, q.reads s]
    exact Store.counts_nothing rfl
  | guard g => exact Store.counts_nothing rfl
  | unguard title => exact Store.counts_nothing rfl

theorem counts_performAll (hs : s.Settled) (events : List StoreEvent) :
    Store.Counts (allFailures events s) s (performAll events s) := by
  induction events generalizing s with
  | nil => exact Store.counts_nothing rfl
  | cons h rest ih => exact (h.counts_perform hs).append (ih (h.settled_perform hs))

/-- The counts of failed writes are exact, whatever calls and reads a store has seen under whatever
guards: a count is the number of failures that its labels name, in the 64 bits of a counter. -/
theorem writeFailureCount_exact (events : List StoreEvent) (resourceType ns action : String) :
    (performAll events .fresh).metrics.writeFailureCount resourceType ns action =
      .ofNat ((allFailures events .fresh).countP (·.countsUnder resourceType ns action)) := by
  rw [counts_performAll Store.settled_fresh events]
  exact UInt64.zero_add _

/-- A batch that a guard refuses at its second observation is undone, and its failure counts. -/
example : (performAll [
    .guard ⟨"g", .insert, some "web-1", .rollback, "refused"⟩,
    .call (.observeAll [
      (⟨.sampleSecond 10, "a"⟩, .fresh .pod "web-0" none),
      (⟨.sampleSecond 20, "b"⟩, .fresh .pod "web-1" none)])]
    .fresh).metrics.writeFailureCount "pod" "" "upsert" = 1 := by decide +kernel

end StoreEvent

end ClusterOutbox
