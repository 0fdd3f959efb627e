import ClusterOutbox.Proofs.Store.Failure
import ClusterOutbox.Proofs.Store.LookUp
import ClusterOutbox.Proofs.Store.Steady

namespace ClusterOutbox

/-- Whether a row has the identity of a record. -/
def Store.Knows (s : Store) (r : Record) : Bool :=
  s.db.rows.any (Query.identity r.kind r.name r.ns).selects

namespace Session

variable {α β ι : Type} {s s' : Store}

theorem steady_upsert (m : Moment) (r : Record) : (upsert m r).Steady := by
  rw [upsert_eq]
  refine ((steady_write _).bind ?_).counted r "upsert"
  intro row
  cases row with
  | none => exact steady_throw _
  | some row =>
    exact (steady_ofEngine _).bind fun _ => (steady_ofEngine _).bind fun _ =>
      (steady_ofEngine _).bind fun _ => (steady_ofEngine _).bind fun _ =>
      (steady_ofEngine _).bind fun _ => steady_pure _

theorem steady_upserts (items : List (Moment × Record)) :
    (items.mapM fun (m, r) => upsert m r).Steady := by
  refine Steady.mapM ?_ items
  intro item
  obtain ⟨m, r⟩ := item
  exact steady_upsert m r

theorem selects_of_sameIdentity {a b : Row} (h : a.sameIdentity b = true) (x : Record) :
    (Query.identity x.kind x.name x.ns).selects a =
      (Query.identity x.kind x.name x.ns).selects b := by
  obtain ⟨⟨hkind, hname⟩, hns⟩ : (a.kind = b.kind ∧ a.name = b.name) ∧ a.nsKey = b.nsKey := by
    simpa [Row.sameIdentity] using h
  simp only [Query.selects, hkind, hname, hns]

/-- Observations made one after another, each as a call of its own: what each comes to, and the store
that they leave. -/
def observeInTurn : List (Moment × Record) → Store → List (Except StoreError Observation) × Store
  | [], s => ([], s)
  | item :: items, s =>
    let first := (observe item.1 item.2).run s
    let rest := observeInTurn items first.2
    (first.1 :: rest.1, rest.2)

variable {items before after : List (Moment × Record)} {m : Moment} {r : Record}
  {obs : List Observation} {e : StoreError}

theorem observeInTurn_of_ok (hopen : s.isOpen = true)
    (h : (items.mapM fun (m, r) => upsert m r).run s = (.ok obs, s')) :
    observeInTurn items s = (obs.map .ok, s') := by
  induction items generalizing s obs with
  | nil =>
    cases h
    rfl
  | cons item items ih =>
    rw [List.mapM_cons] at h
    obtain ⟨o, s₁, hfirst, hrest⟩ := run_bind_eq_ok h
    obtain ⟨rest, s₂, hrest, hpure⟩ := run_bind_eq_ok hrest
    cases hpure
    have hopen₁ : s₁.isOpen = true := ((steady_upsert item.1 item.2).done hfirst).2.1.trans hopen
    have hobserve : (observe item.1 item.2).run s = (.ok o, s₁) := (run_call hopen).trans hfirst
    simp only [observeInTurn, hobserve, ih hopen₁ hrest, List.map_cons]

/-- Upserts in a row fail as the first observation that fails, and end where it ends. -/
theorem observeInTurn_of_error (hopen : s.isOpen = true)
    (h : (items.mapM fun (m, r) => upsert m r).run s = (.error e, s')) :
    ∃ (obs : List Observation) (rest : List (Except StoreError Observation)),
      (observeInTurn items s).1 = obs.map .ok ++ .error e :: rest ∧
      (observeInTurn (items.take (obs.length + 1)) s).2 = s' := by
  induction items generalizing s with
  | nil => cases h
  | cons item items ih =>
    rw [List.mapM_cons] at h
    rcases run_bind_eq_error h with hfirst | ⟨o, s₁, hfirst, hrest⟩
    · have hobserve : (observe item.1 item.2).run s = (.error e, s') :=
        (run_call hopen).trans hfirst
      refine ⟨[], (observeInTurn items s').1, ?_, ?_⟩
      · simp only [observeInTurn, hobserve, List.map_nil, List.nil_append]
      · exact congrArg Prod.snd hobserve
    · have hopen₁ : s₁.isOpen = true :=
        ((steady_upsert item.1 item.2).done hfirst).2.1.trans hopen
      have hobserve : (observe item.1 item.2).run s = (.ok o, s₁) := (run_call hopen).trans hfirst
      rcases run_bind_eq_error hrest with hrest | ⟨_, _, _, hpure⟩
      · obtain ⟨obs, rest, hresults, hend⟩ := ih hopen₁ hrest
        refine ⟨o :: obs, rest, ?_, ?_⟩
        · simp only [observeInTurn, hobserve, hresults, List.map_cons, List.cons_append]
        · simp only [List.length_cons, List.take_succ_cons, observeInTurn, hobserve, hend]
      · cases hpure

theorem run_upsert_eq_ok {o : Observation} (h : (upsert m r).run s = (.ok o, s')) :
    ∃ t t' row, s.db.writable? = .ok t ∧
      t.insert (Row.ofRecord m.freshId m.now.micros none r) (some (overwrite r m.now.micros none)) =
        .done t' (some row) ∧
      s' = s.holding t' ∧ row.id = .text o.record.id ∧
      o.outcome = if o.record.id = m.freshId then .inserted else .updated := by
  rw [upsert_eq] at h
  obtain ⟨row, s₁, hwrite, hanswer⟩ := run_bind_eq_ok (run_counted_eq_ok h)
  obtain ⟨t, t', ht, hinsert, rfl⟩ := run_write_eq_ok hwrite
  cases row with
  | none => cases hanswer
  | some row =>
    obtain ⟨id, hid, hrest⟩ := run_read_eq_ok hanswer
    obtain ⟨created, -, hrest⟩ := run_read_eq_ok hrest
    obtain ⟨updated, -, hrest⟩ := run_read_eq_ok hrest
    obtain ⟨created, -, hrest⟩ := run_read_eq_ok hrest
    obtain ⟨updated, -, hrest⟩ := run_read_eq_ok hrest
    cases hrest
    exact ⟨t, t', row, ht, hinsert, rfl, Cell.text?_eq_ok hid, rfl⟩

/-- An observation that succeeds adds a row of an identity that is new, or changes the row that has
the identity. -/
theorem rows_upsert {o : Observation} (h : (upsert m r).run s = (.ok o, s')) :
    let new := Row.ofRecord m.freshId m.now.micros none r
    (s.Knows r = false ∧ s'.db.rows = s.db.rows ++ [new] ∧ o.outcome = .inserted) ∨
    ∃ old ∈ s.db.rows, old.sameIdentity new = true ∧
      s'.db.rows = s.db.rows.map (fun row =>
        if row.sameIdentity new then overwrite r m.now.micros none old else row) ∧
      o.outcome = if old.id = .text m.freshId then .inserted else .updated := by
  intro new
  obtain ⟨t, t', row, ht, hinsert, rfl, hid, houtcome⟩ := run_upsert_eq_ok h
  have hrows : s.db.rows = t.rows := by
    simp [Database.rows, Database.table_of_writable? ht]
  have hsame : (fun row => Row.sameIdentity row new) =
      (Query.identity r.kind r.name r.ns).selects := rfl
  rcases Table.insert_done hinsert with
    ⟨-, hnone⟩ | ⟨hnone, hnew, rfl⟩ | ⟨old, f, hf, hold, hmerged, rfl⟩
  · cases hnone
  · cases hnew
    have hfresh : o.record.id = m.freshId := (Cell.text.inj hid).symm
    refine .inl ⟨?_, congrArg (· ++ [new]) hrows.symm, houtcome.trans (if_pos hfresh)⟩
    rw [Store.Knows, hrows, ← hsame, List.any_eq_false]
    exact List.find?_eq_none.mp hnone
  · cases hf
    cases hmerged
    have hmem : old ∈ s.db.rows := hrows ▸ List.mem_of_find?_eq_some hold
    have hidentity : old.sameIdentity new = true :=
      List.find?_some (p := fun row => Row.sameIdentity row new) hold
    have hkept : old.id = .text o.record.id := hid
    refine .inr ⟨old, hmem, hidentity, congrArg (List.map _) hrows.symm, ?_⟩
    simp only [hkept, Cell.text.injEq, houtcome]

theorem knows_of_sameIdentity {row : Row} (hrow : row ∈ s.db.rows)
    (h : row.sameIdentity (Row.ofRecord m.freshId m.now.micros none r) = true) :
    s.Knows r = true := List.any_eq_true.mpr ⟨row, hrow, h⟩

theorem outcome_upsert {o : Observation} (h : (upsert m r).run s = (.ok o, s'))
    (hm : ∀ row ∈ s.db.rows, row.id ≠ .text m.freshId) :
    o.outcome = .inserted ↔ s.Knows r = false := by
  rcases rows_upsert h with ⟨hnew, -, houtcome⟩ | ⟨old, hold, hsame, -, houtcome⟩
  · exact iff_of_true houtcome hnew
  · rw [if_neg (hm old hold)] at houtcome
    exact iff_of_false (by simp [houtcome]) (by simp [knows_of_sameIdentity hold hsame])

theorem knows_upsert {o : Observation} (h : (upsert m r).run s = (.ok o, s')) (x : Record) :
    s'.Knows x = (s.Knows x || decide (r.identity = x.identity)) := by
  let new := Row.ofRecord m.freshId m.now.micros none r
  have hnew : (Query.identity x.kind x.name x.ns).selects new = decide (r.identity = x.identity) :=
    selects_identity_row (.ofRecord m.freshId m.now.storeTime none r) x
  rcases rows_upsert h with ⟨-, hrows, -⟩ | ⟨old, hold, hsame, hrows, -⟩
  · rw [Store.Knows, hrows, List.any_append, List.any_cons, List.any_nil, Bool.or_false, hnew]
    rfl
  · -- The row that is changed keeps its identity, which is that of the record.
    have hchanged : ∀ row : Row, (Query.identity x.kind x.name x.ns).selects
        (if row.sameIdentity new then overwrite r m.now.micros none old else row) =
          (Query.identity x.kind x.name x.ns).selects row := by
      intro row
      split
      next hrow =>
        exact (selects_of_sameIdentity hsame x).trans (selects_of_sameIdentity hrow x).symm
      next => rfl
    have hkept : s'.Knows x = s.Knows x := by
      rw [Store.Knows, hrows, List.any_map, Store.Knows]
      exact congrArg (List.any s.db.rows) (funext hchanged)
    rw [hkept]
    by_cases hident : r.identity = x.identity
    · have hknown : s.Knows x = true :=
        List.any_eq_true.mpr ⟨old, hold, by rw [selects_of_sameIdentity hsame x, hnew]; simpa⟩
      rw [hknown, Bool.true_or]
    · rw [decide_eq_false hident, Bool.or_false]

theorem ids_upsert {o : Observation} (h : (upsert m r).run s = (.ok o, s')) {row : Row}
    (hrow : row ∈ s'.db.rows) : row.id = .text m.freshId ∨ ∃ old ∈ s.db.rows, row.id = old.id := by
  rcases rows_upsert h with ⟨-, hrows, -⟩ | ⟨old, hold, -, hrows, -⟩
  · rw [hrows] at hrow
    rcases List.mem_append.mp hrow with hrow | hrow
    · exact .inr ⟨row, hrow, rfl⟩
    · exact .inl (congrArg Row.id (List.mem_singleton.mp hrow))
  · rw [hrows] at hrow
    obtain ⟨x, hx, rfl⟩ := List.mem_map.mp hrow
    right
    split
    · exact ⟨old, hold, rfl⟩
    · exact ⟨x, hx, rfl⟩

theorem Admissible.rest {item : Moment × Record} {o : Observation}
    (hf : (Call.observeAll (item :: items)).Admissible s)
    (h : (upsert item.1 item.2).run s = (.ok o, s')) : (Call.observeAll items).Admissible s' := by
  obtain ⟨hnodup, hfresh, -⟩ := hf
  obtain ⟨hnew, hrest⟩ := List.nodup_cons.mp hnodup
  refine ⟨hrest, ?_, by simp [Call.sentAt]⟩
  intro id hid
  obtain ⟨hne, habsent⟩ := hfresh id (List.mem_cons_of_mem _ hid)
  refine ⟨hne, ?_⟩
  intro row hrow
  rcases ids_upsert h hrow with hrow | ⟨old, hold, hrow⟩
  · rw [hrow]
    intro htext
    obtain rfl : item.1.freshId = id := Cell.text.inj htext
    exact hnew hid
  · rw [hrow]
    exact habsent old hold

/-- Among observations that succeed, the ones of identities that are not there and have not come
before insert. -/
theorem outcome_mapM_upsert (h : (items.mapM fun (m, r) => upsert m r).run s = (.ok obs, s'))
    (hf : (Call.observeAll items).Admissible s) (hitems : items = before ++ (m, r) :: after) :
    ∃ o, obs[before.length]? = some o ∧
      (o.outcome = .inserted ↔
        s.Knows r = false ∧ ∀ item ∈ before, item.2.identity ≠ r.identity) := by
  induction before generalizing items s obs with
  | nil =>
    subst hitems
    rw [List.nil_append, List.mapM_cons] at h
    obtain ⟨o, s₁, hfirst, hrest⟩ := run_bind_eq_ok h
    obtain ⟨rest, s₂, -, hpure⟩ := run_bind_eq_ok hrest
    cases hpure
    have hm : s.IsFresh m.freshId := hf.2.1 m.freshId List.mem_cons_self
    exact ⟨o, rfl, by simpa using outcome_upsert hfirst hm.2⟩
  | cons item before ih =>
    subst hitems
    rw [List.cons_append, List.mapM_cons] at h
    obtain ⟨o, s₁, hfirst, hrest⟩ := run_bind_eq_ok h
    obtain ⟨rest, s₂, hrest, hpure⟩ := run_bind_eq_ok hrest
    cases hpure
    obtain ⟨x, hx, houtcome⟩ := ih hrest (Admissible.rest hf hfirst) rfl
    refine ⟨x, hx, houtcome.trans ?_⟩
    rw [knows_upsert hfirst, Bool.or_eq_false_iff, decide_eq_false_iff_not, List.forall_mem_cons,
      and_assoc]

/-- What a batch of observations comes to, beside the same observations made in turn. -/
inductive BatchInTurn (items : List (Moment × Record)) (s : Store) : Prop
  /-- All of them succeed; those insert whose identity is not there and has not come before. -/
  | done (obs : List Observation) (s' : Store)
      (turns : observeInTurn items s = (obs.map .ok, s'))
      (batch : (observeAll items).run s = (.ok obs, s'))
      (outcomes : (Call.observeAll items).Admissible s →
        ∀ before m r after, items = before ++ (m, r) :: after →
          ∃ o, obs[before.length]? = some o ∧
            (o.outcome = .inserted ↔
              s.Knows r = false ∧ ∀ item ∈ before, item.2.identity ≠ r.identity))
  /-- One of them fails. Outside every transaction nothing has happened to the database; in an open
  one, what has come before the failure is there, for whoever opened it to keep or to undo. -/
  | failed (obs : List Observation) (e : StoreError) (rest : List (Except StoreError Observation))
      (s' : Store)
      (turns : (observeInTurn items s).1 = obs.map .ok ++ .error e :: rest)
      (batch : (observeAll items).run s = (.error e, s'))
      (database : s'.db = if s.db.saved = none then s.db
        else (observeInTurn (items.take (obs.length + 1)) s).2.db)

/-- A batch of observations is the observations made in turn, or, where one of these fails, nothing
but their first failure. -/
theorem observeAll_in_turn (items : List (Moment × Record)) (s : Store)
    (hopen : s.isOpen = true ∨ items ≠ []) : BatchInTurn items s := by
  have hsteady := steady_upserts items
  by_cases hconn : s.isOpen = true
  · have hcall : (observeAll items).run s = _ := run_call hconn
    rcases hrun : (items.mapM fun (m, r) => upsert m r).run s with ⟨e | obs, s'⟩
    · obtain ⟨obs, rest, hresults, hend⟩ := observeInTurn_of_error hconn hrun
      by_cases hs : s.db.saved = none
      · obtain ⟨u, hu, hdb⟩ := hsteady.run_tx_error hs hrun
        exact .failed obs e rest u hresults (hcall.trans hu) (by rw [if_pos hs, hdb])
      · exact .failed obs e rest s' hresults (hcall.trans ((run_tx_joined _ hs).trans hrun))
          (by rw [if_neg hs, hend])
    · exact .done obs s' (observeInTurn_of_ok hconn hrun) (hcall.trans (hsteady.run_tx_ok hrun))
        fun hf _ _ _ _ => outcome_mapM_upsert hrun hf
  · obtain ⟨item, items, rfl⟩ := List.exists_cons_of_ne_nil (hopen.resolve_left hconn)
    have hobserve : (observe item.1 item.2).run s = (.error .connectionClosed, s) :=
      run_call_closed (by simpa using hconn)
    refine .failed [] .connectionClosed (observeInTurn items s).1 s ?_
      (run_call_closed (by simpa using hconn)) ?_
    · simp only [observeInTurn, hobserve, List.map_nil, List.nil_append]
    · have hend : (observeInTurn ((item :: items).take 1) s).2 = s := congrArg Prod.snd hobserve
      exact (ite_eq_left_iff.mpr fun _ => congrArg Store.db hend).symm

/-- A pod observed twice, with another one between. -/
def repeated : List (Moment × Record) := [
  (⟨.sampleSecond 10, "x"⟩, .fresh .pod "a" none),
  (⟨.sampleSecond 20, "y"⟩, .fresh .pod "c" none),
  (⟨.sampleSecond 15, "z"⟩, .fresh .pod "a" (some ""))]

theorem observeAll_in_turn_repeated :
    ((Work.guarded .insert .abort).isOpen = true ∨ repeated ≠ []) ∧
    (Call.observeAll repeated).Admissible (Work.guarded .insert .abort) ∧
    BatchInTurn repeated (Work.guarded .insert .abort) :=
  ⟨.inl rfl, by decide +kernel, observeAll_in_turn repeated _ (.inl rfl)⟩

example :
    ((observeAll repeated).run (Work.guarded .insert .abort)).1.map (List.map (·.outcome)) =
      .ok [.inserted, .inserted, .updated] := by decide +kernel

/-- In a transaction that is open already, a batch whose second pod is refused leaves the first one. On
a closed connection, a batch of no observations fails. -/
theorem joined_batch_leaves_rows :
    let store := ((statement Database.begin_).run (Work.guarded .insert .abort)).2
    let pods : List (Moment × Record) := [
      (⟨.sampleSecond 10, "x"⟩, .fresh .pod "a" none), (⟨.sampleSecond 10, "y"⟩, .fresh .pod "b" none)]
    ((observeAll pods).run store).1.map List.length = .error (.engine 1811 (some "refused")) ∧
    store.db.rows = [] ∧ ((observeAll pods).run store).2.db.rows.map Row.name = [.text "a"] ∧
    (observeInTurn [] store.close).1.length = 0 ∧
    ((observeAll []).run store.close).1.map List.length = .error .connectionClosed := by
  decide +kernel

end Session

end ClusterOutbox
