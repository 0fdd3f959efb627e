import ClusterOutbox.Proofs.Store.Failure
import ClusterOutbox.Proofs.Store.Tidy
import ClusterOutbox.Proofs.Store.Visited

/-!
The maps of a record as the store keeps them, and the weight of a row. The text of a map reads back
as that map and no other, and every write answers the bytes of what its row holds.
-/

namespace ClusterOutbox

/-- Bytes of a text in UTF-8, none where there is no text. -/
def byteCount : Option String → Nat
  | some s => (utf8Bytes s).length
  | none => 0

namespace Row

/-- The text under which a map is kept. -/
def mapText (m : LabelMap) : String := String.ofList m.toJson

theorem size_ofText? (s : Option String) : (Cell.ofText? s).size = byteCount s := by
  cases s <;> rfl

theorem size_labelsCell (m : Option LabelMap) : (labelsCell m).size = byteCount (m.map mapText) := by
  cases m <;> rfl

theorem labelsCell_injective : Function.Injective labelsCell := by
  intro m n h
  have hread : (labelsCell m).optional (labels? 0 "") = (labelsCell n).optional (labels? 0 "") := by
    rw [h]
  rw [Entry.optional_labelsCell, Entry.optional_labelsCell] at hread
  exact Except.ok.inj hread

theorem mapText_injective : Function.Injective mapText := fun _ _ h =>
  Option.some.inj (labelsCell_injective (congrArg Cell.text h))

/-- A row whose name is a text and whose namespace is one or is absent. -/
def Legible (row : Row) : Prop := ∃ name ns, row.name = .text name ∧ row.ns = .ofText? ns

/-- A row that holds the maps of a record, and that weighs what an answer says: the bytes of its
name, its namespace and the texts of the labels and the annotations. -/
structure Weighed (row : Row) (r answer : Record) : Prop where
  id : row.id = .text answer.id
  metricLabels : row.metricLabels = labelsCell (some r.metricLabels)
  labels : row.labels = labelsCell r.labels
  annotations : row.annotations = labelsCell r.annotations
  size : ∀ name ns, row.name = .text name → row.ns = .ofText? ns →
    answer.size = (byteCount (some name) + byteCount ns + byteCount (r.labels.map mapText) +
      byteCount (r.annotations.map mapText)).toUInt64

variable {row : Row} {r answer : Record}

theorem size_withMaps {name : String} {ns : Option String} (hname : row.name = .text name)
    (hns : row.ns = .ofText? ns) : (row.withMaps r).size =
      byteCount (some name) + byteCount ns + byteCount (r.labels.map mapText) +
        byteCount (r.annotations.map mapText) := by
  rw [← size_labelsCell, ← size_labelsCell, ← size_ofText?, ← size_ofText?, ← hns]
  change row.name.size + row.ns.size + _ + _ = _
  rw [hname]
  rfl

/-- A row that has taken the maps of a record is weighed by its own size. -/
theorem weighed_of_withMaps (hmaps : row.withMaps r = row)
    (hid : row.id = .text answer.id) (hsize : answer.size = row.size.toUInt64) :
    row.Weighed r answer where
  id := hid
  metricLabels := congrArg Row.metricLabels hmaps.symm
  labels := congrArg Row.labels hmaps.symm
  annotations := congrArg Row.annotations hmaps.symm
  size := by
    intro name ns hname hns
    rw [hsize, ← hmaps, size_withMaps hname hns]

theorem Legible.overwrite (h : row.Legible) (r : Record) (now : Int) (sentAt : Option Int) :
    (Session.overwrite r now sentAt row).Legible := h

theorem legible_ofRecord (id : String) (now : Int) (sentAt : Option Int) (r : Record) :
    (ofRecord id now sentAt r).Legible := ⟨r.name, r.ns, rfl, rfl⟩

theorem name_of_sameIdentity {id : String} {now : Int} {sentAt : Option Int}
    (h : row.sameIdentity (ofRecord id now sentAt r) = true) : row.name = .text r.name := by
  simp only [sameIdentity, Bool.and_eq_true, beq_iff_eq] at h
  exact h.1.2

end Row

/-- A store whose rows all have names and namespaces that can be read. -/
def Store.Legible (s : Store) : Prop := ∀ row ∈ s.db.rows, row.Legible

theorem Store.Visited.legible {s : Store} (hs : s.Visited) : s.Legible := by
  obtain ⟨es, hes⟩ := hs.stands
  intro row hrow
  rw [hes.toShows.rows] at hrow
  obtain ⟨e, -, rfl⟩ := List.mem_map.mp hrow
  exact ⟨e.name, e.ns, rfl, rfl⟩

namespace Session

variable {m : Moment} {r r' : Record} {s s' : Store}

/-- A write has left a row of some name and namespace that weighs what it answers. -/
def LeavesWeighed (s s' : Store) (r answer : Record) (called : Cell → Cell → Prop) : Prop :=
  ∃ row ∈ s'.db.rows, row.Weighed r answer ∧ called row.name row.ns ∧ (s.Legible → row.Legible)

/-- A counted write that goes through has come through its statement and through what it makes of
the answer. -/
theorem run_counted_write_eq_ok {α β : Type} {action : String} {f : Table → Effect β}
    {k : β → Session α} {a : α} (h : (counted r action (write f >>= k)).run s = (.ok a, s')) :
    ∃ t t' b, s.db.rows = t.rows ∧ f t = .done t' b ∧
      (k b).run { s with db := { s.db with table := some t' } } = (.ok a, s') := by
  obtain ⟨b, s₁, hwrite, hanswer⟩ := run_bind_eq_ok (run_counted_eq_ok h)
  obtain ⟨t, t', ht, hdone, rfl⟩ := run_write_eq_ok hwrite
  exact ⟨t, t', b, Database.rows_of_table (Database.table_of_writable? ht), hdone, hanswer⟩

/-- Times that have been read are handed on. -/
theorem run_readTimes_eq_ok {α : Type} {row : Row} {i j : Nat} {k : Stamp → Stamp → Session α} {a : α}
    (h : (do
      let created ← ofEngine (row.created.integer? i "record_created")
      let updated ← ofEngine (row.updated.integer? j "record_updated")
      let created ← ofEngine (Row.stamp? i created)
      let updated ← ofEngine (Row.stamp? j updated)
      k created updated : Session α).run s = (.ok a, s')) :
    ∃ created updated, (k created updated).run s = (.ok a, s') := by
  obtain ⟨_, -, h⟩ := run_read_eq_ok h
  obtain ⟨_, -, h⟩ := run_read_eq_ok h
  obtain ⟨created, -, h⟩ := run_read_eq_ok h
  obtain ⟨updated, -, h⟩ := run_read_eq_ok h
  exact ⟨created, updated, h⟩

theorem create_weighed (h : (create m r).run s = (.ok r', s')) :
    (s'.db.rows = s.db.rows ∧ r'.size = r.size) ∨
      (s'.db.rows ≠ s.db.rows ∧
        LeavesWeighed s s' r r' fun name ns => name = .text r.name ∧ ns = .ofText? r.ns) := by
  obtain ⟨t, t', written, hrows, hdone, hanswer⟩ := run_counted_write_eq_ok h
  rcases Table.insert_done hdone with ⟨rfl, rfl⟩ | ⟨-, rfl, rfl⟩ | ⟨old, f, hf, -⟩
  · cases hanswer
    exact .inl ⟨hrows.symm, rfl⟩
  · cases hanswer
    refine .inr ⟨?_, _, List.mem_append_right _ List.mem_cons_self,
      Row.weighed_of_withMaps rfl rfl rfl, ⟨rfl, rfl⟩, fun _ => Row.legible_ofRecord _ _ _ r⟩
    rw [hrows]
    intro hsame
    simp [Database.rows] at hsame
  · cases hf

theorem update_weighed (h : (update m r).run s = (.ok r', s')) :
    LeavesWeighed s s' r r' fun name ns =>
      ∃ old ∈ s.db.rows, old.id = .text r.id ∧ name = old.name ∧ ns = old.ns := by
  have hid : r.id ≠ "" := by
    intro hid
    rw [update, if_pos hid] at h
    cases run_counted_eq_ok h
  rw [update_eq m hid] at h
  obtain ⟨t, t', written, hrows, hdone, hanswer⟩ := run_counted_write_eq_ok h
  rcases Table.updateId_done hdone with ⟨-, rfl⟩ | ⟨old, hold, rfl, rfl⟩
  · cases hanswer
  · obtain ⟨created, updated, hanswer⟩ := run_readTimes_eq_ok hanswer
    cases hanswer
    have hmem : old ∈ t.rows := List.mem_of_find?_eq_some hold
    have hfound := List.find?_some (p := fun row : Row => row.id == .text r.id) hold
    refine ⟨_, List.mem_map.mpr ⟨old, hmem, if_pos hfound⟩,
      Row.weighed_of_withMaps rfl (beq_iff_eq.mp hfound) rfl,
      ⟨old, hrows ▸ hmem, beq_iff_eq.mp hfound, rfl, rfl⟩, fun hlegible => ?_⟩
    exact (hlegible old (hrows ▸ hmem)).overwrite r _ _

theorem upsert_weighed {o : Observation} (h : (upsert m r).run s = (.ok o, s')) :
    LeavesWeighed s s' r o.record fun name ns =>
      name = .text r.name ∧ (ns = .ofText? r.ns ∨ ∃ old ∈ s.db.rows, ns = old.ns) := by
  rw [upsert_eq] at h
  obtain ⟨t, t', written, hrows, hdone, hanswer⟩ := run_counted_write_eq_ok h
  cases written with
  | none => cases hanswer
  | some row =>
    obtain ⟨id, hid, hanswer⟩ := run_read_eq_ok hanswer
    obtain ⟨created, updated, hanswer⟩ := run_readTimes_eq_ok hanswer
    cases hanswer
    have htext : row.id = .text id := Cell.text?_eq_ok hid
    rcases Table.insert_done hdone with ⟨-, hnone⟩ | ⟨-, hnew, rfl⟩ |
      ⟨old, f, hf, hold, hmerged, rfl⟩
    · cases hnone
    · cases hnew
      exact ⟨_, List.mem_append_right _ List.mem_cons_self, Row.weighed_of_withMaps rfl htext rfl,
        ⟨rfl, .inl rfl⟩, fun _ => Row.legible_ofRecord _ _ _ r⟩
    · cases hf
      cases hmerged
      have hmem : old ∈ t.rows := List.mem_of_find?_eq_some hold
      have hfound :=
        List.find?_some (p := fun row : Row => row.sameIdentity (Row.ofRecord _ _ _ r)) hold
      refine ⟨_, List.mem_map.mpr ⟨old, hmem, if_pos hfound⟩,
        Row.weighed_of_withMaps rfl htext rfl,
        ⟨Row.name_of_sameIdentity hfound, .inr ⟨old, hrows ▸ hmem, rfl⟩⟩, fun hlegible => ?_⟩
      exact (hlegible old (hrows ▸ hmem)).overwrite r _ _

end Session

namespace Store

/-- How a store keeps maps and weighs rows. -/
structure Weighs (s : Store) : Prop where
  reads : ∀ column title m, (Row.labelsCell m).optional (Row.labels? column title) = .ok m
  texts_differ : Function.Injective Row.mapText
  /-- What is not tracked is none of the texts. -/
  cells_differ : Function.Injective Row.labelsCell
  /-- A creation either writes nothing, or adds a row and answers its weight. -/
  create : ∀ m r r' s', (Session.create m r).run s = (.ok r', s') →
    (s'.db.rows = s.db.rows ∧ r'.size = r.size) ∨
      (s'.db.rows ≠ s.db.rows ∧
        Session.LeavesWeighed s s' r r' fun name ns => name = .text r.name ∧ ns = .ofText? r.ns)
  update : ∀ m r r' s', (Session.update m r).run s = (.ok r', s') →
    Session.LeavesWeighed s s' r r' fun name ns =>
      ∃ old ∈ s.db.rows, old.id = .text r.id ∧ name = old.name ∧ ns = old.ns
  upsert : ∀ m r o s', (Session.upsert m r).run s = (.ok o, s') →
    Session.LeavesWeighed s s' r o.record fun name ns =>
      name = .text r.name ∧ (ns = .ofText? r.ns ∨ ∃ old ∈ s.db.rows, ns = old.ns)
  legible : s.Visited → s.Legible

/-- Every store keeps maps so that they read back and differ, and answers each write that has written
a row with its weight. -/
theorem weighs_writes (s : Store) : s.Weighs where
  reads := Entry.optional_labelsCell
  texts_differ := Row.mapText_injective
  cells_differ := Row.labelsCell_injective
  create := fun _ _ _ _ => Session.create_weighed
  update := fun _ _ _ _ => Session.update_weighed
  upsert := fun _ _ _ _ => Session.upsert_weighed
  legible := Visited.legible

/-- A pod whose labels have quotes, a backslash, a control character and characters of several
bytes, and whose annotations are tracked but none. -/
def quotedPod : Record :=
  { Record.fresh .pod "wéb" (some "prod") with
    labels := some (SortedMap.ofList [("a\"\\", "é😀\u0001\n")])
    annotations := some ∅ }

/-- Its labels take 26 bytes and its annotations two. -/
theorem weighs_writes_quotedPod :
    ∃ r' s', (Session.create ⟨.sampleSecond 10, "a"⟩ quotedPod).run Store.fresh = (.ok r', s') ∧
      r'.size = 36 ∧ Session.LeavesWeighed Store.fresh s' quotedPod r' fun name ns =>
        name = .text "wéb" ∧ ns = .text "prod" := by
  have hsize : ((Session.create ⟨.sampleSecond 10, "a"⟩ quotedPod).run
      Store.fresh).1.toOption.map (·.size) = some 36 := by decide +kernel
  have hrows : ((Session.create ⟨.sampleSecond 10, "a"⟩ quotedPod).run
      Store.fresh).2.db.rows ≠ Store.fresh.db.rows := by decide +kernel
  rcases hrun : (Session.create ⟨.sampleSecond 10, "a"⟩ quotedPod).run Store.fresh with ⟨e | r', s'⟩
  · rw [hrun] at hsize
    cases hsize
  · rw [hrun] at hsize hrows
    refine ⟨r', s', rfl, Option.some.inj hsize, ?_⟩
    rcases (weighs_writes Store.fresh).create _ _ r' s' hrun with ⟨hsame, -⟩ | ⟨-, hleaves⟩
    · exact absurd hsame hrows
    · exact hleaves

end Store

end ClusterOutbox
