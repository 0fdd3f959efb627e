import ClusterOutbox.Proofs.Store.Failure
import Mathlib.Data.List.Pairwise

namespace ClusterOutbox

namespace Row

/-- A row that keeps the rules that look at it alone: no column is null that must not be, and the
change is not before the creation. -/
def Regular (r : Row) : Prop :=
  (∀ c ∈ Column.all, c.isNullable = false → r.get c ≠ .null) ∧ r.updated.lt r.created = false

/-- Two rows that may stand in one table. -/
def Apart (a b : Row) : Prop := a.id ≠ b.id ∧ a.sameIdentity b = false

theorem sameIdentity_comm (a b : Row) : a.sameIdentity b = b.sameIdentity a := by
  simp only [sameIdentity, Bool.beq_comm]

theorem Apart.symm {a b : Row} (h : a.Apart b) : b.Apart a :=
  ⟨h.1.symm, (sameIdentity_comm b a).trans h.2⟩

instance : Std.Symm Apart := ⟨fun _ _ h => h.symm⟩

theorem sameIdentity_of_common {a b c : Row} (ha : a.sameIdentity c = true)
    (hb : b.sameIdentity c = true) : a.sameIdentity b = true := by
  simp only [sameIdentity, Bool.and_eq_true, beq_iff_eq] at ha hb ⊢
  exact ⟨⟨ha.1.1.trans hb.1.1.symm, ha.1.2.trans hb.1.2.symm⟩, ha.2.trans hb.2.symm⟩

end Row

namespace Table

variable {t : Table}

theorem broken?_eq_none {others : List Row} {r : Row} :
    broken? others r = none ↔ r.Regular ∧ ∀ o ∈ others, o.Apart r := by
  have hnulls : (Column.all.find? fun c => !c.isNullable && r.get c == .null) = none ↔
      ∀ c ∈ Column.all, c.isNullable = false → r.get c ≠ .null := by
    simp [List.find?_eq_none]
  have hapart : (∀ o ∈ others, o.Apart r) ↔
      (others.any fun o => o.id == r.id) = false ∧
        (others.any fun o => o.sameIdentity r) = false := by
    simp only [Row.Apart, List.any_eq_false, forall_and, beq_iff_eq, ne_eq, Bool.not_eq_true]
  rw [hapart, Row.Regular, ← hnulls]
  unfold broken?
  cases Column.all.find? fun c => !c.isNullable && r.get c == .null with
  | some c => simp
  | none =>
    cases r.updated.lt r.created <;> cases others.any fun o => o.id == r.id <;>
      cases others.any fun o => o.sameIdentity r <;> simp

/-- A lawful table: its rows are regular, and each two of them may stand together. -/
theorem lawful_iff : t.Lawful ↔ (∀ r ∈ t.rows, r.Regular) ∧ t.rows.Pairwise Row.Apart := by
  constructor
  · intro h
    refine ⟨fun r hr => (broken?_eq_none.mp (h.unbroken r hr)).1, ?_⟩
    have hids : t.rows.Pairwise fun a b => a.id ≠ b.id := List.pairwise_map.mp h.ids
    refine hids.imp_of_mem ?_
    intro a b ha hb hne
    exact (broken?_eq_none.mp (h.unbroken b hb)).2 a (List.mem_filter.mpr ⟨ha, by simpa using hne⟩)
  · rintro ⟨hregular, hapart⟩
    refine ⟨List.pairwise_map.mpr (hapart.imp fun h => h.1), ?_⟩
    intro r hr
    refine broken?_eq_none.mpr ⟨hregular r hr, ?_⟩
    intro o ho
    obtain ⟨ho, hne⟩ := List.mem_filter.mp ho
    have hother : o ≠ r := fun h => by simp [h] at hne
    exact hapart.forall ho hr hother

theorem Lawful.sublist (h : t.Lawful) {rows : List Row} (hrows : rows.Sublist t.rows) :
    Table.Lawful { t with rows } := by
  obtain ⟨hregular, hapart⟩ := lawful_iff.mp h
  exact lawful_iff.mpr ⟨fun r hr => hregular r (hrows.subset hr), hapart.sublist hrows⟩

theorem Lawful.append (h : t.Lawful) {new : Row} (hnew : broken? t.rows new = none) :
    Table.Lawful { t with rows := t.rows ++ [new] } := by
  obtain ⟨hregular, hapart⟩ := lawful_iff.mp h
  obtain ⟨hnewRegular, hothers⟩ := broken?_eq_none.mp hnew
  refine lawful_iff.mpr ⟨?_, ?_⟩
  · intro r hr
    rcases List.mem_append.mp hr with hr | hr
    · exact hregular r hr
    · exact List.mem_singleton.mp hr ▸ hnewRegular
  · refine List.pairwise_append.mpr ⟨hapart, List.pairwise_singleton _ _, ?_⟩
    intro a ha b hb
    exact List.mem_singleton.mp hb ▸ hothers a ha

/-- A row that replaces those of which there is at most one. -/
theorem Lawful.replace (h : t.Lawful) {p : Row → Bool} {new : Row}
    (hone : ∀ a b : Row, a.Apart b → ¬ (p a = true ∧ p b = true))
    (hnew : broken? (t.rows.filter fun r => !p r) new = none) :
    Table.Lawful { t with rows := t.rows.map fun r => if p r then new else r } := by
  obtain ⟨hregular, hapart⟩ := lawful_iff.mp h
  obtain ⟨hnewRegular, hothers⟩ := broken?_eq_none.mp hnew
  have hother : ∀ r ∈ t.rows, ¬ p r = true → r.Apart new := by
    intro r hr hp
    exact hothers r (List.mem_filter.mpr ⟨hr, by simpa using hp⟩)
  refine lawful_iff.mpr ⟨?_, ?_⟩
  · intro r' hr'
    obtain ⟨r, hr, rfl⟩ := List.mem_map.mp hr'
    split
    · exact hnewRegular
    · exact hregular r hr
  · refine List.pairwise_map.mpr (hapart.imp_of_mem ?_)
    intro a b ha hb hab
    by_cases hpa : p a = true
    · have hpb : ¬ p b = true := fun hpb => hone a b hab ⟨hpa, hpb⟩
      rw [if_pos hpa, if_neg hpb]
      exact (hother b hb hpb).symm
    · rw [if_neg hpa]
      split
      · exact hother a ha hpa
      · exact hab

end Table

/-- What an outcome says of the table that it reaches, done or stopped. -/
def Effect.Leaves {α : Type} (p : Table → Prop) : Effect α → Prop
  | done t _ => p t
  | stopped t _ _ => p t

namespace Table

variable {t : Table}

theorem Lawful.updateId (h : t.Lawful) (id : String) (watched : List Watch) (change : Row → Row) :
    (t.updateId id watched change).Leaves Lawful := by
  unfold Table.updateId
  cases hold : t.rows.find? fun r => r.id == .text id with
  | none => exact h
  | some old =>
    cases hguard : t.guard? watched old with
    | some g =>
      simp only [hguard]
      split <;> exact h
    | none =>
      simp only [hguard]
      split
      · exact h
      next hnew =>
        refine h.replace (p := fun r => r.id == .text id) ?_ hnew
        rintro a b hab ⟨ha, hb⟩
        exact hab.1 ((beq_iff_eq.mp ha).trans (beq_iff_eq.mp hb).symm)

theorem Lawful.insert (h : t.Lawful) (new : Row) (merge : Option (Row → Row)) :
    (t.insert new merge).Leaves Lawful := by
  unfold Table.insert
  cases hguard : t.guard? [.insert] new with
  | some g =>
    simp only
    split <;> exact h
  | none =>
    cases hold : t.rows.find? fun r => r.sameIdentity new with
    | none =>
      simp only
      split
      · exact h
      next hnew => exact h.append hnew
    | some old =>
      cases merge with
      | none => exact h
      | some f =>
        simp only
        cases hguard' : t.guard? [.update, .sentAt] old with
        | some g =>
          simp only
          split <;> exact h
        | none =>
          simp only
          split
          · exact h
          next hnew =>
            refine h.replace (p := fun r => r.sameIdentity new) ?_ hnew
            rintro a b hab ⟨ha, hb⟩
            exact absurd (Row.sameIdentity_of_common ha hb) (by simp [hab.2])

theorem Lawful.deleteFrom (h : t.Lawful) (target : Row → Bool) (kept : List Row) (count : Nat)
    {rest : List Row} (hrows : (kept.reverse ++ rest).Sublist t.rows) :
    (t.deleteFrom target kept count rest).Leaves Lawful := by
  induction rest generalizing kept count with
  | nil => exact h.sublist (by simpa using hrows)
  | cons r rest ih =>
    have hkeep : ((r :: kept).reverse ++ rest).Sublist t.rows := by simpa using hrows
    have hdrop : (kept.reverse ++ rest).Sublist t.rows :=
      ((List.sublist_cons_self r rest).append_left kept.reverse).trans hrows
    rw [Table.deleteFrom]
    by_cases htarget : target r = true
    · rw [if_pos htarget]
      cases hguard : t.guard? [.delete] r with
      | some g =>
        simp only
        split
        · exact ih (r :: kept) count hkeep
        · exact h.sublist hrows
      | none => exact ih kept (count + 1) hdrop
    · rw [if_neg htarget]
      exact ih (r :: kept) count hkeep

/-- No statement takes a table out of its rules, wherever it is stopped. -/
theorem Lawful.effect (h : t.Lawful) (st : Statement) : (st.effect t).Leaves Lawful := by
  have hvoid : ∀ {α : Type} {effect : Effect α}, effect.Leaves Lawful →
      effect.void.Leaves Lawful := by
    intro α effect heffect
    cases effect <;> exact heffect
  cases st with
  | insert new merge => exact hvoid (h.insert new merge)
  | change id f => exact hvoid (h.updateId id _ f)
  | delete target => exact hvoid (h.deleteFrom target [] 0 (List.Sublist.refl t.rows))

end Table

namespace Database

/-- Lawful tables, the one that an open transaction leads back to included. -/
structure Lawful (db : Database) : Prop where
  table : ∀ t ∈ db.table, t.Lawful
  saved : ∀ before ∈ db.saved, ∀ t ∈ before, t.Lawful

variable {db : Database}

theorem Lawful.showing (h : db.Lawful) {t : Table} (ht : t.Lawful) :
    Lawful { db with table := some t } :=
  ⟨fun _ h => Option.some.inj h ▸ ht, h.saved⟩

theorem Lawful.restored (h : db.Lawful) : db.restored.Lawful := by
  unfold Database.restored
  cases hsaved : db.saved with
  | none => exact h
  | some before => exact ⟨h.saved before hsaved, fun _ h => by cases h⟩

theorem Lawful.write {α : Type} (h : db.Lawful) {f : Table → Effect α}
    (hf : ∀ t, t.Lawful → (f t).Leaves Table.Lawful) : (db.write f).2.Lawful := by
  unfold Database.write
  cases hw : db.writable? with
  | error e => exact h
  | ok t =>
    have hleaves := hf t (h.table t (table_of_writable? hw))
    simp only
    generalize f t = effect at hleaves
    cases effect with
    | done t' a => exact h.showing hleaves
    | stopped t' how e =>
      cases how with
      | abort => exact h
      | fail => exact h.showing hleaves
      | rollback => exact h.restored
      | ignore => exact h

theorem Lawful.setColumn (h : db.Lawful) (id column : String) (value : Cell) :
    (db.setColumn id column value).2.Lawful := by
  unfold Database.setColumn
  cases db.table? with
  | error e => exact h
  | ok t =>
    cases Column.ofTitle? column with
    | none => exact h
    | some c =>
      simp only
      have hwrite := h.write fun t ht => ht.updateId id
        (if c = .sentAt then [.update, .sentAt] else [.update]) fun r => r.set c (c.convert value)
      split
      next hresult =>
        rw [hresult] at hwrite
        exact hwrite
      next hresult =>
        rw [hresult] at hwrite
        exact hwrite

theorem Lawful.guard (h : db.Lawful) (g : Guard) : (db.guard g).2.Lawful := by
  unfold Database.guard
  cases db.table? with
  | error e => exact h
  | ok t =>
    simp only
    split
    · exact h
    · split
      · exact h
      · exact h.write fun t ht => ⟨ht.ids, ht.unbroken⟩

theorem Lawful.unguard (h : db.Lawful) (title : String) : (db.unguard title).2.Lawful := by
  unfold Database.unguard
  cases db.table with
  | none => exact h
  | some t =>
    simp only
    split
    · exact h.write fun t ht => ⟨ht.ids, ht.unbroken⟩
    · exact h

theorem Lawful.drop (h : db.Lawful) : db.drop.2.Lawful := by
  unfold Database.drop
  cases db.writable? with
  | error e => exact h
  | ok t =>
    refine ⟨?_, h.saved⟩
    intro t ht
    cases ht

theorem Lawful.begin_ (h : db.Lawful) : db.begin_.2.Lawful := by
  unfold Database.begin_
  split
  · exact h
  · exact ⟨h.table, fun _ hbefore => Option.some.inj hbefore ▸ h.table⟩

theorem Lawful.commit (h : db.Lawful) : db.commit.2.Lawful := by
  unfold Database.commit
  split
  · exact ⟨h.table, fun _ h => by cases h⟩
  · exact h

theorem Lawful.rollback (h : db.Lawful) : db.rollback.2.Lawful := by
  unfold Database.rollback
  split
  · exact h.restored
  · exact h

/-- The databases that statements lead to, whoever makes them and whatever they write. -/
inductive Operated : Database → Prop
  | fresh : Operated .fresh
  | write {db : Database} (st : Statement) : Operated db → Operated (db.write st.effect).2
  | setColumn {db : Database} (id column : String) (value : Cell) :
    Operated db → Operated (db.setColumn id column value).2
  | guard {db : Database} (g : Guard) : Operated db → Operated (db.guard g).2
  | unguard {db : Database} (title : String) : Operated db → Operated (db.unguard title).2
  | drop {db : Database} : Operated db → Operated db.drop.2
  | begin_ {db : Database} : Operated db → Operated db.begin_.2
  | commit {db : Database} : Operated db → Operated db.commit.2
  | rollback {db : Database} : Operated db → Operated db.rollback.2
  | lock {db : Database} (readOnly : Bool) : Operated db → Operated { db with readOnly }
  | reopen {db : Database} : Operated db → Operated db.reopened

/-- The rules of the table hold whatever happens to the database. -/
theorem Operated.lawful (h : db.Operated) : db.Lawful := by
  induction h with
  | fresh =>
    refine ⟨fun t ht => ?_, fun _ h => by cases h⟩
    cases ht
    exact ⟨List.nodup_nil, fun r hr => absurd hr List.not_mem_nil⟩
  | write st _ ih => exact ih.write fun t ht => ht.effect st
  | setColumn id column value _ ih => exact ih.setColumn id column value
  | guard g _ ih => exact ih.guard g
  | unguard title _ ih => exact ih.unguard title
  | drop _ ih => exact ih.drop
  | begin_ _ ih => exact ih.begin_
  | commit _ ih => exact ih.commit
  | rollback _ ih => exact ih.rollback
  | lock readOnly _ ih => exact ⟨ih.table, ih.saved⟩
  | reopen _ ih => exact ⟨ih.restored.table, ih.restored.saved⟩

end Database

end ClusterOutbox
