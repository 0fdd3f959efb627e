import ClusterOutbox.Proofs.Store.Entry
import Mathlib.Data.List.Nodup

namespace ClusterOutbox

/-- The entries of a table in the order of their insertion. -/
abbrev Ledger := List Entry

namespace Ledger

def table (es : Ledger) (guards : List Guard) : Table := ⟨es.map Entry.row, guards⟩

structure Distinct (es : Ledger) : Prop where
  ids_nonempty : ∀ e ∈ es, e.id ≠ ""
  ids : (es.map Entry.id).Nodup
  identities : (es.map Entry.identity).Nodup

def byId? (es : Ledger) (id : String) : Option Entry := es.find? fun e => e.id = id

def holder? (es : Ledger) (i : Identity) : Option Entry := es.find? fun e => e.identity = i

variable {es : Ledger} {guards : List Guard}

theorem byId?_eq_none {id : String} : es.byId? id = none ↔ ∀ e ∈ es, e.id ≠ id := by
  simp [byId?]

theorem holder?_eq_none {i : Identity} : es.holder? i = none ↔ ∀ e ∈ es, e.identity ≠ i := by
  simp [holder?]

theorem mem_of_byId? {id : String} {e : Entry} (h : es.byId? id = some e) :
    e ∈ es ∧ e.id = id :=
  ⟨List.mem_of_find?_eq_some h, by simpa using List.find?_some h⟩

theorem mem_of_holder? {i : Identity} {e : Entry} (h : es.holder? i = some e) :
    e ∈ es ∧ e.identity = i :=
  ⟨List.mem_of_find?_eq_some h, by simpa using List.find?_some h⟩

theorem byId?_map {f : Entry → Entry} (hf : ∀ e, (f e).id = e.id) (id : String) :
    byId? (es.map f) id = (es.byId? id).map f := by
  simp only [byId?, List.find?_map, Function.comp_def, hf]

theorem map_absent {id : String} (h : es.byId? id = none) (f : Entry → Entry) :
    (es.map fun e => if e.id = id then f e else e) = es := by
  refine (List.map_congr_left ?_).trans (List.map_id es)
  intro e he
  rw [if_neg (byId?_eq_none.mp h e he)]
  rfl

theorem eq_of_id_eq (hd : es.Distinct) {a b : Entry} (ha : a ∈ es) (hb : b ∈ es)
    (h : a.id = b.id) : a = b :=
  List.inj_on_of_nodup_map hd.ids ha hb h

theorem eq_of_identity_eq (hd : es.Distinct) {a b : Entry} (ha : a ∈ es) (hb : b ∈ es)
    (h : a.identity = b.identity) : a = b :=
  List.inj_on_of_nodup_map hd.identities ha hb h

theorem byId?_of_mem (hd : es.Distinct) {e : Entry} (he : e ∈ es) : es.byId? e.id = some e := by
  cases h : es.byId? e.id with
  | none => exact absurd rfl (byId?_eq_none.mp h e he)
  | some x =>
    obtain ⟨hx, hid⟩ := mem_of_byId? h
    rw [eq_of_id_eq hd hx he hid]

theorem row_mem_iff {es' : Ledger} (hd : es.Distinct) (hsub : es' ⊆ es) {e : Entry} (he : e ∈ es) :
    e.row ∈ es'.map Entry.row ↔ e ∈ es' := by
  constructor
  · intro hrow
    obtain ⟨x, hx, hxe⟩ := List.mem_map.mp hrow
    have hid : x.id = e.id := Cell.text.inj (congrArg Row.id hxe)
    exact eq_of_id_eq hd (hsub hx) he hid ▸ hx
  · exact List.mem_map_of_mem

theorem Distinct.sublist {es' : Ledger} (hd : es.Distinct) (h : es'.Sublist es) : Distinct es' where
  ids_nonempty e he := hd.ids_nonempty e (h.subset he)
  ids := hd.ids.sublist (h.map _)
  identities := hd.identities.sublist (h.map _)

theorem Distinct.map {f : Entry → Entry} (hd : es.Distinct) (hid : ∀ e, (f e).id = e.id)
    (hk : ∀ e, (f e).identity = e.identity) : Distinct (es.map f) where
  ids_nonempty := by
    intro e he
    obtain ⟨x, hx, rfl⟩ := List.mem_map.mp he
    rw [hid]
    exact hd.ids_nonempty x hx
  ids := by simpa [Function.comp_def, hid] using hd.ids
  identities := by simpa [Function.comp_def, hk] using hd.identities

theorem Distinct.append {e : Entry} (hd : es.Distinct) (hne : e.id ≠ "")
    (hid : ∀ x ∈ es, x.id ≠ e.id) (hk : ∀ x ∈ es, x.identity ≠ e.identity) :
    Distinct (es ++ [e]) where
  ids_nonempty := by
    intro x hx
    rcases List.mem_append.mp hx with hx | hx
    · exact hd.ids_nonempty x hx
    · simp only [List.mem_singleton] at hx
      exact hx ▸ hne
  ids := by
    rw [List.map_append, List.nodup_append]
    refine ⟨hd.ids, by simp, ?_⟩
    intro a ha b hb
    obtain ⟨x, hx, rfl⟩ := List.mem_map.mp ha
    simp only [List.map_cons, List.map_nil, List.mem_singleton] at hb
    exact hb ▸ hid x hx
  identities := by
    rw [List.map_append, List.nodup_append]
    refine ⟨hd.identities, by simp, ?_⟩
    intro a ha b hb
    obtain ⟨x, hx, rfl⟩ := List.mem_map.mp ha
    simp only [List.map_cons, List.map_nil, List.mem_singleton] at hb
    exact hb ▸ hk x hx

theorem find?_id (es : Ledger) (id : String) :
    (es.map Entry.row).find? (fun r => r.id == .text id) =
      (es.byId? id).map Entry.row := by
  rw [List.find?_map]
  simp only [Function.comp_def, Entry.row_id_beq]
  rfl

theorem find?_identity (es : Ledger) (new : Entry) :
    (es.map Entry.row).find? (fun r => r.sameIdentity new.row) =
      (es.holder? new.identity).map Entry.row := by
  rw [List.find?_map]
  simp only [Function.comp_def, Entry.sameIdentity_row]
  rfl

/-- An entry breaks no rule of the table where its id and its identity are its own. -/
theorem broken?_row {e : Entry} (hid : ∀ x ∈ es, x.id ≠ e.id)
    (hk : ∀ x ∈ es, x.identity ≠ e.identity) : Table.broken? (es.map Entry.row) e.row = none := by
  have hnull : (Column.all.find? fun c => !c.isNullable && e.row.get c == .null) = none := by
    simp [Column.all, Column.isNullable, Row.get, Entry.row, Row.labelsCell, Bool.beq_eq_decide_eq]
  have hle : e.row.updated.lt e.row.created = false := by
    have := e.created_le_updated
    simp only [Entry.row, Cell.lt, decide_eq_false_iff_not]
    omega
  have hids : ((es.map Entry.row).any fun o => o.id == e.row.id) = false := by
    simpa [Function.comp_def, Entry.row, Bool.beq_eq_decide_eq] using hid
  have hidentities : ((es.map Entry.row).any fun o => o.sameIdentity e.row) = false := by
    simpa [Function.comp_def, Entry.sameIdentity_row] using hk
  unfold Table.broken?
  rw [hnull]
  simp only [hle, hids, hidentities, Bool.false_eq_true, if_false]

theorem insert_absent {e : Entry} (hg : (es.table guards).guard? [.insert] e.row = none)
    (hid : ∀ x ∈ es, x.id ≠ e.id) (hk : ∀ x ∈ es, x.identity ≠ e.identity)
    (merge : Option (Row → Row)) :
    (es.table guards).insert e.row merge = .done (table (es ++ [e]) guards) (some e.row) := by
  have hnone := holder?_eq_none.mpr hk
  unfold Table.insert
  rw [hg]
  simp only [table, find?_identity, hnone, Option.map_none, broken?_row hid hk, List.map_append,
    List.map_cons, List.map_nil]

theorem insert_taken {e old : Entry} (hg : (es.table guards).guard? [.insert] e.row = none)
    (hold : es.holder? e.identity = some old) :
    (es.table guards).insert e.row none = .done (es.table guards) none := by
  unfold Table.insert
  rw [hg]
  simp only [table, find?_identity, hold, Option.map_some]

/-- An entry whose identity is taken changes the one that has it. -/
theorem insert_merge {e old : Entry} {merge : Row → Row} {f : Entry → Entry} (hd : es.Distinct)
    (hg : (es.table guards).guard? [.insert] e.row = none)
    (hg' : (es.table guards).guard? [.update, .sentAt] old.row = none)
    (hold : es.holder? e.identity = some old)
    (hmerge : ∀ x : Entry, merge x.row = (f x).row) (hid : ∀ x, (f x).id = x.id)
    (hk : ∀ x, (f x).identity = x.identity) :
    (es.table guards).insert e.row (some merge) =
      .done (table (es.map fun x => if x.identity = e.identity then f x else x) guards)
        (some (f old).row) := by
  obtain ⟨hmem, hident⟩ := mem_of_holder? hold
  have hothers : (es.map Entry.row).filter (fun r => !r.sameIdentity e.row) =
      (es.filter fun x => !decide (x.identity = e.identity)).map Entry.row := by
    rw [List.filter_map]
    simp only [Function.comp_def, Entry.sameIdentity_row]
  have hbroken : Table.broken?
      ((es.filter fun x => !decide (x.identity = e.identity)).map Entry.row) (f old).row = none := by
    refine broken?_row ?_ ?_
    · intro x hx h
      rw [hid] at h
      obtain ⟨hx, hne⟩ := List.mem_filter.mp hx
      have hxo := eq_of_id_eq hd hx hmem h
      simp [hxo, hident] at hne
    · intro x hx h
      obtain ⟨hx, hne⟩ := List.mem_filter.mp hx
      rw [hk] at h
      simp [h, hident] at hne
  have hrows : (es.map Entry.row).map (fun r => if r.sameIdentity e.row then (f old).row else r) =
      (es.map fun x => if x.identity = e.identity then f x else x).map Entry.row := by
    rw [List.map_map, List.map_map]
    refine List.map_congr_left ?_
    intro x hx
    simp only [Function.comp_apply, Entry.sameIdentity_row, decide_eq_true_eq]
    split
    next h => rw [eq_of_identity_eq hd hx hmem (h.trans hident.symm)]
    next => rfl
  unfold Table.insert
  rw [hg]
  simp only [table, find?_identity, hold, Option.map_some, hmerge, hothers, hbroken, hrows] at hg' ⊢
  rw [hg']

theorem updateId_table {id : String} {watched : List Watch} {change : Row → Row}
    {f : Entry → Entry} (hd : es.Distinct)
    (hg : ∀ e ∈ es, e.id = id → (es.table guards).guard? watched e.row = none)
    (hchange : ∀ x : Entry, change x.row = (f x).row) (hid : ∀ x, (f x).id = x.id)
    (hk : ∀ x, (f x).identity = x.identity) :
    (es.table guards).updateId id watched change =
      .done (table (es.map fun x => if x.id = id then f x else x) guards)
        ((es.byId? id).map fun x => (f x).row) := by
  unfold Table.updateId
  cases hold : es.byId? id with
  | none =>
    simp only [table, find?_id, hold, Option.map_none, map_absent hold]
  | some old =>
    obtain ⟨hmem, hoid⟩ := mem_of_byId? hold
    have hothers : (es.map Entry.row).filter (fun r => r.id != .text id) =
        (es.filter fun x => !decide (x.id = id)).map Entry.row := by
      rw [List.filter_map]
      simp only [Function.comp_def, bne, Entry.row_id_beq]
    have hbroken : Table.broken?
        ((es.filter fun x => !decide (x.id = id)).map Entry.row) (f old).row = none := by
      refine broken?_row ?_ ?_
      · intro x hx h
        rw [hid] at h
        obtain ⟨_, hne⟩ := List.mem_filter.mp hx
        simp [h, hoid] at hne
      · intro x hx h
        rw [hk] at h
        obtain ⟨hx, hne⟩ := List.mem_filter.mp hx
        have hxo := eq_of_identity_eq hd hx hmem h
        simp [hxo, hoid] at hne
    have hrows : (es.map Entry.row).map (fun r => if r.id == .text id then (f old).row else r) =
        (es.map fun x => if x.id = id then f x else x).map Entry.row := by
      rw [List.map_map, List.map_map]
      refine List.map_congr_left ?_
      intro x hx
      simp only [Function.comp_apply, Entry.row_id_beq, decide_eq_true_eq]
      split
      next h => rw [eq_of_id_eq hd hx hmem (h.trans hoid.symm)]
      next => rfl
    have hguard := hg old hmem hoid
    simp only [table, find?_id, hold, Option.map_some, hchange, hothers, hbroken, hrows] at hguard ⊢
    rw [hguard]

theorem deleteFrom_table {target : Row → Bool} {p : Entry → Bool}
    (htarget : ∀ e : Entry, target e.row = p e) (t : Table) (kept : List Row) (count : Nat) :
    ∀ es : Ledger, (∀ e ∈ es, p e → t.guard? [.delete] e.row = none) →
      t.deleteFrom target kept count (es.map Entry.row) =
        .done { t with rows := kept.reverse ++ (es.filter fun e => !p e).map Entry.row }
          (count + (es.filter p).length) := by
  intro es
  induction es generalizing kept count with
  | nil => intro _; simp [Table.deleteFrom]
  | cons e es ih =>
    intro hg
    have hg' : ∀ x ∈ es, p x → t.guard? [.delete] x.row = none :=
      fun x hx => hg x (List.mem_cons_of_mem e hx)
    rw [List.map_cons, Table.deleteFrom, htarget]
    by_cases hp : p e
    · rw [if_pos hp, hg e List.mem_cons_self hp]
      simp only [ih _ _ hg', hp, List.filter_cons, Bool.not_true, Bool.false_eq_true, if_false,
        if_true, List.length_cons]
      congr 1
      omega
    · rw [if_neg hp, ih _ _ hg']
      simp [hp]

theorem delete_table {target : Row → Bool} {p : Entry → Bool}
    (htarget : ∀ e : Entry, target e.row = p e)
    (hg : ∀ e ∈ es, p e → (es.table guards).guard? [.delete] e.row = none) :
    (es.table guards).delete target =
      .done (table (es.filter fun e => !p e) guards) (es.filter p).length := by
  unfold Table.delete
  rw [show (es.table guards).rows = es.map Entry.row from rfl, deleteFrom_table htarget _ _ _ es hg]
  simp [table]

end Ledger

end ClusterOutbox
