import ClusterOutbox.SortedMap
import Mathlib.Data.List.Sort

namespace ClusterOutbox

namespace SortedMap

variable {κ ν : Type} [Ord κ] [Std.TransOrd κ]

theorem insertEntry_of_lt {k : κ} {v : ν} {es : List (κ × ν)}
    (h : ∀ e ∈ es, compare e.1 k = .lt) : insertEntry k v es = es ++ [(k, v)] := by
  induction es with
  | nil => rfl
  | cons e rest ih =>
    have hgt : compare k e.1 = .gt := Std.OrientedCmp.gt_of_lt (h e (by simp))
    rw [insertEntry, hgt]
    simp only [ih fun x hx => h x (List.mem_cons_of_mem _ hx), List.cons_append]

theorem get?_of_lt {k : κ} {m : SortedMap κ ν} (h : ∀ e ∈ m.entries, compare e.1 k = .lt) :
    m.get? k = none := by
  have hnone : m.entries.find? (fun e => compare k e.1 == .eq) = none := by
    refine List.find?_eq_none.mpr ?_
    intro e he
    have hgt : compare k e.1 = .gt := Std.OrientedCmp.gt_of_lt (h e he)
    simp [hgt]
  rw [get?, hnone]
  rfl

theorem get?_insertEntry (k : κ) (v : ν) (es : List (κ × ν)) :
    (insertEntry k v es).find? (fun e => compare k e.1 == .eq) = some (k, v) := by
  induction es with
  | nil => simp [insertEntry]
  | cons e rest ih =>
    unfold insertEntry
    split
    next => simp
    next => simp
    next hgt =>
      rw [List.find?_cons, hgt]
      exact ih

theorem get?_insert (m : SortedMap κ ν) (k : κ) (v : ν) : (m.insert k v).get? k = some v := by
  rw [get?, insert, get?_insertEntry]
  rfl

omit [Std.TransOrd κ] in
theorem find?_insertEntry_of_ne [Std.LawfulEqOrd κ] {k k' : κ} (h : k' ≠ k) (v : ν)
    (es : List (κ × ν)) : (insertEntry k v es).find? (fun e => compare k' e.1 == .eq) =
      es.find? fun e => compare k' e.1 == .eq := by
  have hnew : (compare k' k == .eq) = false := by simpa using h
  induction es with
  | nil => simp [insertEntry, hnew]
  | cons e rest ih =>
    unfold insertEntry
    split
    next => rw [List.find?_cons, hnew]
    next heq =>
      have hsame : k = e.1 := Std.LawfulEqCmp.eq_of_compare heq
      rw [List.find?_cons, List.find?_cons, ← hsame, hnew]
    next => rw [List.find?_cons, List.find?_cons, ih]

theorem get?_insert_of_ne [Std.LawfulEqOrd κ] {k k' : κ} (h : k' ≠ k) (m : SortedMap κ ν) (v : ν) :
    (m.insert k v).get? k' = m.get? k' := by
  rw [get?, insert, find?_insertEntry_of_ne h, get?]

theorem get?_ofList_singleton [Std.LawfulEqOrd κ] [DecidableEq κ] (k : κ) (v : ν) (k' : κ) :
    (ofList [(k, v)]).get? k' = if k' = k then some v else none := by
  split
  next h => rw [h]; exact get?_insert _ _ _
  next h => exact get?_insert_of_ne h _ _

theorem ofList_entries (m : SortedMap κ ν) : ofList m.entries = m := by
  have hfold : ∀ (es : List (κ × ν)) (acc : SortedMap κ ν),
      (acc.entries ++ es).Pairwise (fun a b => compare a.1 b.1 = .lt) →
      (es.foldl (fun m e => m.insert e.1 e.2) acc).entries = acc.entries ++ es := by
    intro es
    induction es with
    | nil => intro acc _; simp
    | cons e es ih =>
      intro acc hp
      have hlt : ∀ x ∈ acc.entries, compare x.1 e.1 = .lt :=
        fun x hx => (List.pairwise_append.mp hp).2.2 x hx e (by simp)
      have hi : (acc.insert e.1 e.2).entries = acc.entries ++ [e] := insertEntry_of_lt hlt
      rw [List.foldl_cons, ih _ (by rw [hi]; simpa using hp), hi]
      simp
  exact ext_entries (hfold m.entries empty m.increasing)

omit [Std.TransOrd κ] in
theorem mem_entries_of_get? [Std.LawfulEqOrd κ] {m : SortedMap κ ν} {k : κ} {v : ν}
    (h : m.get? k = some v) : (k, v) ∈ m.entries := by
  obtain ⟨e, he, rfl⟩ := Option.map_eq_some_iff.mp h
  have hsame := List.find?_some (p := fun e : κ × ν => compare k e.1 == .eq) he
  have hkey : k = e.1 := Std.LawfulEqCmp.eq_of_compare (beq_iff_eq.mp hsame)
  exact hkey ▸ List.mem_of_find?_eq_some he

theorem get?_of_mem {m : SortedMap κ ν} {e : κ × ν} (h : e ∈ m.entries) :
    m.get? e.1 = some e.2 := by
  obtain ⟨before, after, hsplit⟩ := List.append_of_mem h
  have hlt : ∀ x ∈ before, compare x.1 e.1 = .lt := fun x hx =>
    (List.pairwise_append.mp (hsplit ▸ m.increasing)).2.2 x hx e List.mem_cons_self
  have hfind : m.entries.find? (fun x => compare e.1 x.1 == .eq) = some e := by
    refine List.find?_eq_some_iff_append.mpr ⟨by simp, before, after, hsplit, ?_⟩
    intro x hx
    simp [Std.OrientedCmp.gt_of_lt (hlt x hx)]
  rw [get?, hfind]
  rfl

/-- The entries of a map are what it gives for its keys. -/
theorem mem_entries_iff [Std.LawfulEqOrd κ] {m : SortedMap κ ν} {e : κ × ν} :
    e ∈ m.entries ↔ m.get? e.1 = some e.2 := ⟨get?_of_mem, mem_entries_of_get?⟩

/-- Maps that give the same for every key are equal. -/
theorem ext_get? [Std.LawfulEqOrd κ] {m n : SortedMap κ ν} (h : ∀ k, m.get? k = n.get? k) :
    m = n := by
  have hirrefl : Std.Irrefl fun a b : κ × ν => compare a.1 b.1 = .lt := ⟨fun a => by simp⟩
  have hasymm : Std.Antisymm fun a b : κ × ν => compare a.1 b.1 = .lt := by
    refine ⟨fun a b hab hba => ?_⟩
    rw [Std.OrientedCmp.gt_of_lt hba] at hab
    cases hab
  refine ext_entries (m.increasing.eq_of_mem_iff n.increasing ?_)
  intro e
  rw [mem_entries_iff, mem_entries_iff, h]

theorem keys_ne (m : SortedMap κ ν) : m.entries.Pairwise fun a b => a.1 ≠ b.1 := by
  refine m.increasing.imp ?_
  intro a b hlt heq
  simp [heq] at hlt

/-- Entries put under other keys leave a key alone. -/
theorem get?_foldl_insert_of_ne [Std.LawfulEqOrd κ] {f : κ → κ} {es : List (κ × ν)} {k : κ}
    (h : ∀ e ∈ es, k ≠ f e.1) (m : SortedMap κ ν) :
    (es.foldl (fun m e => m.insert (f e.1) e.2) m).get? k = m.get? k := by
  induction es generalizing m with
  | nil => rfl
  | cons e es ih =>
    obtain ⟨hfirst, hrest⟩ := List.forall_mem_cons.mp h
    rw [List.foldl_cons, ih hrest, get?_insert_of_ne hfirst]

/-- Of entries put under keys that differ, each is found under its own. -/
theorem get?_foldl_insert_of_mem [Std.LawfulEqOrd κ] {f : κ → κ} {es : List (κ × ν)}
    (hkeys : es.Pairwise fun a b => f a.1 ≠ f b.1) {e : κ × ν} (he : e ∈ es)
    (m : SortedMap κ ν) :
    (es.foldl (fun m e => m.insert (f e.1) e.2) m).get? (f e.1) = some e.2 := by
  induction es generalizing m with
  | nil => cases he
  | cons x es ih =>
    obtain ⟨hfirst, hrest⟩ := List.pairwise_cons.mp hkeys
    rw [List.foldl_cons]
    rcases List.mem_cons.mp he with rfl | he
    · rw [get?_foldl_insert_of_ne hfirst, get?_insert]
    · exact ih hrest he _

/-- The sum of the counts of some keys. -/
def total (p : κ → Bool) (m : SortedMap κ UInt64) : UInt64 :=
  m.entries.foldr (fun e n => if p e.1 then e.2 + n else n) 0

theorem total_insertEntry [Std.LawfulEqOrd κ] {p : κ → Bool} {k : κ} (hk : p k = true) (n : UInt64)
    {es : List (κ × UInt64)} (hes : es.Pairwise fun a b => compare a.1 b.1 = .lt) :
    (insertEntry k (((es.find? fun e => compare k e.1 == .eq).map (·.2)).getD 0 + n) es).foldr
        (fun e n => if p e.1 then e.2 + n else n) 0 =
      es.foldr (fun e n => if p e.1 then e.2 + n else n) 0 + n := by
  induction es with
  | nil => simp [insertEntry, hk]
  | cons e rest ih =>
    obtain ⟨he, hrest⟩ := List.pairwise_cons.mp hes
    rw [List.find?_cons]
    unfold insertEntry
    cases hcompare : compare k e.1 with
    | lt =>
      -- All keys that follow are greater, so the key is new.
      have hnone : rest.find? (fun x => compare k x.1 == .eq) = none := by
        refine List.find?_eq_none.mpr ?_
        intro x hx
        simp [Std.TransCmp.lt_trans hcompare (he x hx)]
      simp only [hnone, List.foldr_cons, hk, if_true]
      ac_rfl
    | eq =>
      have hsame : k = e.1 := Std.LawfulEqCmp.eq_of_compare hcompare
      simp only [beq_self_eq_true, Option.map_some, Option.getD_some, List.foldr_cons, hk, if_true,
        ← hsame]
      ac_rfl
    | gt =>
      have hne : (Ordering.gt == Ordering.eq) = false := rfl
      simp only [hne, List.foldr_cons, ih hrest]
      cases p e.1 with
      | true =>
        simp only [if_true]
        ac_rfl
      | false => rfl

theorem total_alter [Std.LawfulEqOrd κ] {p : κ → Bool} {k : κ} (hk : p k = true)
    (m : SortedMap κ UInt64) (n : UInt64) : (m.alter k 0 (· + n)).total p = m.total p + n :=
  total_insertEntry hk n m.increasing

end SortedMap

end ClusterOutbox
