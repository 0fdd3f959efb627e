import ClusterOutbox.Proofs.Delivery.Packing
import Mathlib.Data.List.Chain

namespace ClusterOutbox

/-- The sizes of some records together, as a number without a limit. -/
def bytesOf : List Record → Nat
  | [] => 0
  | r :: rest => r.size.toNat + bytesOf rest

theorem bytesOf_append (a b : List Record) : bytesOf (a ++ b) = bytesOf a + bytesOf b := by
  induction a with
  | nil => simp [bytesOf]
  | cons r rest ih => simp only [List.cons_append, bytesOf, ih, Nat.add_assoc]

theorem bytesOf_concat (a : List Record) (r : Record) :
    bytesOf (a ++ [r]) = bytesOf a + r.size.toNat := bytesOf_append a [r]

theorem size_le_bytesOf {batch : List Record} {r : Record} (hr : r ∈ batch) :
    r.size.toNat ≤ bytesOf batch := by
  obtain ⟨before, after, rfl⟩ := List.append_of_mem hr
  rw [bytesOf_append]
  simp only [bytesOf]
  omega

/-- A batch keeps the budget, or carries a single record. -/
def Fits (budget : Nat) (batch : List Record) : Prop :=
  bytesOf batch ≤ budget ∨ batch.length = 1

/-- A batch has no room for the first record of the next one. -/
def Full (budget : Nat) (batch next : List Record) : Prop :=
  ∀ r ∈ next.head?, budget < bytesOf batch + r.size.toNat

theorem not_fits_of_full {budget : Nat} {batch : List Record} {r : Record} (hne : batch ≠ [])
    (hfull : budget < bytesOf batch + r.size.toNat) (before after : List Record) :
    ¬ Fits budget (before ++ batch ++ r :: after) := by
  have hbytes : bytesOf (before ++ batch ++ r :: after) =
      bytesOf before + bytesOf batch + (r.size.toNat + bytesOf after) := by
    rw [bytesOf_append, bytesOf_append, bytesOf]
  have hlength : 0 < batch.length := List.length_pos_iff.mpr hne
  rintro (hle | hone)
  · omega
  · simp only [List.length_append, List.length_cons] at hone
    omega

theorem head?_of_flatten {batches : List (List Record)} {next records : List Record} {r : Record}
    (hne : ∀ batch ∈ batches, batch ≠ []) (hflatten : batches.flatten = r :: records)
    (hnext : next ∈ batches.head?) : next.head? = some r := by
  cases batches with
  | nil => simp at hnext
  | cons batch rest =>
    obtain rfl := Option.some.inj hnext
    obtain ⟨x, more, rfl⟩ := List.exists_cons_of_ne_nil (hne batch List.mem_cons_self)
    rw [List.flatten_cons, List.cons_append] at hflatten
    exact congrArg some (List.cons.inj hflatten).1

section

variable {budget : UInt64} {current rest : List Record} {bytes : UInt64}

theorem nonempty_packFrom : ∀ batch ∈ packFrom budget current bytes rest, batch ≠ [] := by
  induction rest generalizing current bytes with
  | nil =>
    rw [packFrom]
    split
    · simp
    · next hne => simpa using hne
  | cons r rest ih =>
    rw [packFrom]
    split
    · next hfull => exact List.forall_mem_cons.mpr ⟨hfull.1, ih⟩
    · exact ih

/-- No word overflows that holds a running sum, as long as all the sizes together are a word. -/
theorem toNat_add_size {r : Record} (hbytes : bytes.toNat = bytesOf current)
    (hsum : bytesOf current + bytesOf (r :: rest) < UInt64.size) :
    (bytes + r.size).toNat = bytesOf (current ++ [r]) := by
  have hlt : bytesOf current + r.size.toNat < UInt64.size := by
    rw [bytesOf] at hsum
    omega
  rw [UInt64.toNat_add, hbytes, bytesOf_concat]
  exact Nat.mod_eq_of_lt hlt

theorem bytesOf_moved (current rest : List Record) (r : Record) :
    bytesOf (current ++ [r]) + bytesOf rest = bytesOf current + bytesOf (r :: rest) := by
  rw [bytesOf_concat, bytesOf, Nat.add_assoc]

theorem fits_packFrom (hbytes : bytes.toNat = bytesOf current)
    (hsum : bytesOf current + bytesOf rest < UInt64.size) (hfits : Fits budget.toNat current) :
    ∀ batch ∈ packFrom budget current bytes rest, Fits budget.toNat batch := by
  induction rest generalizing current bytes with
  | nil =>
    rw [packFrom]
    split
    · simp
    · simpa using hfits
  | cons r rest ih =>
    have hnext := toNat_add_size hbytes hsum
    rw [← bytesOf_moved] at hsum
    rw [packFrom]
    split
    · have hrest : bytesOf [r] + bytesOf rest < UInt64.size := by
        rw [bytesOf_concat] at hsum
        simp only [bytesOf]
        omega
      exact List.forall_mem_cons.mpr ⟨hfits, ih rfl hrest (.inr rfl)⟩
    · next hroom =>
      refine ih hnext hsum ?_
      by_cases hnil : current = []
      · exact .inr (by rw [hnil]; rfl)
      · have hle : ¬ budget < bytes + r.size := fun hlt => hroom ⟨hnil, hlt⟩
        rw [UInt64.lt_iff_toNat_lt, hnext] at hle
        exact .inl (Nat.le_of_not_lt hle)

theorem full_packFrom (hbytes : bytes.toNat = bytesOf current)
    (hsum : bytesOf current + bytesOf rest < UInt64.size) :
    (packFrom budget current bytes rest).IsChain (Full budget.toNat) := by
  induction rest generalizing current bytes with
  | nil =>
    rw [packFrom]
    split
    · exact .nil
    · exact .singleton _
  | cons r rest ih =>
    have hnext := toNat_add_size hbytes hsum
    rw [← bytesOf_moved] at hsum
    rw [packFrom]
    split
    · next hclosed =>
      have hlt := UInt64.lt_iff_toNat_lt.mp hclosed.2
      rw [hnext, bytesOf_concat] at hlt
      have hrest : bytesOf [r] + bytesOf rest < UInt64.size := by
        rw [bytesOf_concat] at hsum
        simp only [bytesOf]
        omega
      refine List.isChain_cons.mpr ⟨?_, ih rfl hrest⟩
      intro next hhead x hx
      have hfirst := head?_of_flatten nonempty_packFrom (flatten_packFrom budget [r] r.size rest) hhead
      obtain rfl := Option.some.inj (hfirst.symm.trans hx)
      exact hlt
    · exact ih hnext hsum

end

/-- A batch without room for more comes at least as far as any other that begins no earlier and
keeps the budget. -/
theorem suffix_of_full {budget : Nat} {batch left other others : List Record} (hne : batch ≠ [])
    (hroom : ∀ r ∈ left.head?, budget < bytesOf batch + r.size.toNat) (hfits : Fits budget other)
    (h : batch ++ left <:+ other ++ others) : left <:+ others := by
  have hleft : left <:+ other ++ others := (List.suffix_append batch left).trans h
  rcases List.suffix_or_suffix_of_suffix hleft (List.suffix_append other others) with
    hahead | ⟨passed, hpassed⟩
  · exact hahead
  cases passed with
  | nil => exact hpassed ▸ List.suffix_refl others
  | cons r passed =>
    -- The other batch holds this one and the first record left, for which there is no room.
    obtain ⟨before, hbefore⟩ := h
    have hwhole : before ++ batch ++ r :: passed ++ others = other ++ others := by
      rw [← hbefore, ← hpassed]
      simp
    have hother : before ++ batch ++ r :: passed = other := List.append_cancel_right hwhole
    have hr : r ∈ left.head? := by simp [← hpassed]
    exact absurd (hother ▸ hfits) (not_fits_of_full hne (hroom r hr) before passed)

/-- Batches without room for more stay ahead: where they have come at least as far as others that
keep the budget, they are no more. -/
theorem length_le_of_suffix {budget : Nat} {batches split : List (List Record)}
    (hne : ∀ batch ∈ batches, batch ≠ []) (hfull : batches.IsChain (Full budget))
    (hfits : ∀ batch ∈ split, Fits budget batch) (hsuffix : batches.flatten <:+ split.flatten) :
    batches.length ≤ split.length := by
  induction split generalizing batches with
  | nil =>
    have hnil : batches.flatten = [] := List.suffix_nil.mp hsuffix
    cases batches with
    | nil => exact Nat.le_refl 0
    | cons batch rest =>
      exact absurd (List.append_eq_nil_iff.mp hnil).1 (hne batch List.mem_cons_self)
  | cons other others ih =>
    cases batches with
    | nil => exact Nat.zero_le _
    | cons batch rest =>
      obtain ⟨hroom, hfullRest⟩ := List.isChain_cons.mp hfull
      obtain ⟨hbatch, hneRest⟩ := List.forall_mem_cons.mp hne
      obtain ⟨hother, hfitsRest⟩ := List.forall_mem_cons.mp hfits
      have hfirst : ∀ r ∈ rest.flatten.head?, budget < bytesOf batch + r.size.toNat := by
        intro r hr
        obtain ⟨more, hmore⟩ := List.head?_eq_some_iff.mp hr
        cases hhead : rest.head? with
        | none => simp [List.head?_eq_none_iff.mp hhead] at hmore
        | some next => exact hroom next hhead r (head?_of_flatten hneRest hmore hhead)
      rw [List.flatten_cons, List.flatten_cons] at hsuffix
      have hahead := suffix_of_full hbatch hfirst hother hsuffix
      exact Nat.succ_le_succ (ih hneRest hfullRest hfitsRest hahead)

/-- How records are split for a budget: in their order and none of them lost, each batch with a
record, within the budget unless it carries a single one, and without room for the next record; a
record above the budget travels alone, and no split that keeps the budget has fewer batches. -/
structure Packing (budget : Nat) (records : List Record) (batches : List (List Record)) : Prop where
  flatten : batches.flatten = records
  nonempty : ∀ batch ∈ batches, batch ≠ []
  within : ∀ batch ∈ batches, 1 < batch.length → bytesOf batch ≤ budget
  full : ∀ before batch r more after, batches = before ++ batch :: (r :: more) :: after →
    budget < bytesOf batch + r.size.toNat
  alone : ∀ batch ∈ batches, ∀ r ∈ batch, budget < r.size.toNat → batch = [r]
  fewest : ∀ split : List (List Record), split.flatten = records →
    (∀ batch ∈ split, batch ≠ [] ∧ (bytesOf batch ≤ budget ∨ batch.length = 1)) →
    batches.length ≤ split.length

/-- Records whose sizes together are a word are packed so. -/
theorem packing_pack (budget : UInt64) {records : List Record}
    (hsum : bytesOf records < UInt64.size) :
    Packing budget.toNat records (pack budget records) := by
  have hsum' : bytesOf [] + bytesOf records < UInt64.size := by
    rwa [bytesOf, Nat.zero_add]
  have hflatten := flatten_pack budget records
  have hne : ∀ batch ∈ pack budget records, batch ≠ [] := nonempty_packFrom
  have hfits : ∀ batch ∈ pack budget records, Fits budget.toNat batch :=
    fits_packFrom rfl hsum' (.inl (Nat.zero_le _))
  have hfull : (pack budget records).IsChain (Full budget.toNat) := full_packFrom rfl hsum'
  refine ⟨hflatten, hne, ?_, ?_, ?_, ?_⟩
  · intro batch hbatch hlength
    exact (hfits batch hbatch).resolve_right (Nat.ne_of_gt hlength)
  · intro before batch r more after hbatches
    rw [hbatches] at hfull
    obtain ⟨-, hrest, -⟩ := List.isChain_append.mp hfull
    exact (List.isChain_cons_cons.mp hrest).1 r rfl
  · intro batch hbatch r hr hlarge
    have hle := size_le_bytesOf hr
    rcases hfits batch hbatch with hwithin | hone
    · omega
    · obtain ⟨x, rfl⟩ := List.length_eq_one_iff.mp hone
      rw [List.mem_singleton.mp hr]
  · intro split hsplit hkeeps
    have hsame : (pack budget records).flatten = split.flatten := hflatten.trans hsplit.symm
    have hkeeps' : ∀ batch ∈ split, Fits budget.toNat batch := fun batch hb => (hkeeps batch hb).2
    exact length_le_of_suffix hne hfull hkeeps' (hsame ▸ List.suffix_refl _)

/-- A pod of a size. -/
def sizedPod (size : UInt64) : Record := { Record.fresh .pod "web-0" none with size }

/-- Sizes of nothing, above a budget of forty, and together just that. -/
def unevenPods : List Record := [0, 41, 0, 15, 25, 1, 0].map sizedPod

theorem packing_pack_uneven :
    bytesOf unevenPods < UInt64.size ∧ Packing 40 unevenPods (pack 40 unevenPods) :=
  have hsum : bytesOf unevenPods < UInt64.size := by decide
  ⟨hsum, packing_pack 40 hsum⟩

example : (pack 40 unevenPods).map (·.map (·.size)) = [[0], [41], [0, 15, 25], [1, 0]] := by
  decide

end ClusterOutbox
