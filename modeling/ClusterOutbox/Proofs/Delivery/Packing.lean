import ClusterOutbox.Delivery.Batch
import Mathlib.Data.List.Nodup

namespace ClusterOutbox

theorem flatten_packFrom (budget : UInt64) (current : List Record) (bytes : UInt64)
    (rest : List Record) : (packFrom budget current bytes rest).flatten = current ++ rest := by
  induction rest generalizing current bytes with
  | nil =>
    rw [packFrom]
    split
    · next hnil => simp [hnil]
    · simp
  | cons r rest ih =>
    rw [packFrom]
    split
    · rw [List.flatten_cons, ih, List.singleton_append]
    · rw [ih, List.append_assoc, List.singleton_append]

/-- Batches hold the records in their order, each of them once. -/
theorem flatten_pack (budget : UInt64) (records : List Record) :
    (pack budget records).flatten = records := flatten_packFrom budget [] 0 records

/-- The first batch once chosen, the others are those that the records left are packed into. -/
theorem packFrom_cons (budget : UInt64) {current : List Record} (hne : current ≠ []) (bytes : UInt64)
    (rest : List Record) : ∃ batch others, packFrom budget current bytes rest = batch :: others ∧
      pack budget others.flatten = others := by
  induction rest generalizing current bytes with
  | nil => exact ⟨current, [], by rw [packFrom, if_neg hne], rfl⟩
  | cons r rest ih =>
    rw [packFrom]
    split
    · have hrestart : pack budget (r :: rest) = packFrom budget [r] r.size rest := by
        rw [pack, packFrom, if_neg (fun h => h.1 rfl), List.nil_append, UInt64.zero_add]
      refine ⟨current, _, rfl, ?_⟩
      rw [flatten_packFrom, List.singleton_append, hrestart]
    · exact ih (by simp) _

theorem pack_flatten_of_append {budget : UInt64} {records : List Record}
    {batches others : List (List Record)} (h : pack budget records = batches ++ others) :
    pack budget others.flatten = others := by
  induction batches generalizing records with
  | nil =>
    rw [List.nil_append] at h
    rw [← h, flatten_pack]
  | cons batch batches ih =>
    cases records with
    | nil => simp [pack, packFrom] at h
    | cons r records =>
      obtain ⟨first, rest, hfirst, hrest⟩ :=
        packFrom_cons budget (List.cons_ne_nil r []) (0 + r.size) records
      rw [pack, packFrom, if_neg (fun h => h.1 rfl), List.nil_append, hfirst] at h
      obtain ⟨-, rfl⟩ := List.cons.inj h
      exact ih hrest

theorem mem_pack {budget : UInt64} {records batch : List Record} {r : Record}
    (hbatch : batch ∈ pack budget records) (hr : r ∈ batch) : r ∈ records := by
  rw [← flatten_pack budget records]
  exact List.mem_flatten_of_mem hbatch hr

theorem countP_mem_of_nodup_flatten {batches : List (List Record)} (hd : batches.flatten.Nodup)
    {r : Record} (hr : r ∈ batches.flatten) : batches.countP (fun batch => r ∈ batch) = 1 := by
  induction batches with
  | nil => simp at hr
  | cons batch rest ih =>
    rw [List.flatten_cons] at hd hr
    obtain ⟨-, hrest, hdisjoint⟩ := List.nodup_append'.mp hd
    rw [List.countP_cons]
    by_cases hbatch : r ∈ batch
    · have hnone : rest.countP (fun batch => r ∈ batch) = 0 := by
        refine List.countP_eq_zero.mpr fun other hother hr' => ?_
        exact hdisjoint hbatch (List.mem_flatten_of_mem hother (of_decide_eq_true hr'))
      simp [hnone, hbatch]
    · have hmem : r ∈ rest.flatten := (List.mem_append.mp hr).resolve_left hbatch
      simp [ih hrest hmem, hbatch]

/-- Records that differ are each in one batch. -/
theorem countP_pack {budget : UInt64} {records : List Record} (hd : records.Nodup) {r : Record}
    (hr : r ∈ records) : (pack budget records).countP (fun batch => r ∈ batch) = 1 := by
  rw [← flatten_pack budget records] at hd hr
  exact countP_mem_of_nodup_flatten hd hr

end ClusterOutbox
