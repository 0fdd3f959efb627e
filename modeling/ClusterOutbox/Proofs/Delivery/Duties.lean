import ClusterOutbox.Proofs.Delivery.Requests
import ClusterOutbox.Proofs.Delivery.Sending
import Mathlib.Data.List.TakeWhile

namespace ClusterOutbox

/-- What a flush does that shows outside of it. -/
inductive Duty
  | post (body : List UInt8)
  | mark (ids : List String) (at_ : Instant)

namespace Procedure

variable {α β : Type} {a : α} {duties duties' : List Duty}

/-- As long as there is a key, requests are accepted and deliveries confirmed, a procedure does its
duties in their order, nothing else, and comes to a result. -/
def Performs (result : α) : Procedure α → List Duty → Prop
  | finish a, duties => a = result ∧ duties = []
  | readKey next, duties => ∀ key, key ≠ "" → (next key).Performs result duties
  | post _ body next, duties => ∃ rest, duties = .post body :: rest ∧
    ∀ reply elapsed, reply.error? = none → (next reply elapsed).Performs result rest
  | mark ids t next, duties => ∃ rest, duties = .mark ids t :: rest ∧
    ∀ n, (next (.ok n)).Performs result rest
  | count _ next, duties => next.Performs result duties
  | overflow, _ | readClock _, _ | select _, _ | isSignalled _, _ | draw _ _, _
  | pause _ _, _ => False

theorem Performs.andThen {p : Procedure α} {f : α → Procedure β} {b : β}
    (h : p.Performs a duties) (hf : (f a).Performs b duties') :
    (p >>= f).Performs b (duties ++ duties') := by
  change (p.andThen f).Performs b (duties ++ duties')
  induction p generalizing duties with
  | finish a' =>
    obtain ⟨rfl, rfl⟩ := h
    exact hf
  | readKey next ih => exact fun key hkey => ih key (h key hkey)
  | post key body next ih =>
    obtain ⟨rest, rfl, hnext⟩ := h
    exact ⟨rest ++ duties', rfl, fun reply elapsed hreply =>
      ih reply elapsed (hnext reply elapsed hreply)⟩
  | mark ids t next ih =>
    obtain ⟨rest, rfl, hnext⟩ := h
    exact ⟨rest ++ duties', rfl, fun n => ih (.ok n) (hnext n)⟩
  | count change next ih => exact ih h
  | overflow | readClock next ih | select next ih | isSignalled next ih | draw limit next ih
  | pause delay next ih => exact h.elim

end Procedure

namespace Flush

variable {c : PusherConfig}

theorem performs_sendFrom (key : String) (body : List UInt8) (left attempt : Nat) :
    (sendFrom c key body left attempt).Performs (.ok attempt) [.post body] := by
  unfold sendFrom
  refine ⟨[], rfl, fun reply elapsed hreply => ?_⟩
  simp only [hreply]
  exact ⟨rfl, rfl⟩

theorem performs_sendBatch (key : String) {batch : List Record} {body : List UInt8}
    (hbody : body? (seriesOf c.stem batch) = some body) :
    (sendBatch c key batch).Performs (.ok (seriesOf c.stem batch).length) [.post body] := by
  simp only [sendBatch, hbody]
  have hduties : [Duty.post body] = [.post body] ++ [] := rfl
  rw [hduties]
  exact (performs_sendFrom key body _ 1).andThen ⟨rfl, rfl⟩

theorem performs_sendBatch_tooLong (key : String) {batch : List Record}
    (hbody : body? (seriesOf c.stem batch) = none) :
    (sendBatch c key batch).Performs (.error .compress) [] := by
  simp only [sendBatch, hbody]
  exact ⟨rfl, rfl⟩

/-- Whether the series of a batch are short enough for a body. -/
def hasBody (c : PusherConfig) (batch : List Record) : Bool := (body? (seriesOf c.stem batch)).isSome

/-- The bodies of batches. -/
def bodiesOf (c : PusherConfig) (batches : List (List Record)) : List (List UInt8) :=
  batches.filterMap fun batch => body? (seriesOf c.stem batch)

theorem bodiesOf_cons {batch : List Record} {body : List UInt8}
    (hbody : body? (seriesOf c.stem batch) = some body) (batches : List (List Record)) :
    bodiesOf c (batch :: batches) = body :: bodiesOf c batches :=
  List.filterMap_cons_some (f := fun batch => body? (seriesOf c.stem batch)) hbody

theorem performs_sendBatches (key : String) (selected : Nat) (done : Progress)
    (batches : List (List Record)) :
    (sendBatches c key selected done batches).Performs
      (done.after c.stem (batches.takeWhile (hasBody c)),
        if batches.dropWhile (hasBody c) = [] then none else some .compress)
      ((bodiesOf c (batches.takeWhile (hasBody c))).map .post) := by
  induction batches generalizing done with
  | nil => exact ⟨by rw [List.takeWhile_nil, Progress.after_none]; rfl, rfl⟩
  | cons batch rest ih =>
    rw [sendBatches]
    cases hbody : body? (seriesOf c.stem batch) with
    | none =>
      have hlong : hasBody c batch = false := by rw [hasBody, hbody]; rfl
      rw [List.takeWhile_cons_of_neg (by simp [hlong]), List.dropWhile_cons_of_neg (by simp [hlong]),
        Progress.after_none, if_neg (List.cons_ne_nil batch rest)]
      exact (performs_sendBatch_tooLong key hbody).andThen
        (show Procedure.Performs _ _ [] from ⟨rfl, rfl⟩)
    | some body =>
      have hfits : hasBody c batch = true := by rw [hasBody, hbody]; rfl
      rw [List.takeWhile_cons_of_pos hfits, List.dropWhile_cons_of_pos hfits, Progress.after_cons,
        Progress.after_one, bodiesOf_cons hbody]
      exact (performs_sendBatch key hbody).andThen (ih _)

theorem performs_confirm (start : Instant) (ids : List String) :
    (confirm c start ids).Performs () (if ids = [] then [] else [.mark ids start]) := by
  unfold confirm
  split
  · exact ⟨rfl, rfl⟩
  · exact ⟨[], rfl, fun n => ⟨rfl, rfl⟩⟩

/-- The batches that a flush of records sends where every request is accepted: those before the first
that is too long for a body. -/
def leading (c : PusherConfig) (records : List Record) : List (List Record) :=
  (pack c.maxBytes records).takeWhile (hasBody c)

def carried (c : PusherConfig) (records : List Record) : List Record := (leading c records).flatten

/-- The records that such a flush leaves behind. -/
def behind (c : PusherConfig) (records : List Record) : List Record :=
  ((pack c.maxBytes records).dropWhile (hasBody c)).flatten

theorem carried_append_behind (c : PusherConfig) (records : List Record) :
    carried c records ++ behind c records = records := by
  rw [carried, leading, behind, ← List.flatten_append, List.takeWhile_append_dropWhile, flatten_pack]

theorem pack_behind (c : PusherConfig) (records : List Record) :
    pack c.maxBytes (behind c records) = (pack c.maxBytes records).dropWhile (hasBody c) :=
  pack_flatten_of_append List.takeWhile_append_dropWhile.symm

theorem behind_eq_nil {records : List Record} :
    behind c records = [] ↔ (pack c.maxBytes records).dropWhile (hasBody c) = [] := by
  constructor
  · intro h
    rw [← pack_behind, h]
    rfl
  · intro h
    rw [behind, h]
    rfl

theorem leading_eq_pack {records : List Record} (h : behind c records = []) :
    leading c records = pack c.maxBytes records := by
  have hsplit := List.takeWhile_append_dropWhile (p := hasBody c) (l := pack c.maxBytes records)
  rwa [behind_eq_nil.mp h, List.append_nil] at hsplit

/-- What is left behind begins with a batch whose block has no room. -/
theorem exists_tooLong {records : List Record} (h : behind c records ≠ []) :
    ∃ long rest, pack c.maxBytes records = leading c records ++ long :: rest ∧
      4294967295 < Snappy.maxLength (Wire.writeRequest (seriesOf c.stem long)).length := by
  obtain ⟨long, rest, hdrop⟩ := List.exists_cons_of_ne_nil (mt behind_eq_nil.mpr h)
  have hlong := List.head?_dropWhile_not (hasBody c) (pack c.maxBytes records)
  rw [hdrop] at hlong
  refine ⟨long, rest, ?_, ?_⟩
  · rw [← hdrop, leading, List.takeWhile_append_dropWhile]
  · rw [← Snappy.compress?_eq_none, ← body?]
    simpa [hasBody] using hlong

/-- A batch left behind is too long, so a second flush does not come past it either. -/
theorem leading_behind (c : PusherConfig) (records : List Record) :
    leading c (behind c records) = [] := by
  rw [leading, pack_behind]
  cases h : (pack c.maxBytes records).dropWhile (hasBody c) with
  | nil => rfl
  | cons batch rest =>
    have hlong := List.head?_dropWhile_not (hasBody c) (pack c.maxBytes records)
    rw [h] at hlong
    exact List.takeWhile_cons_of_neg (by simpa using hlong)

theorem carried_behind (c : PusherConfig) (records : List Record) :
    carried c (behind c records) = [] := by
  rw [carried, leading_behind]
  rfl

theorem behind_behind (c : PusherConfig) (records : List Record) :
    behind c (behind c records) = behind c records := by
  have h := carried_append_behind c (behind c records)
  rwa [carried_behind] at h

/-- The bodies that such a flush sends. -/
def bodies (c : PusherConfig) (records : List Record) : List (List UInt8) :=
  bodiesOf c (leading c records)

/-- Each body says its batch. -/
theorem says_bodies (c : PusherConfig) (records : List Record) :
    List.Forall₂ (Says c.stem) (leading c records) (bodies c records) := by
  have hfits : ∀ batch ∈ leading c records, hasBody c batch = true :=
    fun batch hbatch => List.mem_takeWhile_imp hbatch
  unfold bodies
  generalize leading c records = batches at hfits
  induction batches with
  | nil => exact .nil
  | cons batch rest ih =>
    obtain ⟨hbatch, hrest⟩ := List.forall_mem_cons.mp hfits
    obtain ⟨body, hbody⟩ := Option.isSome_iff_exists.mp hbatch
    rw [bodiesOf_cons hbody]
    exact .cons (says_body? hbody) (ih hrest)

/-- The report of a flush that delivers records. -/
def reportOf (c : PusherConfig) (records : List Record) : Report :=
  ⟨records.length, records.length, (pack c.maxBytes records).length,
    (seriesOf c.stem records).length⟩

/-- What a flush of records comes to where every request is accepted. -/
def resultOf (c : PusherConfig) (records : List Record) : Except PushError Report :=
  if behind c records = [] then .ok (reportOf c records) else .error .compress

/-- The confirmation of some records, if there are any. -/
def marks (start : Instant) (records : List Record) : List Duty :=
  if records = [] then [] else [.mark (records.map (·.id)) start]

theorem marks_eq_nil {start : Instant} {records : List Record} :
    marks start records = [] ↔ records = [] := by
  simp [marks]

theorem marks_ne_post (start : Instant) (records : List Record) (body : List UInt8)
    (rest : List Duty) : marks start records ≠ .post body :: rest := by
  unfold marks
  split <;> simp

theorem marks_eq_mark {start t : Instant} {records : List Record} {ids : List String}
    {rest : List Duty} (h : marks start records = .mark ids t :: rest) :
    records.map (·.id) = ids ∧ start = t ∧ [] = rest := by
  unfold marks at h
  split at h
  · simp at h
  · obtain ⟨hmark, hrest⟩ := List.cons.inj h
    obtain ⟨hids, hstart⟩ := Duty.mark.inj hmark
    exact ⟨hids, hstart, hrest⟩

/-- The duties of a flush that has selected records. -/
def duties (c : PusherConfig) (start : Instant) (records : List Record) : List Duty :=
  (bodies c records).map .post ++ marks start (carried c records)

/-- Nothing can be done for what is left behind. -/
theorem duties_behind (c : PusherConfig) (start : Instant) (records : List Record) :
    duties c start (behind c records) = [] := by
  rw [duties, bodies, leading_behind, carried_behind]
  rfl

theorem performs_deliver (c : PusherConfig) (start : Instant) (records : List Record) :
    (deliver c start (.ok records)).Performs (resultOf c records) (duties c start records) := by
  by_cases hne : records = []
  · subst hne
    simp only [deliver]
    exact ⟨rfl, rfl⟩
  · change Procedure.Performs _ (if records = [] then _ else _) _
    rw [if_neg hne]
    intro key hkey
    change Procedure.Performs _ (if key = "" then _ else _) _
    let done := (⟨[], 0, 0⟩ : Progress).after c.stem (leading c records)
    have hids : done.ids = (carried c records).map (·.id) := by
      simp [done, Progress.after, carried]
    have hconfirm : (confirm c start done.ids).Performs () (marks start (carried c records)) := by
      simpa [hids, marks] using performs_confirm (c := c) start done.ids
    rw [if_neg hkey, duties]
    refine (performs_sendBatches key records.length ⟨[], 0, 0⟩ (pack c.maxBytes records)).andThen ?_
    rw [← List.append_nil (marks start (carried c records))]
    refine hconfirm.andThen ?_
    by_cases hall : (pack c.maxBytes records).dropWhile (hasBody c) = []
    · have hleading : leading c records = pack c.maxBytes records :=
        leading_eq_pack (behind_eq_nil.mpr hall)
      have hreport : reportOf c records =
          ⟨records.length, done.ids.length, done.batches, done.series⟩ := by
        simp [reportOf, done, Progress.after, hleading, flatten_pack]
      rw [if_pos hall, resultOf, if_pos (behind_eq_nil.mpr hall), hreport]
      exact ⟨rfl, rfl⟩
    · rw [if_neg hall, resultOf, if_neg (mt behind_eq_nil.mp hall)]
      exact ⟨rfl, rfl⟩

end Flush

end ClusterOutbox
