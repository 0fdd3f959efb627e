import ClusterOutbox.Proofs.Delivery.Packing
import ClusterOutbox.Proofs.Delivery.Reading

namespace ClusterOutbox

theorem Reply.error?_eq_none {reply : Reply} :
    reply.error? = none ↔ ∃ code, reply = .status code ∧ 200 ≤ code ∧ code < 300 := by
  cases reply with
  | status code => simp [error?]
  | timedOut => simp [error?]
  | unreachable => simp [error?]

/-- What a flush has done so far: the clock it read, what it selected, and the bodies accepted. -/
structure Journal where
  start : Option Instant
  selected : List Record
  accepted : List (List UInt8)

namespace Journal

def blank : Journal := ⟨none, [], []⟩

/-- A reading of the clock; what was selected before it counts no more. -/
def started (j : Journal) (t : Instant) : Journal := { j with start := some t, selected := [] }

def replied (j : Journal) (body : List UInt8) (reply : Reply) : Journal :=
  match reply.error? with
  | none => { j with accepted := body :: j.accepted }
  | some _ => j

structure Extends (j j' : Journal) : Prop where
  start : j'.start = j.start
  selected : j'.selected = j.selected
  accepted : j.accepted ⊆ j'.accepted

theorem Extends.refl (j : Journal) : j.Extends j := ⟨rfl, rfl, fun _ h => h⟩

theorem extends_replied (j : Journal) (body : List UInt8) (reply : Reply) :
    j.Extends (j.replied body reply) := by
  unfold replied
  cases reply.error? with
  | none => exact ⟨rfl, rfl, fun _ h => List.mem_cons_of_mem _ h⟩
  | some _ => exact .refl j

theorem mem_accepted_replied {j : Journal} {body other : List UInt8} {reply : Reply}
    (h : other ∈ (j.replied body reply).accepted) :
    other ∈ j.accepted ∨ (other = body ∧ reply.error? = none) := by
  unfold replied at h
  cases hreply : reply.error? with
  | none =>
    rw [hreply] at h
    rcases List.mem_cons.mp h with hsame | hold
    · exact .inr ⟨hsame, rfl⟩
    · exact .inl hold
  | some e =>
    rw [hreply] at h
    exact .inl h

end Journal

namespace Procedure

variable {α β : Type} {marks : Journal → List String → Instant → Prop}

/-- Whatever comes from outside, each confirmation and the result meet what is asked of them. -/
def Ensures (marks : Journal → List String → Instant → Prop) (result : Journal → α → Prop) :
    Procedure α → Journal → Prop
  | finish a, j => result j a
  | overflow, _ => True
  | readClock next, j => ∀ t, (next t).Ensures marks result (j.started t)
  | select next, j =>
    ∀ found, (next found).Ensures marks result { j with selected := found.toOption.getD [] }
  | readKey next, j => ∀ key, (next key).Ensures marks result j
  | post _ body next, j =>
    ∀ reply elapsed, (next reply elapsed).Ensures marks result (j.replied body reply)
  | isSignalled next, j => ∀ b, (next b).Ensures marks result j
  | draw _ next, j => ∀ n, (next n).Ensures marks result j
  | pause _ next, j => ∀ b, (next b).Ensures marks result j
  | mark ids t next, j => marks j ids t ∧ ∀ r, (next r).Ensures marks result j
  | count _ next, j => next.Ensures marks result j

theorem Ensures.andThen {p : Procedure α} {f : α → Procedure β} {result : Journal → α → Prop}
    {result' : Journal → β → Prop} {j : Journal} (h : p.Ensures marks result j)
    (hf : ∀ j a, result j a → (f a).Ensures marks result' j) :
    (p >>= f).Ensures marks result' j := by
  change (p.andThen f).Ensures marks result' j
  induction p generalizing j with
  | finish a => exact hf j a h
  | overflow => trivial
  | readClock next ih => exact fun t => ih t (h t)
  | select next ih => exact fun found => ih found (h found)
  | readKey next ih => exact fun key => ih key (h key)
  | post key body next ih => exact fun reply elapsed => ih reply elapsed (h reply elapsed)
  | isSignalled next ih => exact fun b => ih b (h b)
  | draw limit next ih => exact fun n => ih n (h n)
  | pause delay next ih => exact fun b => ih b (h b)
  | mark ids t next ih => exact ⟨h.1, fun r => ih r (h.2 r)⟩
  | count change next ih => exact ih h

end Procedure

namespace Flush

variable {c : PusherConfig} {marks : Journal → List String → Instant → Prop}

/-- A delivery that may be confirmed: as of the clock of the flush, and of selected records that
bodies accepted have carried. -/
def Justified (stem : String) (j : Journal) (ids : List String) (t : Instant) : Prop :=
  j.start = some t ∧
    ∀ id ∈ ids, ∃ r ∈ j.selected, r.id = id ∧ ∃ body ∈ j.accepted, Carries stem body r

theorem ensures_sendFrom (key : String) (body : List UInt8) (left attempt : Nat) (j : Journal) :
    (sendFrom c key body left attempt).Ensures marks
      (fun j' r => j.Extends j' ∧ ∀ n, r = .ok n → body ∈ j'.accepted) j := by
  induction left generalizing attempt j with
  | zero =>
    rw [sendFrom]
    intro reply elapsed
    have hext := j.extends_replied body reply
    cases h : reply.error? with
    | none =>
      simp only [h]
      exact ⟨hext, fun _ _ => by simp [Journal.replied, h]⟩
    | some e =>
      simp only [h]
      exact ⟨hext, fun _ hr => by simp at hr⟩
  | succ left ih =>
    rw [sendFrom]
    intro reply elapsed
    have hext := j.extends_replied body reply
    cases h : reply.error? with
    | none =>
      simp only [h]
      exact ⟨hext, fun _ _ => by simp [Journal.replied, h]⟩
    | some e =>
      simp only [h]
      -- A refusal is not noted, so the next attempt starts from the same journal.
      have hsame : j.replied body reply = j := by simp [Journal.replied, h]
      rw [hsame]
      intro signalled
      cases signalled with
      | true => exact ⟨.refl j, fun _ hr => by simp at hr⟩
      | false =>
        intro drawn
        dsimp only
        cases c.retry.backoff (attempt - 1) drawn with
        | none => trivial
        | some delay =>
          intro waited
          cases waited with
          | true => exact ih (attempt + 1) j
          | false => exact ⟨.refl j, fun _ hr => by simp at hr⟩

theorem ensures_sendBatch (key : String) (batch : List Record) (j : Journal) :
    (sendBatch c key batch).Ensures marks
      (fun j' r => j.Extends j' ∧
        ∀ n, r = .ok n → ∃ body ∈ j'.accepted, ∀ r ∈ batch, Carries c.stem body r) j := by
  unfold sendBatch
  cases hbody : body? (seriesOf c.stem batch) with
  | none =>
    simp only [hbody]
    exact ⟨.refl j, fun _ hr => by simp at hr⟩
  | some body =>
    simp only [hbody]
    refine (ensures_sendFrom key body _ 1 j).andThen ?_
    rintro j' (e | n) ⟨hext, haccepted⟩
    · exact ⟨hext, fun _ hr => by simp at hr⟩
    · exact ⟨hext, fun _ _ => ⟨body, haccepted n rfl, fun r hr => carries_body? hr hbody⟩⟩

theorem Justified.extends {stem : String} {j j' : Journal} {ids : List String} {t : Instant}
    (h : Justified stem j ids t) (hext : j.Extends j') : Justified stem j' ids t := by
  refine ⟨hext.start.trans h.1, ?_⟩
  intro id hid
  obtain ⟨r, hr, hrid, body, hbody, hcarries⟩ := h.2 id hid
  exact ⟨r, hext.selected ▸ hr, hrid, body, hext.accepted hbody, hcarries⟩

theorem ensures_sendBatches (key : String) (selected : Nat) {batches : List (List Record)}
    {done : Progress} {j : Journal} {t : Instant}
    (hbatches : ∀ batch ∈ batches, batch ⊆ j.selected) (hdone : Justified c.stem j done.ids t) :
    (sendBatches c key selected done batches).Ensures marks
      (fun j' r => Justified c.stem j' r.1.ids t) j := by
  induction batches generalizing done j with
  | nil => exact hdone
  | cons batch rest ih =>
    rw [sendBatches]
    refine (ensures_sendBatch key batch j).andThen ?_
    rintro j' (e | n) ⟨hext, haccepted⟩
    · exact hdone.extends hext
    · obtain ⟨body, hbody, hcarries⟩ := haccepted n rfl
      have hselected : ∀ other ∈ batch :: rest, other ⊆ j'.selected := by
        rw [hext.selected]
        exact hbatches
      have hdone' : Justified c.stem j' (done.ids ++ batch.map (·.id)) t := by
        refine ⟨hext.start.trans hdone.1, ?_⟩
        intro id hid
        rcases List.mem_append.mp hid with hid | hid
        · exact (hdone.extends hext).2 id hid
        · obtain ⟨r, hr, rfl⟩ := List.mem_map.mp hid
          exact ⟨r, hselected batch List.mem_cons_self hr, rfl, body, hbody, hcarries r hr⟩
      exact ih (fun other hother => hselected other (List.mem_cons_of_mem batch hother)) hdone'

theorem ensures_confirm {start : Instant} {ids : List String} {j : Journal}
    (h : ids ≠ [] → marks j ids start) :
    (confirm c start ids).Ensures marks (fun _ _ => True) j := by
  unfold confirm
  split
  · trivial
  · next hne =>
    refine ⟨h hne, ?_⟩
    rintro (e | n) <;> trivial

/-- A flush only confirms what it may. -/
theorem ensures_flush (c : PusherConfig) (j : Journal) :
    (flush c).Ensures (Justified c.stem) (fun _ _ => True) j := by
  intro start found
  cases found with
  | error e => trivial
  | ok pending =>
    change Procedure.Ensures _ _ (if pending = [] then _ else _) _
    split
    · trivial
    · intro key
      dsimp only
      split
      · trivial
      · have hbatches : ∀ batch ∈ pack c.maxBytes pending, batch ⊆ pending :=
          fun batch hbatch r hr => mem_pack hbatch hr
        refine (ensures_sendBatches key pending.length hbatches ⟨rfl, by simp⟩).andThen ?_
        rintro j' ⟨done, failure⟩ hjustified
        refine (ensures_confirm fun _ => hjustified).andThen ?_
        intro j'' _ _
        cases failure <;> trivial

end Flush

end ClusterOutbox
