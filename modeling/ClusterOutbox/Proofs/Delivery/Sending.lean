import ClusterOutbox.Proofs.Delivery.Attempts
import ClusterOutbox.Proofs.Delivery.Reading
import Mathlib.Data.List.Basic

namespace ClusterOutbox

namespace Flush

variable {c : PusherConfig} {s : Surroundings} {t : Trace}

/-- What becomes of one batch: the requests that say its series, and the number of the series where
the last of these requests is accepted. -/
inductive Sent (c : PusherConfig) (signal : Signal) (batch : List Record) :
    List Exchange → Except PushError Nat → Prop
  | tooLong : body? (seriesOf c.stem batch) = none → Sent c signal batch [] (.error .compress)
  | tried {body : List UInt8} {replies : List Reply} {result : Except PushError Nat} :
    body? (seriesOf c.stem batch) = some body → read? body = some (seriesOf c.stem batch) →
    Tried c.retry signal replies result →
    Sent c signal batch (replies.map fun reply => ⟨body, reply⟩)
      (result.map fun _ => (seriesOf c.stem batch).length)

theorem Sent.series {signal : Signal} {batch : List Record} {xs : List Exchange} {n : Nat}
    (h : Sent c signal batch xs (.ok n)) : n = (seriesOf c.stem batch).length := by
  generalize hresult : (Except.ok n : Except PushError Nat) = r at h
  cases h with
  | tooLong => simp at hresult
  | @tried _ _ result =>
    cases result with
    | error e => simp [Except.map] at hresult
    | ok _ => exact Except.ok.inj hresult

/-- Batches that are accepted, one after another. -/
inductive Accepted (c : PusherConfig) (signal : Signal) : List (List Record) → List Exchange → Prop
  | nil : Accepted c signal [] []
  | cons {batch : List Record} {xs ys : List Exchange} {n : Nat} {rest : List (List Record)} :
    Sent c signal batch xs (.ok n) → Accepted c signal rest ys →
    Accepted c signal (batch :: rest) (xs ++ ys)

theorem run_sendBatch (c : PusherConfig) (key : String) (batch : List Record)
    (hquiet : t.Quiet s) :
    (((sendBatch c key batch).run s t).1 = none ∧ ¬ c.retry.Bounded) ∨
      ∃ result t' xs, (sendBatch c key batch).run s t = (some result, t') ∧
        Sent c s.signal batch xs result ∧ t.LeadsTo s xs t' := by
  cases hbody : body? (seriesOf c.stem batch) with
  | none =>
    right
    refine ⟨.error .compress, t, [], ?_, .tooLong hbody, .refl s t⟩
    simp only [sendBatch, hbody]
    rfl
  | some body =>
    simp only [sendBatch, hbody]
    rcases run_send c key body hquiet with ⟨hoverflow, hc⟩ |
      ⟨result, t', replies, hrun, htried, hlead⟩
    · exact .inl ⟨Procedure.run_bind_overflow hoverflow _, hc⟩
    right
    have hsent := Sent.tried (c := c) hbody (read?_body? hbody) htried
    rw [Procedure.run_bind hrun]
    cases result with
    | error e => exact ⟨.error e, t', _, rfl, hsent, hlead⟩
    | ok n =>
      exact ⟨.ok (seriesOf c.stem batch).length, t'.counted (·.observeBatch c.endpoint
        (seriesOf c.stem batch).length.toUInt64 body.length.toUInt64), _, rfl, hsent,
        hlead.counted _⟩

/-- What is known after batches more. -/
def Progress.after (stem : String) (done : Progress) (batches : List (List Record)) : Progress where
  ids := done.ids ++ batches.flatten.map (·.id)
  batches := done.batches + batches.length
  series := done.series + (seriesOf stem batches.flatten).length

theorem Progress.after_none (stem : String) (done : Progress) : done.after stem [] = done := by
  simp [after, seriesOf]

theorem Progress.after_one (stem : String) (done : Progress) (batch : List Record) :
    done.after stem [batch] = ⟨done.ids ++ batch.map (·.id), done.batches + 1,
      done.series + (seriesOf stem batch).length⟩ := by
  simp [after]

theorem Progress.after_cons (stem : String) (done : Progress) (batch : List Record)
    (batches : List (List Record)) :
    done.after stem (batch :: batches) = (done.after stem [batch]).after stem batches := by
  simp only [after, List.flatten_cons, List.flatten_nil, List.map_append, seriesOf_append,
    List.length_append, List.append_assoc, List.append_nil, List.length_cons, List.length_nil,
    Progress.mk.injEq, true_and]
  omega

/-- Batches are sent up to the first that fails. -/
theorem run_sendBatches (c : PusherConfig) (key : String) (selected : Nat) (done : Progress)
    (batches : List (List Record)) (hquiet : t.Quiet s) :
    (((sendBatches c key selected done batches).run s t).1 = none ∧ ¬ c.retry.Bounded) ∨
      ∃ progress failure t' xs,
        (sendBatches c key selected done batches).run s t = (some (progress, failure), t') ∧
        t.LeadsTo s xs t' ∧
        ((failure = none ∧ progress = done.after c.stem batches ∧ Accepted c s.signal batches xs) ∨
          ∃ accepted failing rest ys zs e, batches = accepted ++ failing :: rest ∧ xs = ys ++ zs ∧
            failure = some e ∧ progress = done.after c.stem accepted ∧
            Accepted c s.signal accepted ys ∧ Sent c s.signal failing zs (.error e)) := by
  induction batches generalizing done t with
  | nil =>
    right
    exact ⟨done, none, t, [], rfl, .refl s t, .inl ⟨rfl, (Progress.after_none _ _).symm, .nil⟩⟩
  | cons batch rest ih =>
    rw [sendBatches]
    rcases run_sendBatch c key batch hquiet with ⟨hoverflow, hc⟩ |
      ⟨result, t', xs, hrun, hsent, hlead⟩
    · exact .inl ⟨Procedure.run_bind_overflow hoverflow _, hc⟩
    rw [Procedure.run_bind hrun]
    cases result with
    | error e =>
      right
      exact ⟨done, some e, t'.counted (·.addPushFailure c.endpoint), xs, rfl, hlead.counted _, .inr
        ⟨[], batch, rest, [], xs, e, rfl, rfl, rfl, (Progress.after_none _ _).symm, .nil, hsent⟩⟩
    | ok n =>
      obtain rfl := hsent.series
      have hlead₁ := hlead.counted (·.setBacklog c.endpoint
        (selected - (done.ids ++ batch.map (·.id)).length).toUInt64)
      have hrest := ih (done.after c.stem [batch]) (hlead₁.quiet hquiet)
      rw [Progress.after_one] at hrest
      dsimp only
      rw [Procedure.run_count]
      rcases hrest with hoverflow | ⟨progress, failure, t'', ys, hrun', hlead', hcourse⟩
      · exact .inl hoverflow
      right
      refine ⟨progress, failure, t'', xs ++ ys, hrun', hlead₁.trans hlead', ?_⟩
      rw [← Progress.after_one] at hcourse
      rcases hcourse with ⟨hfailure, hprogress, haccepted⟩ |
        ⟨accepted, failing, rest', ys', zs, e, rfl, rfl, hfailure, hprogress, haccepted, hfailing⟩
      · exact .inl ⟨hfailure, by rw [hprogress, ← Progress.after_cons], .cons hsent haccepted⟩
      · exact .inr ⟨batch :: accepted, failing, rest', xs ++ ys', zs, e, rfl,
          by rw [List.append_assoc], hfailure, by rw [hprogress, ← Progress.after_cons],
          .cons hsent haccepted, hfailing⟩

end Flush

end ClusterOutbox
