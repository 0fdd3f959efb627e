import ClusterOutbox.Proofs.Delivery.World

namespace ClusterOutbox

namespace Procedure

variable {α β : Type} {allowed : List UInt8 → Prop}

/-- Whatever comes from outside, a procedure neither reads the clock nor selects, and sends only
bodies that are allowed. -/
def Posts (allowed : List UInt8 → Prop) : Procedure α → Prop
  | finish _ | overflow => True
  | readClock _ | select _ => False
  | readKey next => ∀ key, (next key).Posts allowed
  | post _ body next => allowed body ∧ ∀ reply elapsed, (next reply elapsed).Posts allowed
  | isSignalled next => ∀ b, (next b).Posts allowed
  | draw _ next => ∀ n, (next n).Posts allowed
  | pause _ next => ∀ b, (next b).Posts allowed
  | mark _ _ next => ∀ r, (next r).Posts allowed
  | count _ next => next.Posts allowed

theorem Posts.andThen {p : Procedure α} {f : α → Procedure β} (h : p.Posts allowed)
    (hf : ∀ a, (f a).Posts allowed) : (p >>= f).Posts allowed := by
  change (p.andThen f).Posts allowed
  induction p with
  | finish a => exact hf a
  | overflow => trivial
  | readClock next ih => exact h.elim
  | select next ih => exact h.elim
  | readKey next ih => exact fun key => ih key (h key)
  | post key body next ih => exact ⟨h.1, fun reply elapsed => ih reply elapsed (h.2 reply elapsed)⟩
  | isSignalled next ih => exact fun b => ih b (h b)
  | draw limit next ih => exact fun n => ih n (h n)
  | pause delay next ih => exact fun b => ih b (h b)
  | mark ids t next ih => exact fun r => ih r (h r)
  | count change next ih => exact ih h

end Procedure

namespace Flush

variable {c : PusherConfig} {allowed : List UInt8 → Prop}

theorem posts_sendFrom (key : String) {body : List UInt8} (hbody : allowed body)
    (left attempt : Nat) : (sendFrom c key body left attempt).Posts allowed := by
  induction left generalizing attempt with
  | zero =>
    rw [sendFrom]
    refine ⟨hbody, fun reply elapsed => ?_⟩
    cases hreply : reply.error? <;> simp only [hreply] <;> trivial
  | succ left ih =>
    rw [sendFrom]
    refine ⟨hbody, fun reply elapsed => ?_⟩
    cases hreply : reply.error? with
    | none =>
      simp only [hreply]
      trivial
    | some e =>
      simp only [hreply]
      intro signalled
      cases signalled with
      | true => trivial
      | false =>
        intro drawn
        dsimp only
        cases c.retry.backoff (attempt - 1) drawn with
        | none => trivial
        | some delay =>
          intro waited
          cases waited with
          | true => exact ih (attempt + 1)
          | false => trivial

theorem posts_sendBatch (key : String) {batch : List Record}
    (h : ∀ body, body? (seriesOf c.stem batch) = some body → allowed body) :
    (sendBatch c key batch).Posts allowed := by
  unfold sendBatch
  cases hbody : body? (seriesOf c.stem batch) with
  | none =>
    simp only [hbody]
    trivial
  | some body =>
    simp only [hbody]
    refine (posts_sendFrom key (h body hbody) _ 1).andThen ?_
    rintro (e | n) <;> trivial

theorem posts_sendBatches (key : String) (selected : Nat) (done : Progress)
    {batches : List (List Record)}
    (h : ∀ batch ∈ batches, ∀ body, body? (seriesOf c.stem batch) = some body → allowed body) :
    (sendBatches c key selected done batches).Posts allowed := by
  induction batches generalizing done with
  | nil => trivial
  | cons batch rest ih =>
    obtain ⟨hbatch, hrest⟩ := List.forall_mem_cons.mp h
    rw [sendBatches]
    refine (posts_sendBatch key hbatch).andThen ?_
    rintro (e | series)
    · trivial
    · exact ih _ hrest

theorem posts_confirm (start : Instant) (ids : List String) :
    (confirm c start ids).Posts allowed := by
  unfold confirm
  split
  · trivial
  · rintro (e | n) <;> trivial

/-- What a flush does with what it has selected. -/
def deliver (c : PusherConfig) (start : Instant) :
    Except StoreError (List Record) → Procedure (Except PushError Report)
  | .error e => .count (·.addDbFailure c.endpoint) (.finish (.error (.store e)))
  | .ok pending =>
    .count (·.setBacklog c.endpoint pending.length.toUInt64) <|
      if pending = [] then .finish (.ok ⟨0, 0, 0, 0⟩)
      else
        .readKey fun key =>
          if key = "" then
            .count (·.addPushFailure c.endpoint) (.finish (.error .missingKey))
          else do
            let (done, failure) ←
              sendBatches c key pending.length ⟨[], 0, 0⟩ (pack c.maxBytes pending)
            confirm c start done.ids
            match failure with
            | some e => .finish (.error e)
            | none =>
              .finish (.ok ⟨pending.length, done.ids.length, done.batches, done.series⟩)

theorem flush_eq (c : PusherConfig) :
    flush c = .readClock fun start => .select (deliver c start) := rfl

/-- A body that carries one of the batches that records are packed into. -/
def BodyOf (c : PusherConfig) (records : List Record) (body : List UInt8) : Prop :=
  ∃ batch ∈ pack c.maxBytes records, body? (seriesOf c.stem batch) = some body

/-- From its selection on a flush sends what it has selected. -/
theorem posts_deliver (c : PusherConfig) (start : Instant)
    (found : Except StoreError (List Record)) :
    (deliver c start found).Posts (BodyOf c (found.toOption.getD [])) := by
  cases found with
  | error e => trivial
  | ok pending =>
    change Procedure.Posts (BodyOf c pending) (if pending = [] then _ else _)
    split
    · trivial
    · intro key
      dsimp only
      split
      · trivial
      · refine (posts_sendBatches key pending.length ⟨[], 0, 0⟩ ?_).andThen ?_
        · exact fun batch hbatch body hbody => ⟨batch, hbatch, hbody⟩
        · rintro ⟨done, failure⟩
          refine (posts_confirm start done.ids).andThen fun _ => ?_
          cases failure <;> trivial

end Flush

/-- How far a flush under way has come: it is to begin, to select, or to send what it has
selected. -/
inductive Flight.Staged (c : PusherConfig) (f : Flight) : Prop
  | begun : f.rest = Flush.flush c → Staged c f
  | timed (start : Instant) : f.rest = .select (Flush.deliver c start) → Staged c f
  | chosen : f.rest.Posts (Flush.BodyOf c f.journal.selected) → Staged c f

end ClusterOutbox
