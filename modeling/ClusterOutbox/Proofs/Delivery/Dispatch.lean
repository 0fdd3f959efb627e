import ClusterOutbox.Proofs.Delivery.Course
import ClusterOutbox.Proofs.Delivery.Sending

namespace ClusterOutbox

namespace Deed

def selection? : Deed → Option (Except StoreError (List Record))
  | selected found => some found
  | _ => none

def isAttempt : Deed → Bool
  | posted _ _ => true
  | _ => false

/-- The body of a request that is accepted. -/
def accepted? : Deed → Option (List UInt8)
  | posted body reply => if reply.error? = none then some body else none
  | _ => none

/-- A selection or a confirmation that the store refuses. -/
def isStoreFailure : Deed → Bool
  | selected (.error _) => true
  | marked _ _ (.error _) => true
  | _ => false

theorem not_isStoreFailure {d : Deed} (h : d.isAttempt = true) : d.isStoreFailure = false := by
  cases d with
  | posted body reply => rfl
  | selected found => simp [isAttempt] at h
  | marked ids at_ outcome => simp [isAttempt] at h

end Deed

namespace Flush

variable {c : PusherConfig} {a : Account} {done : List Deed} {xs ys : List Deed}

/-- Attempts to send one body, and what they come to. -/
structure Tries (c : PusherConfig) (body : List UInt8) (xs : List Deed)
    (result : Option (Except PushError Nat)) : Prop where
  attempts : ∀ d ∈ xs, d.isAttempt = true
  accepted : xs.filterMap Deed.accepted? = if result matches some (.ok _) then [body] else []
  unbounded : result = none → ¬ c.retry.Bounded

/-- Attempts to send batches, of which some are accepted, each by the series that say it. -/
structure Sends (c : PusherConfig) (batches : List (List Record)) (xs : List Deed) : Prop where
  attempts : ∀ d ∈ xs, d.isAttempt = true
  bodies : (xs.filterMap Deed.accepted?).map read? =
    batches.map fun batch => some (seriesOf c.stem batch)

theorem Sends.none (c : PusherConfig) : Sends c [] [] := ⟨by simp, rfl⟩

theorem Sends.append {accepted accepted' : List (List Record)} (h : Sends c accepted xs)
    (h' : Sends c accepted' ys) : Sends c (accepted ++ accepted') (xs ++ ys) where
  attempts d hd := (List.mem_append.mp hd).elim (h.attempts d) (h'.attempts d)
  bodies := by rw [List.filterMap_append, List.map_append, h.bodies, h'.bodies, List.map_append]

theorem Sends.length_accepted {accepted : List (List Record)} (h : Sends c accepted xs) :
    (xs.filterMap Deed.accepted?).length = accepted.length := by
  have hlength := congrArg List.length h.bodies
  rwa [List.length_map, List.length_map] at hlength

theorem tries_accepted {body : List UInt8} {reply : Reply} (h : reply.error? = none) (n : Nat) :
    Tries c body [.posted body reply] (some (.ok n)) :=
  ⟨by simp [Deed.isAttempt], by simp [Deed.accepted?, h], by simp⟩

theorem tries_refused {body : List UInt8} {reply : Reply} {e e' : PushError}
    (h : reply.error? = some e) : Tries c body [.posted body reply] (some (.error e')) :=
  ⟨by simp [Deed.isAttempt], by simp [Deed.accepted?, h], by simp⟩

theorem tries_broken {body : List UInt8} {reply : Reply} {e : PushError}
    (h : reply.error? = some e) (hc : ¬ c.retry.Bounded) : Tries c body [.posted body reply] none :=
  ⟨by simp [Deed.isAttempt], by simp [Deed.accepted?, h], fun _ => hc⟩

theorem Tries.again {body : List UInt8} {reply : Reply} {e : PushError}
    {result : Option (Except PushError Nat)} (h : Tries c body xs result)
    (hreply : reply.error? = some e) : Tries c body (.posted body reply :: xs) result where
  attempts d hd := (List.mem_cons.mp hd).elim (fun h => h ▸ rfl) (h.attempts d)
  accepted := by
    have hrefused : (Deed.posted body reply).accepted? = .none := by
      simp [Deed.accepted?, hreply]
    rw [List.filterMap_cons_none hrefused, h.accepted]
  unbounded := h.unbounded

theorem meets_sendFrom (key : String) {body : List UInt8} {left attempt : Nat}
    (hpos : 1 ≤ attempt) (hlimit : attempt + left = c.retry.limit)
    {post : List Deed → Option (Except PushError Nat) → Account → Prop}
    (h : ∀ xs result, Tries c body xs result →
      post (done ++ xs) result { a with responses := a.responses + xs.length }) :
    (sendFrom c key body left attempt).Meets c.endpoint post done a := by
  induction left generalizing attempt done a with
  | zero =>
    rw [sendFrom]
    intro reply elapsed
    refine ⟨_, fun m hm => Metrics.tally_observeRequest hm reply.statusText elapsed, ?_⟩
    cases hreply : reply.error? with
    | none => exact h _ _ (tries_accepted hreply attempt)
    | some e => exact h _ _ (tries_refused hreply)
  | succ left ih =>
    rw [sendFrom]
    intro reply elapsed
    refine ⟨_, fun m hm => Metrics.tally_observeRequest hm reply.statusText elapsed, ?_⟩
    cases hreply : reply.error? with
    | none => exact h _ _ (tries_accepted hreply attempt)
    | some e =>
      dsimp only
      intro signalled
      cases signalled with
      | true => exact h _ _ (tries_refused hreply)
      | false =>
        intro drawn hdrawn
        dsimp only
        cases hdelay : c.retry.backoff (attempt - 1) drawn with
        | none =>
          refine h _ _ (tries_broken hreply fun hc => ?_)
          have hsome := hc (attempt - 1) drawn (by omega) hdrawn
          rw [hdelay] at hsome
          exact Bool.false_ne_true hsome
        | some delay =>
          intro waited
          cases waited with
          | false => exact h _ _ (tries_refused hreply)
          | true =>
            refine ih (by omega) (by omega) fun xs result hxs => ?_
            have hpost := h _ _ (hxs.again hreply)
            rwa [List.length_cons, Nat.add_comm xs.length, ← Nat.add_assoc, List.append_cons]
              at hpost

theorem meets_sendBatch (key : String) {batch : List Record}
    {post : List Deed → Option (Except PushError Nat) → Account → Prop}
    (hsent : ∀ xs, Sends c [batch] xs →
      post (done ++ xs) (some (.ok (seriesOf c.stem batch).length))
        { a with
          series := a.series + (seriesOf c.stem batch).length
          responses := a.responses + xs.length })
    (hfailed : ∀ xs e, Sends c [] xs →
      post (done ++ xs) (some (.error e)) { a with responses := a.responses + xs.length })
    (hbroken : ∀ xs, Sends c [] xs → ¬ c.retry.Bounded →
      post (done ++ xs) none { a with responses := a.responses + xs.length }) :
    (sendBatch c key batch).Meets c.endpoint post done a := by
  unfold sendBatch
  cases hbody : body? (seriesOf c.stem batch) with
  | none =>
    simp only [hbody]
    have hpost := hfailed [] .compress (.none c)
    rwa [List.append_nil] at hpost
  | some body =>
    simp only [hbody]
    refine Procedure.Meets.andThen (meets_sendFrom key (Nat.le_refl 1) ?_ ?_)
    · simp only [RetryPolicy.limit]
      omega
    intro xs result hxs
    have hbodies := congrArg (List.map read?) hxs.accepted
    rcases result with - | e | n
    · exact hbroken xs ⟨hxs.attempts, hbodies⟩ (hxs.unbounded rfl)
    · exact hfailed xs e ⟨hxs.attempts, hbodies⟩
    · refine ⟨_, fun m hm => Metrics.tally_observeBatch hm _ _, hsent xs ⟨hxs.attempts, ?_⟩⟩
      rw [hbodies]
      exact congrArg (· :: []) (read?_body? hbody)

/-- How the sending of batches ends after some of them, and how many have failed: all are sent, one
fails, or it breaks off. -/
inductive Halts (c : PusherConfig) (before : Progress) (accepted rest : List (List Record)) :
    Option (Progress × Option PushError) → Nat → Prop
  | sent : rest = [] → Halts c before accepted rest (some (before.after c.stem accepted, none)) 0
  | failed (e : PushError) :
    Halts c before accepted rest (some (before.after c.stem accepted, some e)) 1
  | broken : ¬ c.retry.Bounded → Halts c before accepted rest none 0

theorem Halts.cons {before : Progress} {batch : List Record} {accepted rest : List (List Record)}
    {result : Option (Progress × Option PushError)} {failures : Nat}
    (h : Halts c (before.after c.stem [batch]) accepted rest result failures) :
    Halts c before (batch :: accepted) rest result failures := by
  cases h with
  | sent hrest =>
    rw [← Progress.after_cons]
    exact .sent hrest
  | failed e =>
    rw [← Progress.after_cons]
    exact .failed e
  | broken hc => exact .broken hc

/-- What an account comes to by attempts to send batches. -/
def sentAccount (c : PusherConfig) (a : Account) (left : Nat) (accepted : List (List Record))
    (attempts failures : Nat) : Account :=
  { a with
    series := a.series + (seriesOf c.stem accepted.flatten).length
    responses := a.responses + attempts
    pushFailures := a.pushFailures + failures
    backlog := some left }

theorem sentAccount_none (c : PusherConfig) {left : Nat} (h : a.backlog = some left)
    (attempts failures : Nat) :
    sentAccount c a left [] attempts failures =
      { a with
        responses := a.responses + attempts
        pushFailures := a.pushFailures + failures } := by
  rw [sentAccount, ← h]
  rfl

theorem sentAccount_cons (c : PusherConfig) (a : Account) (left left' : Nat) (batch : List Record)
    (accepted : List (List Record)) (attempts attempts' failures : Nat) :
    sentAccount c (sentAccount c a left [batch] attempts 0) left' accepted attempts' failures =
      sentAccount c a left' (batch :: accepted) (attempts + attempts') failures := by
  simp [sentAccount, seriesOf_append, Nat.add_assoc]

theorem meets_sendBatches (key : String) (selected : Nat) {before : Progress}
    {batches : List (List Record)} (hbacklog : a.backlog = some (selected - before.ids.length))
    {post : List Deed → Option (Progress × Option PushError) → Account → Prop}
    (h : ∀ xs accepted rest result failures, batches = accepted ++ rest → Sends c accepted xs →
      Halts c before accepted rest result failures →
      post (done ++ xs) result (sentAccount c a
        (selected - (before.after c.stem accepted).ids.length) accepted xs.length failures)) :
    (sendBatches c key selected before batches).Meets c.endpoint post done a := by
  induction batches generalizing before done a with
  | nil =>
    have hpost := h [] [] [] _ 0 rfl (.none c) (.sent rfl)
    rwa [Progress.after_none, sentAccount_none c hbacklog, List.append_nil] at hpost
  | cons batch batches ih =>
    rw [sendBatches]
    refine Procedure.Meets.andThen (meets_sendBatch key ?_ ?_ ?_)
    · intro xs hxs
      have hafter := Progress.after_one c.stem before batch
      refine ⟨sentAccount c a (selected - (before.after c.stem [batch]).ids.length) [batch]
        xs.length 0, ?_, ?_⟩
      · intro m hm
        rw [hafter]
        simpa [sentAccount] using Metrics.tally_setBacklog hm _
      rw [← hafter]
      refine ih rfl ?_
      intro ys accepted rest result failures hbatches hys hhalts
      have hpost := h (xs ++ ys) (batch :: accepted) rest result failures
        (by rw [hbatches, List.cons_append]) (hxs.append hys) hhalts.cons
      rwa [Progress.after_cons, List.length_append, ← List.append_assoc, ← sentAccount_cons]
        at hpost
    · intro xs e hxs
      refine ⟨_, fun m hm => Metrics.tally_addPushFailure hm, ?_⟩
      have hpost := h xs [] (batch :: batches) _ 1 rfl hxs (.failed e)
      rwa [Progress.after_none, sentAccount_none c hbacklog] at hpost
    · intro xs hxs hc
      have hpost := h xs [] (batch :: batches) none 0 rfl hxs (.broken hc)
      rwa [Progress.after_none, sentAccount_none c hbacklog] at hpost

theorem meets_confirm (start : Instant) (ids : List String)
    {post : List Deed → Option Unit → Account → Prop}
    (h : ∀ ms, (∀ d ∈ ms, ∃ outcome, d = .marked ids start outcome) →
      post (done ++ ms) (some ())
        { a with
          processed := a.processed + ids.length
          dbFailures := a.dbFailures + ms.countP Deed.isStoreFailure }) :
    (confirm c start ids).Meets c.endpoint post done a := by
  unfold confirm
  split
  next hids =>
    have hpost := h [] (by simp)
    rwa [hids, List.append_nil] at hpost
  next =>
    refine ⟨_, fun m hm => Metrics.tally_addProcessed hm ids.length, ?_⟩
    intro outcome
    have hpost := h [.marked ids start outcome] (by simp)
    cases outcome with
    | ok n => exact hpost
    | error e => exact ⟨_, fun m hm => Metrics.tally_addDbFailure hm, hpost⟩

end Flush

end ClusterOutbox
