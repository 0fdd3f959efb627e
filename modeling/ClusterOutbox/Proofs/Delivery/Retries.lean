import ClusterOutbox.Proofs.Delivery.Log
import ClusterOutbox.Proofs.Delivery.Tally
import Mathlib.Data.List.Basic

namespace ClusterOutbox

theorem Duration.nanos_of_ofNanos? {n : Nat} {d : Duration} (h : Duration.ofNanos? n = some d) :
    d.nanos = n := by
  unfold Duration.ofNanos? at h
  split at h
  · exact congrArg Duration.nanos (Option.some.inj h).symm
  · cases h

namespace RetryPolicy

variable {p : RetryPolicy}

/-- The nanoseconds after an attempt, counted from one, before chance adds to them. -/
def leastDelay (p : RetryPolicy) (attempt : Nat) : Nat :=
  min (p.base.nanos * Nat.pow 2 (min (attempt - 1) 16)) Duration.longest.nanos

/-- Whether a delay may follow an attempt. -/
def IsDelay (p : RetryPolicy) (attempt : Nat) (delay : Duration) : Prop :=
  p.leastDelay attempt ≤ delay.nanos ∧ delay.nanos ≤ p.leastDelay attempt + p.maxJitter.nanos

/-- What is drawn is added to the least delay, where the sum is a duration. -/
theorem backoff_eq {attempt drawn : Nat} (hdrawn : drawn ≤ p.jitterLimit) :
    p.backoff attempt drawn = Duration.ofNanos? (p.leastDelay (attempt + 1) + drawn) := by
  have hword : drawn ≤ 18446744073709551615 := Nat.le_trans hdrawn (Nat.min_le_right _ _)
  have hofNanos : Duration.ofNanos? drawn = some ⟨drawn, by omega⟩ := dif_pos _
  have hscaled : (p.base.saturatingMul (1 <<< min attempt 16)).nanos =
      p.leastDelay (attempt + 1) := by
    rw [Duration.saturatingMul_nanos, Nat.one_shiftLeft]
    rfl
  rw [backoff, hofNanos, Option.bind_some, Duration.add?, hscaled]

theorem isDelay_of_backoff {attempt drawn : Nat} {delay : Duration}
    (h : p.backoff (attempt - 1) drawn = some delay) (hdrawn : drawn ≤ p.jitterLimit) :
    p.IsDelay attempt delay := by
  have hjitter : drawn ≤ p.maxJitter.nanos := Nat.le_trans hdrawn (Nat.min_le_left _ _)
  rw [backoff_eq hdrawn] at h
  have hsum : delay.nanos = p.leastDelay attempt + drawn := Duration.nanos_of_ofNanos? h
  unfold IsDelay
  omega

end RetryPolicy

theorem Reply.isTransient_of_error? {reply : Reply} {e : PushError} (h : reply.error? = some e) :
    e.isTransient = true := by
  cases reply with
  | status code =>
    simp only [error?] at h
    split at h
    · cases h
    · obtain rfl := Option.some.inj h
      rfl
  | timedOut | unreachable =>
    obtain rfl := Option.some.inj h
    rfl

/-- The key under which a reply is counted. -/
def Occurrence.counter? (endpoint : String) : Occurrence → Option (List String)
  | posted _ reply => some [endpoint, reply.statusText]
  | waited _ _ => none

/-- The reply to the next request after a trace. -/
def Surroundings.answer (s : Surroundings) (t : Trace) : Reply := (s.reply t.posts.length).1

namespace Flush

variable {c : PusherConfig} {s : Surroundings} {body : List UInt8}

/-- The attempts to send a body from one of a given number on, where `left` more may follow: what
happens from one trace to another, and the result. -/
inductive Attempts (c : PusherConfig) (s : Surroundings) (body : List UInt8) :
    Nat → Nat → Trace → List Occurrence → Except PushError Nat → Trace → Prop
  | accepted {left attempt : Nat} {t : Trace} :
    (s.answer t).error? = none →
    Attempts c s body left attempt t [.posted body (s.answer t)] (.ok attempt) (t.replied c s body)
  | exhausted {left attempt : Nat} {t : Trace} {e : PushError} :
    (s.answer t).error? = some e → left = 0 ∨ t.signalled = true →
    Attempts c s body left attempt t [.posted body (s.answer t)]
      (.error (.retriesExhausted attempt e)) (t.replied c s body)
  | cancelled {left attempt : Nat} {t : Trace} {e : PushError} {delay : Duration} :
    (s.answer t).error? = some e → t.signalled = false → c.retry.IsDelay attempt delay →
    s.cuts (t.replied c s body) delay = true →
    Attempts c s body (left + 1) attempt t [.posted body (s.answer t), .waited delay true]
      (.error .cancelled) ((t.replied c s body).paused delay true)
  | again {left attempt : Nat} {t t' : Trace} {e : PushError} {delay : Duration}
      {os : List Occurrence} {result : Except PushError Nat} :
    (s.answer t).error? = some e → t.signalled = false → c.retry.IsDelay attempt delay →
    s.cuts (t.replied c s body) delay = false →
    Attempts c s body left (attempt + 1) ((t.replied c s body).paused delay false) os result t' →
    Attempts c s body (left + 1) attempt t
      (.posted body (s.answer t) :: .waited delay false :: os) result t'

section

variable {left attempt : Nat} {t : Trace} {e : PushError} {delay : Duration}

theorem log_sendFrom_accepted (key : String) (h : (s.answer t).error? = none) :
    (sendFrom c key body left attempt).log s t = [.posted body (s.answer t)] := by
  have hreply : (s.reply t.posts.length).1.error? = none := h
  rw [sendFrom]
  simp only [Procedure.log, hreply]
  rfl

theorem log_sendFrom_refused (key : String) (h : (s.answer t).error? = some e)
    (hlast : left = 0 ∨ t.signalled = true) :
    (sendFrom c key body left attempt).log s t = [.posted body (s.answer t)] := by
  have hreply : (s.reply t.posts.length).1.error? = some e := h
  rw [sendFrom]
  simp only [Procedure.log, hreply]
  cases left with
  | zero => rfl
  | succ left =>
    have hsignalled : t.signalled = true := hlast.resolve_left (by simp)
    simp only [Procedure.log]
    change _ :: (if t.signalled then _ else _ : Procedure (Except PushError Nat)).log s _ = _
    rw [if_pos hsignalled]
    rfl

theorem run_sendFrom_delayed (key : String) (body : List UInt8) (left attempt : Nat) (h : (s.answer t).error? = some e)
    (hsignalled : t.signalled = false)
    (hdelay : c.retry.backoff (attempt - 1) (min c.retry.jitterLimit (s.drawn t.pauses.length)) =
      some delay) :
    (sendFrom c key body (left + 1) attempt).run s t =
      (if !s.cuts (t.replied c s body) delay then sendFrom c key body left (attempt + 1)
        else .finish (.error .cancelled) : Procedure (Except PushError Nat)).run s
        ((t.replied c s body).paused delay (s.cuts (t.replied c s body) delay)) := by
  rw [run_sendFrom_again key body left attempt h hsignalled, hdelay]
  rfl

theorem log_sendFrom_delayed (key : String) (body : List UInt8) (left attempt : Nat) (h : (s.answer t).error? = some e)
    (hsignalled : t.signalled = false)
    (hdelay : c.retry.backoff (attempt - 1) (min c.retry.jitterLimit (s.drawn t.pauses.length)) =
      some delay) :
    (sendFrom c key body (left + 1) attempt).log s t =
      .posted body (s.answer t) :: .waited delay (s.cuts (t.replied c s body) delay) ::
        (if !s.cuts (t.replied c s body) delay then sendFrom c key body left (attempt + 1)
          else .finish (.error .cancelled) : Procedure (Except PushError Nat)).log s
          ((t.replied c s body).paused delay (s.cuts (t.replied c s body) delay)) := by
  have hreply : (s.reply t.posts.length).1.error? = some e := h
  rw [sendFrom]
  simp only [Procedure.log, hreply]
  change _ :: (if t.signalled then _ else _ : Procedure (Except PushError Nat)).log s
    (t.replied c s body) = _
  have hdrawn : c.retry.backoff (attempt - 1) (min c.retry.jitterLimit
      (s.drawn (t.replied c s body).pauses.length)) = some delay := hdelay
  rw [if_neg (by simp [hsignalled]), Procedure.log, hdrawn]
  rfl

end

/-- Attempts are made as told, unless a delay is no duration. -/
theorem attempts_sendFrom (key : String) {left attempt : Nat} {t : Trace} (hpos : 1 ≤ attempt)
    (hlimit : attempt + left ≤ c.retry.limit) :
    (((sendFrom c key body left attempt).run s t).1 = none ∧
        ((sendFrom c key body left attempt).run s t).2.signalled = false ∧ ¬ c.retry.Bounded) ∨
      ∃ os result t', Attempts c s body left attempt t os result t' ∧
        (sendFrom c key body left attempt).run s t = (some result, t') ∧
        (sendFrom c key body left attempt).log s t = os := by
  induction left generalizing attempt t with
  | zero =>
    right
    cases hanswer : (s.answer t).error? with
    | none =>
      exact ⟨_, _, _, .accepted hanswer, run_sendFrom_accepted hanswer,
        log_sendFrom_accepted key hanswer⟩
    | some e =>
      exact ⟨_, _, _, .exhausted hanswer (.inl rfl), run_sendFrom_refused hanswer (.inl rfl),
        log_sendFrom_refused key hanswer (.inl rfl)⟩
  | succ left ih =>
    cases hanswer : (s.answer t).error? with
    | none =>
      right
      exact ⟨_, _, _, .accepted hanswer, run_sendFrom_accepted hanswer,
        log_sendFrom_accepted key hanswer⟩
    | some e =>
      cases hsignalled : t.signalled with
      | true =>
        right
        exact ⟨_, _, _, .exhausted hanswer (.inr hsignalled),
          run_sendFrom_refused hanswer (.inr hsignalled),
          log_sendFrom_refused key hanswer (.inr hsignalled)⟩
      | false =>
        cases hdelay : c.retry.backoff (attempt - 1)
            (min c.retry.jitterLimit (s.drawn t.pauses.length)) with
        | none =>
          left
          rw [run_sendFrom_again key body left attempt hanswer hsignalled, hdelay]
          refine ⟨rfl, hsignalled, fun hc => ?_⟩
          have hsome := hc (attempt - 1) (min c.retry.jitterLimit (s.drawn t.pauses.length))
            (by omega) (Nat.min_le_left _ _)
          rw [hdelay] at hsome
          exact Bool.false_ne_true hsome
        | some delay =>
          have hrun := run_sendFrom_delayed key body left attempt hanswer hsignalled hdelay
          have hlog := log_sendFrom_delayed key body left attempt hanswer hsignalled hdelay
          have hisDelay := RetryPolicy.isDelay_of_backoff hdelay (Nat.min_le_left _ _)
          cases hcut : s.cuts (t.replied c s body) delay with
          | true =>
            right
            rw [hcut] at hrun hlog
            exact ⟨_, _, _, .cancelled hanswer hsignalled hisDelay hcut, hrun, hlog⟩
          | false =>
            rw [hcut, Bool.not_false, if_pos rfl] at hrun hlog
            rw [hrun, hlog]
            rcases @ih (attempt + 1) ((t.replied c s body).paused delay false) (by omega)
              (by omega) with hoverflow | ⟨os, result, t', hattempts, hrest, hrestLog⟩
            · exact .inl hoverflow
            · right
              rw [hrestLog]
              exact ⟨_, _, _, .again hanswer hsignalled hisDelay hcut hattempts, hrest, rfl⟩

theorem attempts_send (c : PusherConfig) (s : Surroundings) (key : String) (body : List UInt8)
    (t : Trace) :
    (((send c key body).run s t).1 = none ∧ ((send c key body).run s t).2.signalled = false ∧
        ¬ c.retry.Bounded) ∨
      ∃ os result t', Attempts c s body (c.retry.limit - 1) 1 t os result t' ∧
        (send c key body).run s t = (some result, t') ∧ (send c key body).log s t = os := by
  have hlimit : 1 + (c.retry.limit - 1) ≤ c.retry.limit := by
    unfold RetryPolicy.limit
    omega
  exact attempts_sendFrom key (Nat.le_refl 1) hlimit

/-- Requests with one body from a given attempt on, one delay between each two of them. -/
inductive Spaced (p : RetryPolicy) (body : List UInt8) : Nat → List Occurrence → Prop
  | last {attempt : Nat} {reply : Reply} : Spaced p body attempt [.posted body reply]
  | next {attempt : Nat} {reply : Reply} {delay : Duration} {os : List Occurrence} :
    p.IsDelay attempt delay → Spaced p body (attempt + 1) os →
    Spaced p body attempt (.posted body reply :: .waited delay false :: os)

namespace Attempts

variable {left attempt : Nat} {t t' : Trace} {os : List Occurrence} {result : Except PushError Nat}

theorem cuts_replied (hsignal : s.signal = .never) (hquiet : t.signalled = false)
    (delay : Duration) : s.cuts (t.replied c s body) delay = false := by
  have hreplied : (t.replied c s body).signalled = false := hquiet
  simp [Surroundings.cuts, hsignal, hreplied]

theorem spaced (h : Attempts c s body left attempt t os result t') (hsignal : s.signal = .never)
    (hquiet : t.signalled = false) : Spaced c.retry body attempt os := by
  induction h with
  | accepted _ => exact .last
  | exhausted _ _ => exact .last
  | cancelled _ _ _ hcut =>
    rw [cuts_replied hsignal hquiet] at hcut
    cases hcut
  | again _ _ hdelay _ _ ih => exact .next hdelay (ih rfl)

theorem reply_again (c : PusherConfig) (s : Surroundings) (body : List UInt8) (t : Trace)
    (delay : Duration) (k : Nat) :
    s.reply (((t.replied c s body).paused delay false).posts.length + k) =
      s.reply (t.posts.length + (k + 1)) := by
  refine congrArg s.reply ?_
  change t.posts.length + 1 + k = _
  omega

theorem posts_again (c : PusherConfig) (s : Surroundings) (body : List UInt8) (t : Trace)
    (delay : Duration) (n : Nat) :
    List.replicate n body ++ ((t.replied c s body).paused delay false).posts =
      List.replicate (n + 1) body ++ t.posts := by
  rw [List.replicate_succ', List.append_assoc]
  rfl

theorem of_accepted (h : Attempts c s body left attempt t os result t')
    (hsignal : s.signal = .never) (hquiet : t.signalled = false) {n : Nat} (hn : n ≤ left)
    (hbefore : ∀ k < n, (s.reply (t.posts.length + k)).1.error? ≠ none)
    (hlast : (s.reply (t.posts.length + n)).1.error? = none) :
    result = .ok (attempt + n) ∧ t'.posts = List.replicate (n + 1) body ++ t.posts := by
  induction h generalizing n with
  | accepted hanswer =>
    cases n with
    | zero => exact ⟨rfl, rfl⟩
    | succ n => exact absurd hanswer (hbefore 0 (by omega))
  | exhausted hanswer hend =>
    rcases hend with rfl | hsignalled
    · obtain rfl : n = 0 := by omega
      cases hanswer.symm.trans hlast
    · cases hsignalled.symm.trans hquiet
  | cancelled _ _ _ hcut =>
    rw [cuts_replied hsignal hquiet] at hcut
    cases hcut
  | @again left attempt t t' e delay os result hanswer _ _ _ _ ih =>
    cases n with
    | zero => cases hanswer.symm.trans hlast
    | succ n =>
      simp only [reply_again, posts_again] at ih
      obtain ⟨hresult, hposts⟩ := ih rfl (by omega) (fun k hk => hbefore (k + 1) (by omega)) hlast
      exact ⟨by rw [hresult, Nat.add_assoc, Nat.add_comm 1], hposts⟩

theorem of_refused (h : Attempts c s body left attempt t os result t')
    (hsignal : s.signal = .never) (hquiet : t.signalled = false)
    (hall : ∀ k ≤ left, (s.reply (t.posts.length + k)).1.error? ≠ none) :
    ∃ e, (s.reply (t.posts.length + left)).1.error? = some e ∧
      result = .error (.retriesExhausted (attempt + left) e) ∧
      t'.posts = List.replicate (left + 1) body ++ t.posts := by
  induction h with
  | accepted hanswer => exact absurd hanswer (hall 0 (by omega))
  | @exhausted left attempt t e hanswer hend =>
    rcases hend with rfl | hsignalled
    · exact ⟨e, hanswer, rfl, rfl⟩
    · cases hsignalled.symm.trans hquiet
  | cancelled _ _ _ hcut =>
    rw [cuts_replied hsignal hquiet] at hcut
    cases hcut
  | @again left attempt t t' e delay os result _ _ _ _ _ ih =>
    simp only [reply_again, posts_again] at ih
    obtain ⟨last, hlast, hresult, hposts⟩ := ih rfl (fun k hk => hall (k + 1) (by omega))
    exact ⟨last, hlast, by rw [hresult, Nat.add_assoc, Nat.add_comm 1], hposts⟩

theorem countOf_replied (c : PusherConfig) (s : Surroundings) (body : List UInt8) (t : Trace)
    (key : List String) :
    Metrics.countOf (t.replied c s body).store.metrics.responses key =
      Metrics.countOf t.store.metrics.responses key +
        .ofNat (if [c.endpoint, (s.answer t).statusText] = key then 1 else 0) := by
  change Metrics.countOf (Metrics.addTo t.store.metrics.responses
    [c.endpoint, (s.answer t).statusText] 1) key = _
  by_cases hkey : key = [c.endpoint, (s.answer t).statusText]
  · rw [if_pos hkey.symm, hkey, Metrics.countOf_addTo]
    rfl
  · rw [if_neg (Ne.symm hkey), Metrics.countOf_addTo_of_ne hkey]
    exact (UInt64.add_zero _).symm

theorem counts (h : Attempts c s body left attempt t os result t') (key : List String) :
    Metrics.countOf t'.store.metrics.responses key =
      Metrics.countOf t.store.metrics.responses key +
        .ofNat (os.countP fun o => o.counter? c.endpoint = some key) := by
  have hpaused (t : Trace) (delay : Duration) (cut : Bool) :
      (t.paused delay cut).store = t.store := rfl
  induction h with
  | accepted | exhausted | cancelled =>
    simpa [Occurrence.counter?, List.countP_cons, hpaused] using countOf_replied c s body _ key
  | @again left attempt t t' e delay os result _ _ _ _ _ ih =>
    rw [ih, hpaused, countOf_replied]
    simp only [Occurrence.counter?, List.countP_cons, Option.some.injEq, decide_eq_true_eq,
      reduceCtorEq, if_false, Nat.add_zero, UInt64.ofNat_add]
    ac_rfl

end Attempts

/-- Sends a body as `send` does, with the attempts made in a word of 32 bits; it breaks off where one
more attempt does not fit the word, or when it runs out of rounds. -/
def sendCounting (c : PusherConfig) (key : String) (body : List UInt8) :
    Nat → UInt32 → Procedure (Except PushError Nat)
  | 0, _ => .overflow
  | rounds + 1, made =>
    if made = 4294967295 then .overflow
    else
      let attempt := made + 1
      .post key body fun reply elapsed =>
        .count (·.observeRequest c.endpoint reply.statusText elapsed) <|
          match reply.error? with
          | none => .finish (.ok attempt.toNat)
          | some e =>
            if max c.retry.attempts 1 ≤ attempt then
              .finish (.error (.retriesExhausted attempt.toNat e))
            else
              .isSignalled fun signalled =>
                if signalled then .finish (.error (.retriesExhausted attempt.toNat e))
                else
                  .draw c.retry.jitterLimit fun drawn =>
                    match c.retry.backoff (attempt - 1).toNat drawn with
                    | none => .overflow
                    | some delay =>
                      .pause delay fun waited =>
                        if waited then sendCounting c key body rounds attempt
                        else .finish (.error .cancelled)

theorem toNat_max_one (n : UInt32) : (max n 1).toNat = max 1 n.toNat := by
  change (if n ≤ 1 then 1 else n).toNat = _
  split
  next h =>
    have hle : n.toNat ≤ 1 := UInt32.le_iff_toNat_le.mp h
    rw [Nat.max_eq_left hle]
    rfl
  next h =>
    have hlt : ¬ n.toNat ≤ 1 := fun hle => h (UInt32.le_iff_toNat_le.mpr hle)
    omega

/-- The words of an attempt that may be made: the one before it is not the last of all, and it is the
last that may be made where no other may follow. -/
theorem last_word {left : Nat} {made : UInt32} (h : made.toNat + 1 + left = c.retry.limit) :
    made ≠ 4294967295 ∧ (made + 1).toNat = made.toNat + 1 ∧
      (max c.retry.attempts 1 ≤ made + 1 ↔ left = 0) := by
  have hlimit : c.retry.limit = max 1 c.retry.attempts.toNat := rfl
  have hword := c.retry.attempts.toNat_lt
  have hattempt : (made + 1).toNat = made.toNat + 1 := by
    rw [UInt32.toNat_add]
    exact Nat.mod_eq_of_lt (show made.toNat + 1 < 4294967296 by omega)
  refine ⟨?_, hattempt, ?_⟩
  · rintro rfl
    have hmade : (4294967295 : UInt32).toNat = 4294967295 := rfl
    omega
  · rw [UInt32.le_iff_toNat_le, toNat_max_one, hattempt]
    omega

theorem sendCounting_eq (key : String) {left rounds : Nat} {made : UInt32}
    (hlimit : made.toNat + 1 + left = c.retry.limit) (hrounds : left < rounds) :
    sendCounting c key body rounds made = sendFrom c key body left (made.toNat + 1) := by
  induction left generalizing rounds made with
  | zero =>
    obtain ⟨rounds, rfl⟩ := Nat.exists_eq_succ_of_ne_zero (Nat.ne_of_gt hrounds)
    obtain ⟨hne, hattempt, hlast⟩ := last_word hlimit
    rw [sendCounting, if_neg hne, sendFrom]
    refine congrArg (Procedure.post key body) (funext₂ fun reply elapsed => congrArg _ ?_)
    cases reply.error? with
    | none =>
      rewrite [hattempt]
      rfl
    | some e =>
      dsimp only
      rewrite [if_pos (hlast.mpr rfl), hattempt]
      rfl
  | succ left ih =>
    obtain ⟨rounds, rfl⟩ := Nat.exists_eq_succ_of_ne_zero (Nat.ne_of_gt (Nat.zero_lt_of_lt hrounds))
    obtain ⟨hne, hattempt, hlast⟩ := last_word hlimit
    have hmore : ¬ max c.retry.attempts 1 ≤ made + 1 := fun h => absurd (hlast.mp h) (by omega)
    have hrest := @ih rounds (made + 1) (by omega) (by omega)
    rw [sendCounting, if_neg hne, sendFrom]
    refine congrArg (Procedure.post key body) (funext₂ fun reply elapsed => congrArg _ ?_)
    cases reply.error? with
    | none =>
      rewrite [hattempt]
      rfl
    | some e =>
      dsimp only
      rewrite [if_neg hmore, hrest, UInt32.add_sub_cancel, hattempt]
      rfl

/-- What the sending of a body comes to, where no shutdown is signalled: which attempt decides it, and
the log, whose bodies and delays are those of the run and whose replies are those of the script. -/
structure Retried (c : PusherConfig) (s : Surroundings) (body : List UInt8) (t : Trace)
    (outcome : Option (Except PushError Nat) × Trace) (os : List Occurrence) : Prop where
  accepted : ∀ n < c.retry.limit,
    (∀ k < n, (s.reply (t.posts.length + k)).1.error? ≠ none) →
    (s.reply (t.posts.length + n)).1.error? = none →
    outcome.1 = some (.ok (n + 1)) ∧ outcome.2.posts = List.replicate (n + 1) body ++ t.posts
  exhausted : (∀ k < c.retry.limit, (s.reply (t.posts.length + k)).1.error? ≠ none) →
    ∃ last, (s.reply (t.posts.length + (c.retry.limit - 1))).1.error? = some last ∧
      last.isTransient = true ∧
      outcome.1 = some (.error (.retriesExhausted c.retry.limit last)) ∧
      outcome.2.posts = List.replicate c.retry.limit body ++ t.posts
  spaced : Spaced c.retry body 1 os
  posts : outcome.2.posts = (os.filterMap Occurrence.body?).reverse ++ t.posts
  replies : os.filterMap Occurrence.reply? =
    (List.range' t.posts.length (os.filterMap Occurrence.body?).length).map fun n => (s.reply n).1
  pauses : outcome.2.pauses = (os.filterMap Occurrence.delay?).reverse ++ t.pauses
  counts : ∀ key, Metrics.countOf outcome.2.store.metrics.responses key =
    Metrics.countOf t.store.metrics.responses key +
      .ofNat (os.countP fun o => o.counter? c.endpoint = some key)

/-- Without a shutdown a body is tried up to the first acceptance or the last attempt, with a delay
before each further attempt; no count of the attempts outgrows its word. -/
theorem send_retries (c : PusherConfig) (s : Surroundings) (t : Trace) (key : String)
    (body : List UInt8)
    (hpolicy : c.retry.base.nanos * 65536 + c.retry.maxJitter.nanos ≤ Duration.longest.nanos)
    (hsignal : s.signal = .never) (hquiet : t.signalled = false) :
    Retried c s body t ((send c key body).run s t) ((send c key body).log s t) ∧
      ∀ rounds, c.retry.limit ≤ rounds → sendCounting c key body rounds 0 = send c key body := by
  have hlimit : 1 + (c.retry.limit - 1) = c.retry.limit := by
    unfold RetryPolicy.limit
    omega
  constructor
  · obtain ⟨hposts, hpauses⟩ := Procedure.run_log s (send c key body) t
    rcases attempts_send c s key body t with ⟨-, -, hc⟩ | ⟨os, result, t', hattempts, hrun, hlog⟩
    · exact absurd (RetryPolicy.bounded_of_le hpolicy) hc
    have hreplies := Procedure.log_replies s (send c key body) t
    rw [hrun, hlog] at hposts hpauses ⊢
    rw [hlog] at hreplies
    refine ⟨?_, ?_, hattempts.spaced hsignal hquiet, hposts, hreplies, hpauses, hattempts.counts⟩
    · intro n hn hbefore hlast
      obtain ⟨rfl, hsame⟩ := hattempts.of_accepted hsignal hquiet (by omega) hbefore hlast
      rw [Nat.add_comm n 1] at hsame ⊢
      exact ⟨rfl, hsame⟩
    · intro hall
      obtain ⟨last, hlast, rfl, hsame⟩ := hattempts.of_refused hsignal hquiet
        (fun k hk => hall k (by omega))
      rw [Nat.add_comm, hlimit] at hsame
      refine ⟨last, hlast, Reply.isTransient_of_error? hlast, ?_, hsame⟩
      rw [hlimit]
  · intro rounds hrounds
    have hnone : (0 : UInt32).toNat = 0 := rfl
    have hwords : (0 : UInt32).toNat + 1 + (c.retry.limit - 1) = c.retry.limit := by
      rw [hnone]
      omega
    have hrounds' : c.retry.limit - 1 < rounds := by omega
    exact sendCounting_eq key hwords hrounds'

/-- The first request is not answered in time, and the next one is accepted. -/
def slowOnce : Surroundings where
  now := .epoch
  key := "key"
  reply n := (if n = 0 then .timedOut else .status 204, .zero)
  drawn _ := 7
  signal := .never

theorem send_retries_slowOnce :
    Retried (.standard "endpoint") slowOnce [1, 2] ⟨.fresh, [], [], false⟩
        ((send (.standard "endpoint") "key" [1, 2]).run slowOnce ⟨.fresh, [], [], false⟩)
        ((send (.standard "endpoint") "key" [1, 2]).log slowOnce ⟨.fresh, [], [], false⟩) ∧
      ((send (.standard "endpoint") "key" [1, 2]).run slowOnce ⟨.fresh, [], [], false⟩).1 =
        some (.ok 2) ∧
      (send (.standard "endpoint") "key" [1, 2]).log slowOnce ⟨.fresh, [], [], false⟩ =
        [.posted [1, 2] .timedOut, .waited ⟨1000000007, by decide⟩ false,
          .posted [1, 2] (.status 204)] :=
  ⟨(send_retries (.standard "endpoint") slowOnce ⟨.fresh, [], [], false⟩ "key" [1, 2] (by decide)
    rfl rfl).1, by decide +kernel, by decide +kernel⟩

end Flush

end ClusterOutbox
