import ClusterOutbox.Delivery.Run

namespace ClusterOutbox

namespace RetryPolicy

/-- The most attempts that are made. -/
def limit (p : RetryPolicy) : Nat := max 1 p.attempts.toNat

/-- No delay between two attempts outlasts the longest duration. -/
def Bounded (p : RetryPolicy) : Prop :=
  ∀ attempt drawn, attempt + 1 < p.limit → drawn ≤ p.jitterLimit →
    (p.backoff attempt drawn).isSome

theorem bounded_of_le {p : RetryPolicy}
    (h : p.base.nanos * 65536 + p.maxJitter.nanos ≤ Duration.longest.nanos) : p.Bounded := by
  intro attempt drawn _ hdrawn
  have hjitter : drawn ≤ p.maxJitter.nanos := Nat.le_trans hdrawn (Nat.min_le_left _ _)
  have hshift : 1 <<< min attempt 16 ≤ 65536 := by
    rw [Nat.one_shiftLeft]
    exact Nat.pow_le_pow_right (by decide) (Nat.min_le_right _ _)
  have hscaled : (p.base.saturatingMul (1 <<< min attempt 16)).nanos ≤ p.base.nanos * 65536 := by
    rw [Duration.saturatingMul_nanos]
    exact Nat.le_trans (Nat.min_le_left _ _) (Nat.mul_le_mul_left _ hshift)
  have hlongest : Duration.longest.nanos = 18446744073709551615999999999 := rfl
  have hofNanos : Duration.ofNanos? drawn = some ⟨drawn, by omega⟩ := dif_pos _
  rw [backoff, hofNanos, Option.bind_some, Duration.add?, Duration.ofNanos?, dif_pos (by dsimp; omega)]
  rfl

end RetryPolicy

/-- A request and its reply. -/
structure Exchange where
  body : List UInt8
  reply : Reply
deriving DecidableEq

namespace Trace

variable {s : Surroundings} {t t' t'' : Trace} {xs ys : List Exchange}

def exchangesOf (s : Surroundings) : List (List UInt8) → List Exchange
  | [] => []
  | body :: earlier => exchangesOf s earlier ++ [⟨body, (s.reply earlier.length).1⟩]

/-- The requests of a trace with their replies, the first one first. -/
def exchanges (s : Surroundings) (t : Trace) : List Exchange := exchangesOf s t.posts

def Quiet (s : Surroundings) (t : Trace) : Prop := s.signal = .never → t.signalled = false

/-- A trace goes on by some requests; it writes nothing to the table. -/
structure LeadsTo (s : Surroundings) (t : Trace) (xs : List Exchange) (t' : Trace) : Prop where
  exchanges : t'.exchanges s = t.exchanges s ++ xs
  db : t'.store.db = t.store.db
  isOpen : t'.store.isOpen = t.store.isOpen
  quiet : t.Quiet s → t'.Quiet s

theorem LeadsTo.refl (s : Surroundings) (t : Trace) : t.LeadsTo s [] t :=
  ⟨(List.append_nil _).symm, rfl, rfl, id⟩

theorem LeadsTo.trans (h : t.LeadsTo s xs t') (h' : t'.LeadsTo s ys t'') :
    t.LeadsTo s (xs ++ ys) t'' where
  exchanges := by rw [h'.exchanges, h.exchanges, List.append_assoc]
  db := h'.db.trans h.db
  isOpen := h'.isOpen.trans h.isOpen
  quiet := h'.quiet ∘ h.quiet

def counted (change : Metrics → Metrics) (t : Trace) : Trace :=
  { t with store := { t.store with metrics := change t.store.metrics } }

theorem LeadsTo.counted (h : t.LeadsTo s xs t') (change : Metrics → Metrics) :
    t.LeadsTo s xs (t'.counted change) := ⟨h.exchanges, h.db, h.isOpen, h.quiet⟩

/-- A body has been sent once more, and its reply counted. -/
def replied (c : PusherConfig) (s : Surroundings) (body : List UInt8) (t : Trace) : Trace :=
  { t with posts := body :: t.posts }.counted
    (·.observeRequest c.endpoint (s.reply t.posts.length).1.statusText (s.reply t.posts.length).2)

theorem leadsTo_replied (c : PusherConfig) (s : Surroundings) (body : List UInt8) (t : Trace) :
    t.LeadsTo s [⟨body, (s.reply t.posts.length).1⟩] (t.replied c s body) :=
  ⟨rfl, rfl, rfl, id⟩

end Trace

namespace Procedure

variable {α β : Type} {s : Surroundings} {t t' : Trace}

theorem run_bind {p : Procedure α} {a : α} (h : p.run s t = (some a, t')) (f : α → Procedure β) :
    (p >>= f).run s t = (f a).run s t' := by
  change (p.andThen f).run s t = _
  induction p generalizing t with
  | finish b =>
    obtain ⟨hb, rfl⟩ := Prod.mk.inj h
    rw [← Option.some.inj hb]
    rfl
  | overflow => simp [run] at h
  | readClock next ih => exact ih s.now h
  | select next ih => exact ih _ h
  | readKey next ih => exact ih s.key h
  | post key body next ih => exact ih _ _ h
  | isSignalled next ih => exact ih t.signalled h
  | draw limit next ih => exact ih _ h
  | pause delay next ih => exact ih _ h
  | mark ids at_ next ih => exact ih _ h
  | count change next ih => exact ih h

theorem run_bind_none {p : Procedure α} (h : p.run s t = (none, t')) (f : α → Procedure β) :
    (p >>= f).run s t = (none, t') := by
  change (p.andThen f).run s t = _
  induction p generalizing t with
  | finish a => simp [run] at h
  | overflow => exact congrArg (none, ·) (Prod.mk.inj h).2
  | readClock next ih => exact ih s.now h
  | select next ih => exact ih _ h
  | readKey next ih => exact ih s.key h
  | post key body next ih => exact ih _ _ h
  | isSignalled next ih => exact ih t.signalled h
  | draw limit next ih => exact ih _ h
  | pause delay next ih => exact ih _ h
  | mark ids at_ next ih => exact ih _ h
  | count change next ih => exact ih h

theorem run_bind_overflow {p : Procedure α} (h : (p.run s t).1 = none) (f : α → Procedure β) :
    ((p >>= f).run s t).1 = none := congrArg Prod.fst (run_bind_none (Prod.ext h rfl) f)

theorem run_count (change : Metrics → Metrics) (next : Procedure α) :
    (count change next).run s t = next.run s (t.counted change) := rfl

theorem run_select {result : Except StoreError (List Record)} {store : Store}
    (h : (Session.call (Session.findAll .pending)).run t.store = (result, store))
    (next : Except StoreError (List Record) → Procedure α) :
    (select next).run s t = (next result).run s { t with store } := by
  rw [run, h]

theorem run_mark {ids : List String} {at_ : Instant} {result : Except StoreError Nat}
    {store : Store} (h : (Session.call (Session.markSent ids at_)).run t.store = (result, store))
    (next : Except StoreError Nat → Procedure α) :
    (mark ids at_ next).run s t = (next result).run s { t with store } := by
  rw [run, h]

/-- A wait is cut short by nothing but a shutdown. -/
theorem run_pause (delay : Duration) (next : Bool → Procedure α) (hquiet : t.Quiet s) :
    ∃ cut t', (pause delay next).run s t = (next !cut).run s t' ∧ t.LeadsTo s [] t' ∧
      (cut = true → s.signal ≠ .never) := by
  obtain ⟨cut, hcut, hrun⟩ : ∃ cut : Bool, (s.signal = .never → cut = t.signalled) ∧
      (pause delay next).run s t =
        (next !cut).run s { t with pauses := delay :: t.pauses, signalled := cut } := by
    refine ⟨_, ?_, rfl⟩
    intro hnever
    simp [hnever]
  refine ⟨cut, _, hrun, ⟨(List.append_nil _).symm, rfl, rfl, ?_⟩, ?_⟩
  · intro _ hnever
    rw [← hquiet hnever]
    exact hcut hnever
  · rintro rfl hnever
    exact absurd ((hcut hnever).trans (hquiet hnever)) (by decide)

end Procedure

namespace Flush

variable {c : PusherConfig} {s : Surroundings} {t : Trace}

/-- How the attempts to send one body end: with the first reply that accepts it, with the last
attempt that may be made, or where a shutdown is signalled. -/
inductive Tried (p : RetryPolicy) (signal : Signal) : List Reply → Except PushError Nat → Prop
  | accepted {refusals : List Reply} {reply : Reply} :
    (∀ r ∈ refusals, r.error? ≠ none) → reply.error? = none → refusals.length < p.limit →
    Tried p signal (refusals ++ [reply]) (.ok (refusals.length + 1))
  | exhausted {refusals : List Reply} {reply : Reply} {e : PushError} :
    (∀ r ∈ refusals, r.error? ≠ none) → reply.error? = some e →
    (refusals.length + 1 = p.limit ∨ refusals.length + 1 < p.limit ∧ signal ≠ .never) →
    Tried p signal (refusals ++ [reply]) (.error (.retriesExhausted (refusals.length + 1) e))
  | cancelled {refusals : List Reply} :
    (∀ r ∈ refusals, r.error? ≠ none) → refusals ≠ [] → refusals.length < p.limit →
    signal ≠ .never → Tried p signal refusals (.error .cancelled)

theorem run_sendFrom_accepted {key : String} {body : List UInt8} {left attempt : Nat}
    (h : (s.reply t.posts.length).1.error? = none) :
    (sendFrom c key body left attempt).run s t = (some (.ok attempt), t.replied c s body) := by
  rw [sendFrom]
  simp only [Procedure.run, h]
  rfl

theorem run_sendFrom_refused {key : String} {body : List UInt8} {left attempt : Nat} {e : PushError}
    (h : (s.reply t.posts.length).1.error? = some e) (hlast : left = 0 ∨ t.signalled = true) :
    (sendFrom c key body left attempt).run s t =
      (some (.error (.retriesExhausted attempt e)), t.replied c s body) := by
  rw [sendFrom]
  simp only [Procedure.run, h]
  cases left with
  | zero => rfl
  | succ left =>
    have hsignalled : t.signalled = true := hlast.resolve_left (by simp)
    simp only [Procedure.run]
    rw [if_pos hsignalled]
    rfl

theorem run_sendFrom_again (key : String) (body : List UInt8) (left attempt : Nat) {e : PushError}
    (h : (s.reply t.posts.length).1.error? = some e) (hsignalled : t.signalled = false) :
    (sendFrom c key body (left + 1) attempt).run s t =
      (match c.retry.backoff (attempt - 1) (min c.retry.jitterLimit (s.drawn t.pauses.length)) with
        | none => .overflow
        | some delay =>
          .pause delay fun waited =>
            if waited then sendFrom c key body left (attempt + 1)
            else .finish (.error .cancelled) : Procedure (Except PushError Nat)).run s
        (t.replied c s body) := by
  rw [sendFrom]
  simp only [Procedure.run, h]
  rw [if_neg (by simp [hsignalled])]
  rfl

/-- Attempts that follow some refusals: they end as told, unless a delay is no duration. -/
theorem run_sendFrom (key : String) (body : List UInt8) {left : Nat} {before : List Reply}
    (hbefore : ∀ r ∈ before, r.error? ≠ none)
    (hleft : before.length + 1 + left = c.retry.limit) (hquiet : t.Quiet s) :
    (((sendFrom c key body left (before.length + 1)).run s t).1 = none ∧ ¬ c.retry.Bounded) ∨
      ∃ result t' replies,
        (sendFrom c key body left (before.length + 1)).run s t = (some result, t') ∧
        Tried c.retry s.signal (before ++ replies) result ∧
        t.LeadsTo s (replies.map fun reply => ⟨body, reply⟩) t' := by
  induction left generalizing before t with
  | zero =>
    right
    have hlead := t.leadsTo_replied c s body
    cases hreply : (s.reply t.posts.length).1.error? with
    | none =>
      exact ⟨_, _, [_], run_sendFrom_accepted hreply, .accepted hbefore hreply (by omega), hlead⟩
    | some e =>
      exact ⟨_, _, [_], run_sendFrom_refused hreply (.inl rfl),
        .exhausted hbefore hreply (.inl hleft), hlead⟩
  | succ left ih =>
    have hlead := t.leadsTo_replied c s body
    cases hreply : (s.reply t.posts.length).1.error? with
    | none =>
      right
      exact ⟨_, _, [_], run_sendFrom_accepted hreply, .accepted hbefore hreply (by omega), hlead⟩
    | some e =>
      have hrefusals : ∀ r ∈ before ++ [(s.reply t.posts.length).1], r.error? ≠ none := by
        simpa [or_imp, forall_and, hreply] using hbefore
      have hlength : (before ++ [(s.reply t.posts.length).1]).length = before.length + 1 := by simp
      cases hsignalled : t.signalled with
      | true =>
        right
        have hsignal : s.signal ≠ .never := by
          intro hnever
          simp [hquiet hnever] at hsignalled
        exact ⟨_, _, [_], run_sendFrom_refused hreply (.inr hsignalled),
          .exhausted hbefore hreply (.inr ⟨by omega, hsignal⟩), hlead⟩
      | false =>
        rw [run_sendFrom_again key body left (before.length + 1) hreply hsignalled]
        cases hdelay : c.retry.backoff (before.length + 1 - 1)
            (min c.retry.jitterLimit (s.drawn t.pauses.length)) with
        | none =>
          left
          refine ⟨rfl, fun hc => ?_⟩
          have hsome := hc before.length (min c.retry.jitterLimit (s.drawn t.pauses.length))
            (by omega) (Nat.min_le_left _ _)
          rw [Nat.add_sub_cancel] at hdelay
          simp [hdelay] at hsome
        | some delay =>
          obtain ⟨cut, t₁, hpause, hlead₁, hcut⟩ :=
            Procedure.run_pause delay _ (hlead.quiet hquiet)
          dsimp only
          rw [hpause]
          cases cut with
          | true =>
            right
            exact ⟨_, t₁, [_], rfl, .cancelled hrefusals (by simp) (by omega) (hcut rfl),
              hlead.trans hlead₁⟩
          | false =>
            rw [← hlength]
            rcases ih hrefusals (by omega) (hlead₁.quiet (hlead.quiet hquiet)) with hoverflow |
              ⟨result, t', replies, hrun, htried, hlead'⟩
            · exact .inl hoverflow
            · right
              refine ⟨result, t', _ :: replies, hrun, ?_, (hlead.trans hlead₁).trans hlead'⟩
              simpa using htried

theorem run_send (c : PusherConfig) (key : String) (body : List UInt8) (hquiet : t.Quiet s) :
    (((send c key body).run s t).1 = none ∧ ¬ c.retry.Bounded) ∨
      ∃ result t' replies, (send c key body).run s t = (some result, t') ∧
        Tried c.retry s.signal replies result ∧
        t.LeadsTo s (replies.map fun reply => ⟨body, reply⟩) t' := by
  have hnone : ∀ r ∈ ([] : List Reply), r.error? ≠ none := by simp
  exact run_sendFrom key body hnone (by rw [RetryPolicy.limit, List.length_nil]; omega) hquiet

end Flush

end ClusterOutbox
