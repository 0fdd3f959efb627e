import ClusterOutbox.Proofs.Delivery.Attempts

namespace ClusterOutbox

/-- A request with its reply, or a wait and whether a shutdown has cut it short. -/
inductive Occurrence
  | posted (body : List UInt8) (reply : Reply)
  | waited (delay : Duration) (cut : Bool)
deriving DecidableEq

namespace Occurrence

def body? : Occurrence → Option (List UInt8)
  | posted body _ => some body
  | waited _ _ => none

def reply? : Occurrence → Option Reply
  | posted _ reply => some reply
  | waited _ _ => none

def delay? : Occurrence → Option Duration
  | posted _ _ => none
  | waited delay _ => some delay

def isCut : Occurrence → Bool
  | posted _ _ => false
  | waited _ cut => cut

end Occurrence

def Trace.paused (delay : Duration) (cut : Bool) (t : Trace) : Trace :=
  { t with pauses := delay :: t.pauses, signalled := cut }

/-- Whether a wait that begins after a trace is cut short. -/
def Surroundings.cuts (s : Surroundings) (t : Trace) (delay : Duration) : Bool :=
  t.signalled || match s.signal with
    | .onWait replies patience =>
      replies ≤ t.posts.length || patience.nanos < t.waited + delay.nanos
    | _ => false

namespace Procedure

variable {α β : Type} {s : Surroundings} {t t' : Trace}

/-- The requests and the waits of a procedure that runs by itself, in their order. -/
def log (s : Surroundings) : Procedure α → Trace → List Occurrence
  | finish _, _ => []
  | overflow, _ => []
  | readClock next, t => (next s.now).log s t
  | select next, t =>
    let (result, store) := (Session.call (Session.findAll .pending)).run t.store
    (next result).log s { t with store }
  | readKey next, t => (next s.key).log s t
  | post _ body next, t =>
    .posted body (s.reply t.posts.length).1 ::
      (next (s.reply t.posts.length).1 (s.reply t.posts.length).2).log s
        { t with posts := body :: t.posts }
  | isSignalled next, t => (next t.signalled).log s t
  | draw limit next, t => (next (min limit (s.drawn t.pauses.length))).log s t
  | pause delay next, t =>
    .waited delay (s.cuts t delay) ::
      (next !s.cuts t delay).log s (t.paused delay (s.cuts t delay))
  | mark ids at_ next, t =>
    let (result, store) := (Session.call (Session.markSent ids at_)).run t.store
    (next result).log s { t with store }
  | count change next, t => next.log s (t.counted change)

theorem run_pause_cuts (delay : Duration) (next : Bool → Procedure α) :
    (pause delay next).run s t =
      (next !s.cuts t delay).run s (t.paused delay (s.cuts t delay)) := rfl

theorem log_select {result : Except StoreError (List Record)} {store : Store}
    (h : (Session.call (Session.findAll .pending)).run t.store = (result, store))
    (next : Except StoreError (List Record) → Procedure α) :
    (select next).log s t = (next result).log s { t with store } := by
  rw [log, h]

theorem log_mark {ids : List String} {at_ : Instant} {result : Except StoreError Nat}
    {store : Store} (h : (Session.call (Session.markSent ids at_)).run t.store = (result, store))
    (next : Except StoreError Nat → Procedure α) :
    (mark ids at_ next).log s t = (next result).log s { t with store } := by
  rw [log, h]

/-- The log tells the requests and the waits of a run. -/
theorem run_log (s : Surroundings) (p : Procedure α) (t : Trace) :
    (p.run s t).2.posts = ((p.log s t).filterMap Occurrence.body?).reverse ++ t.posts ∧
      (p.run s t).2.pauses = ((p.log s t).filterMap Occurrence.delay?).reverse ++ t.pauses := by
  induction p generalizing t with
  | finish a => exact ⟨rfl, rfl⟩
  | overflow => exact ⟨rfl, rfl⟩
  | readClock next ih => exact ih s.now t
  | select next ih => exact ih _ _
  | readKey next ih => exact ih s.key t
  | post key body next ih =>
    obtain ⟨hposts, hpauses⟩ := ih (s.reply t.posts.length).1 (s.reply t.posts.length).2
      { t with posts := body :: t.posts }
    refine ⟨hposts.trans ?_, hpauses⟩
    simp [log, Occurrence.body?]
  | isSignalled next ih => exact ih t.signalled t
  | draw limit next ih => exact ih _ t
  | pause delay next ih =>
    obtain ⟨hposts, hpauses⟩ := ih (!s.cuts t delay) (t.paused delay (s.cuts t delay))
    refine ⟨hposts, hpauses.trans ?_⟩
    simp [log, Occurrence.delay?, Trace.paused]
  | mark ids at_ next ih => exact ih _ _
  | count change next ih => exact ih _

/-- The replies in a log are those of the script, from the first that a trace leaves. -/
theorem log_replies (s : Surroundings) (p : Procedure α) (t : Trace) :
    (p.log s t).filterMap Occurrence.reply? =
      (List.range' t.posts.length ((p.log s t).filterMap Occurrence.body?).length).map
        fun n => (s.reply n).1 := by
  induction p generalizing t with
  | finish a => rfl
  | overflow => rfl
  | readClock next ih => exact ih s.now t
  | select next ih => exact ih _ _
  | readKey next ih => exact ih s.key t
  | post key body next ih =>
    have hrest := ih (s.reply t.posts.length).1 (s.reply t.posts.length).2
      { t with posts := body :: t.posts }
    simp only [log, List.filterMap_cons, Occurrence.reply?, Occurrence.body?, List.length_cons,
      List.range'_succ, List.map_cons]
    exact congrArg _ hrest
  | isSignalled next ih => exact ih t.signalled t
  | draw limit next ih => exact ih _ t
  | pause delay next ih => exact ih _ (t.paused delay (s.cuts t delay))
  | mark ids at_ next ih => exact ih _ _
  | count change next ih => exact ih _

/-- A shutdown is known of after a run if it was before, or if it has cut a wait short. -/
theorem run_signalled (s : Surroundings) (p : Procedure α) (t : Trace) :
    (p.run s t).2.signalled = (t.signalled || (p.log s t).any Occurrence.isCut) := by
  induction p generalizing t with
  | finish a => exact (Bool.or_false _).symm
  | overflow => exact (Bool.or_false _).symm
  | readClock next ih => exact ih s.now t
  | select next ih => exact ih _ _
  | readKey next ih => exact ih s.key t
  | post key body next ih => exact ih _ _ { t with posts := body :: t.posts }
  | isSignalled next ih => exact ih t.signalled t
  | draw limit next ih => exact ih _ t
  | pause delay next ih =>
    rw [run_pause_cuts, ih, log, List.any_cons]
    change (s.cuts t delay || _) = (t.signalled || (s.cuts t delay || _))
    cases hsignalled : t.signalled with
    | false => rfl
    | true => simp [Surroundings.cuts, hsignalled]
  | mark ids at_ next ih => exact ih _ _
  | count change next ih => exact ih _

theorem log_bind {p : Procedure α} {a : α} (h : p.run s t = (some a, t')) (f : α → Procedure β) :
    (p >>= f).log s t = p.log s t ++ (f a).log s t' := by
  change (p.andThen f).log s t = _
  induction p generalizing t with
  | finish b =>
    obtain ⟨hb, rfl⟩ := Prod.mk.inj h
    rw [← Option.some.inj hb]
    rfl
  | overflow => simp [run] at h
  | readClock next ih => exact ih s.now h
  | select next ih => exact ih _ h
  | readKey next ih => exact ih s.key h
  | post key body next ih => exact congrArg _ (ih _ _ h)
  | isSignalled next ih => exact ih t.signalled h
  | draw limit next ih => exact ih _ h
  | pause delay next ih => exact congrArg _ (ih _ h)
  | mark ids at_ next ih => exact ih _ h
  | count change next ih => exact ih h

end Procedure

end ClusterOutbox
