import ClusterOutbox.Proofs.Delivery.Log
import ClusterOutbox.Proofs.Delivery.Tally
import ClusterOutbox.Proofs.Store.Session

namespace ClusterOutbox

/-- What a procedure does that its totals count, with the outcome. -/
inductive Deed
  | selected (found : Except StoreError (List Record))
  | posted (body : List UInt8) (reply : Reply)
  | marked (ids : List String) (at_ : Instant) (outcome : Except StoreError Nat)

namespace Procedure

variable {α β : Type} {endpoint : String} {m m' : Metrics} {a : Account} {ds done : List Deed}
  {result : Option α} {post : List Deed → Option α → Account → Prop}

/-- What a procedure may come to from some metrics on: its deeds, its result and the metrics. Every
act has any outcome that it can have, and what happens elsewhere changes nothing that is counted for
the endpoint. There is no result where the procedure breaks off. -/
inductive Comes (endpoint : String) :
    Procedure α → Metrics → List Deed → Option α → Metrics → Prop
  | finish {x : α} {m : Metrics} : Comes endpoint (.finish x) m [] (some x) m
  | overflow {m : Metrics} : Comes endpoint .overflow m [] none m
  | readClock {next : Instant → Procedure α} {m ds result m'} (now : Instant) :
    Comes endpoint (next now) m ds result m' → Comes endpoint (.readClock next) m ds result m'
  | select {next : Except StoreError (List Record) → Procedure α} {m ds result m'}
      (found : Except StoreError (List Record)) :
    Comes endpoint (next found) m ds result m' →
    Comes endpoint (.select next) m (.selected found :: ds) result m'
  | readKey {next : String → Procedure α} {m ds result m'} (key : String) :
    Comes endpoint (next key) m ds result m' → Comes endpoint (.readKey next) m ds result m'
  | post {key : String} {body : List UInt8} {next : Reply → Duration → Procedure α}
      {m ds result m'} (reply : Reply) (elapsed : Duration) :
    Comes endpoint (next reply elapsed) m ds result m' →
    Comes endpoint (.post key body next) m (.posted body reply :: ds) result m'
  | isSignalled {next : Bool → Procedure α} {m ds result m'} (signalled : Bool) :
    Comes endpoint (next signalled) m ds result m' →
    Comes endpoint (.isSignalled next) m ds result m'
  | draw {limit : Nat} {next : Nat → Procedure α} {m ds result m'} {drawn : Nat} :
    drawn ≤ limit → Comes endpoint (next drawn) m ds result m' →
    Comes endpoint (.draw limit next) m ds result m'
  | pause {delay : Duration} {next : Bool → Procedure α} {m ds result m'} (waited : Bool) :
    Comes endpoint (next waited) m ds result m' → Comes endpoint (.pause delay next) m ds result m'
  | mark {ids : List String} {at_ : Instant} {next : Except StoreError Nat → Procedure α}
      {m ds result m'} (outcome : Except StoreError Nat) :
    Comes endpoint (next outcome) m ds result m' →
    Comes endpoint (.mark ids at_ next) m (.marked ids at_ outcome :: ds) result m'
  | count {change : Metrics → Metrics} {next : Procedure α} {m ds result m'} :
    Comes endpoint next (change m) ds result m' →
    Comes endpoint (.count change next) m ds result m'
  | elsewhere {p : Procedure α} {m m₁ ds result m'} :
    m₁.tally endpoint = m.tally endpoint → Comes endpoint p m₁ ds result m' →
    Comes endpoint p m ds result m'

/-- Whatever its acts come to, a procedure that has done some deeds ends as is asked of all its
deeds, its result and what is counted in the end. -/
def Meets (endpoint : String) (post : List Deed → Option α → Account → Prop) :
    Procedure α → List Deed → Account → Prop
  | .finish x, done, a => post done (some x) a
  | .overflow, done, a => post done none a
  | .readClock next, done, a => ∀ now, (next now).Meets endpoint post done a
  | .select next, done, a =>
    ∀ found, (next found).Meets endpoint post (done ++ [.selected found]) a
  | .readKey next, done, a => ∀ key, (next key).Meets endpoint post done a
  | .post _ body next, done, a =>
    ∀ reply elapsed, (next reply elapsed).Meets endpoint post (done ++ [.posted body reply]) a
  | .isSignalled next, done, a => ∀ signalled, (next signalled).Meets endpoint post done a
  | .draw limit next, done, a => ∀ drawn ≤ limit, (next drawn).Meets endpoint post done a
  | .pause _ next, done, a => ∀ waited, (next waited).Meets endpoint post done a
  | .mark ids at_ next, done, a =>
    ∀ outcome, (next outcome).Meets endpoint post (done ++ [.marked ids at_ outcome]) a
  | .count change next, done, a => ∃ a',
    (∀ m : Metrics, m.tally endpoint = a.tally → (change m).tally endpoint = a'.tally) ∧
      next.Meets endpoint post done a'

/-- A procedure meets what its continuation needs, and what is asked where it breaks off. -/
theorem Meets.andThen {p : Procedure α} {f : α → Procedure β}
    {post : List Deed → Option β → Account → Prop}
    (h : p.Meets endpoint (fun done result a =>
      match result with
      | none => post done none a
      | some x => (f x).Meets endpoint post done a) done a) :
    (p >>= f).Meets endpoint post done a := by
  change (p.andThen f).Meets endpoint post done a
  induction p generalizing done a with
  | finish x => exact h
  | overflow => exact h
  | readClock next ih => exact fun now => ih now (h now)
  | select next ih => exact fun found => ih found (h found)
  | readKey next ih => exact fun key => ih key (h key)
  | post key body next ih => exact fun reply elapsed => ih reply elapsed (h reply elapsed)
  | isSignalled next ih => exact fun signalled => ih signalled (h signalled)
  | draw limit next ih => exact fun drawn hdrawn => ih drawn (h drawn hdrawn)
  | pause delay next ih => exact fun waited => ih waited (h waited)
  | mark ids at_ next ih => exact fun outcome => ih outcome (h outcome)
  | count change next ih =>
    obtain ⟨a', hchange, hnext⟩ := h
    exact ⟨a', hchange, ih hnext⟩

/-- What is asked of a procedure holds of all that it may come to. -/
theorem Comes.meets {p : Procedure α} (h : p.Comes endpoint m ds result m')
    (hp : p.Meets endpoint post done a) (hm : m.tally endpoint = a.tally) :
    ∃ a', post (done ++ ds) result a' ∧ m'.tally endpoint = a'.tally := by
  induction h generalizing done a with
  | finish | overflow => exact ⟨a, by rwa [List.append_nil], hm⟩
  | readClock now _ ih => exact ih (hp now) hm
  | readKey key _ ih => exact ih (hp key) hm
  | isSignalled signalled _ ih => exact ih (hp signalled) hm
  | draw hdrawn _ ih => exact ih (hp _ hdrawn) hm
  | pause waited _ ih => exact ih (hp waited) hm
  | select found _ ih | mark found _ ih =>
    rw [List.append_cons]
    exact ih (hp found) hm
  | post reply elapsed _ ih =>
    rw [List.append_cons]
    exact ih (hp reply elapsed) hm
  | count _ ih =>
    obtain ⟨a', hchange, hnext⟩ := hp
    exact ih hnext (hchange _ hm)
  | elsewhere hsame _ ih => exact ih hp (hsame.trans hm)

/-- What a procedure that runs alone does of what its totals count, in order. -/
def deeds (s : Surroundings) : Procedure α → Trace → List Deed
  | .finish _, _ => []
  | .overflow, _ => []
  | .readClock next, t => (next s.now).deeds s t
  | .select next, t =>
    let (found, store) := (Session.call (Session.findAll .pending)).run t.store
    .selected found :: (next found).deeds s { t with store }
  | .readKey next, t => (next s.key).deeds s t
  | .post _ body next, t =>
    .posted body (s.reply t.posts.length).1 ::
      (next (s.reply t.posts.length).1 (s.reply t.posts.length).2).deeds s
        { t with posts := body :: t.posts }
  | .isSignalled next, t => (next t.signalled).deeds s t
  | .draw limit next, t => (next (min limit (s.drawn t.pauses.length))).deeds s t
  | .pause delay next, t => (next !s.cuts t delay).deeds s (t.paused delay (s.cuts t delay))
  | .mark ids at_ next, t =>
    let (outcome, store) := (Session.call (Session.markSent ids at_)).run t.store
    .marked ids at_ outcome :: (next outcome).deeds s { t with store }
  | .count change next, t => next.deeds s (t.counted change)

/-- A procedure that runs alone comes to something that it may come to. -/
theorem comes_run (s : Surroundings) (p : Procedure α) (t : Trace) :
    p.Comes endpoint t.store.metrics (p.deeds s t) (p.run s t).1 (p.run s t).2.store.metrics := by
  induction p generalizing t with
  | finish x => exact .finish
  | overflow => exact .overflow
  | readClock next ih => exact .readClock s.now (ih s.now t)
  | select next ih =>
    have hkept := (Session.uncounted_findAll .pending).call t.store
    rcases hrun : (Session.call (Session.findAll .pending)).run t.store with ⟨found, store⟩
    rw [hrun] at hkept
    rw [run, deeds, hrun]
    exact .select found (hkept ▸ ih found { t with store })
  | readKey next ih => exact .readKey s.key (ih s.key t)
  | post key body next ih => exact .post _ _ (ih _ _ { t with posts := body :: t.posts })
  | isSignalled next ih => exact .isSignalled t.signalled (ih t.signalled t)
  | draw limit next ih => exact .draw (Nat.min_le_left _ _) (ih _ t)
  | pause delay next ih =>
    exact .pause (!s.cuts t delay) (ih (!s.cuts t delay) (t.paused delay (s.cuts t delay)))
  | mark ids at_ next ih =>
    have hkept := (Session.uncounted_markSent ids at_).call t.store
    rcases hrun : (Session.call (Session.markSent ids at_)).run t.store with ⟨outcome, store⟩
    rw [hrun] at hkept
    rw [run, deeds, hrun]
    exact .mark outcome (hkept ▸ ih outcome { t with store })
  | count change next ih => exact .count (ih (t.counted change))

end Procedure

end ClusterOutbox
