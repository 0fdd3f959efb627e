import ClusterOutbox.Proofs.Delivery.Acknowledged
import ClusterOutbox.Proofs.Delivery.Duties
import Mathlib.Algebra.GroupWithZero.Nat

namespace ClusterOutbox

/-- A call of a flush: it waits for the lock, is under way, or has ended. -/
inductive Stage
  | waiting
  | running (f : Flight)
  | ended

namespace Stage

def flight? : Stage → Option Flight
  | running f => some f
  | waiting | ended => none

def ofFlight : Option Flight → Stage
  | some f => running f
  | none => ended

def isEnded : Stage → Bool
  | ended => true
  | waiting | running _ => false

end Stage

def Procedure.result? {α : Type} : Procedure α → Option α
  | finish a => some a
  | _ => none

/-- Calls of the flush of one pusher, the lock that they take, and what those that have ended came
to, the last first. -/
structure Overlap where
  world : World
  locked : Bool
  calls : List Stage
  results : List (Except PushError Report)

inductive Move
  | call
  | lock (i : Nat)
  | act (i : Nat) (o : Outside)

/-- Whether there is a key, a request is accepted, and the store does what it is asked. -/
def Outside.Favours (o : Outside) : Prop := o.key ≠ "" ∧ o.reply.error? = none ∧ o.trouble = none

instance (o : Outside) : Decidable o.Favours := inferInstanceAs (Decidable (_ ∧ _ ∧ _))

def Move.Favoured : Move → Prop
  | act _ o => o.Favours
  | call | lock _ => True

instance : (move : Move) → Decidable move.Favoured
  | .act _ o => inferInstanceAs (Decidable o.Favours)
  | .call | .lock _ => isTrue trivial

namespace Overlap

def start (store : Store) : Overlap := ⟨{ World.start with store }, false, [], []⟩

/-- What a move makes of the calls. Only a call that waits asks for the lock, and a call that ends
gives it back. -/
def next (c : PusherConfig) (p : Overlap) : Move → Overlap
  | .call => { p with calls := p.calls ++ [.waiting] }
  | .lock i =>
    match p.calls[i]? with
    | some .waiting =>
      if p.locked then p
      else
        { p with
          locked := true
          calls := p.calls.set i (.running ⟨Flush.flush c, .blank, []⟩) }
    | _ => p
  | .act i o =>
    match p.calls[i]? with
    | some (.running f) =>
      let world := p.world.act o f
      { world := { world with flight := none }
        locked := world.flight.isSome && p.locked
        calls := p.calls.set i (.ofFlight world.flight)
        results := f.rest.result?.toList ++ p.results }
    | _ => p

/-- What moves lead to from a store, in any order, where all requests are accepted and the store
does what it is asked. -/
inductive Reached (c : PusherConfig) (store : Store) : Overlap → Prop
  | start : Reached c store (start store)
  | next {p : Overlap} (move : Move) : Reached c store p → move.Favoured →
    Reached c store (p.next c move)

/-- The calls under way. -/
def running (p : Overlap) : List Flight := p.calls.filterMap Stage.flight?

/-- How far the calls have come, where the first of them sends what it can and those after it find
what that has left behind. -/
inductive Phase (c : PusherConfig) (records : List Record) :
    World → List Flight → List (Except PushError Report) → Prop
  | idle {w : World} : Flush.Deliverable w.store records → w.posts = [] → w.readings = [] →
    Phase c records w [] []
  | begun {w : World} {f : Flight} : Flush.Deliverable w.store records → w.posts = [] →
    w.readings = [] → f.rest = Flush.flush c → Phase c records w [f] []
  | timed {w : World} {f : Flight} (start : Instant) : Flush.Deliverable w.store records →
    w.posts = [] → w.readings = [start] → f.rest = .select (Flush.deliver c start) →
    Phase c records w [f] []
  | sending {w : World} {f : Flight} (start : Instant) (sent todo : List (List UInt8)) :
    Flush.Deliverable w.store records → w.posts.map (·.1) = sent.reverse → w.readings = [start] →
    Flush.bodies c records = sent ++ todo →
    f.rest.Performs (Flush.resultOf c records)
      (todo.map .post ++ Flush.marks start (Flush.carried c records)) → Phase c records w [f] []
  | confirmed {w : World} {f : Flight} : Flush.Deliverable w.store (Flush.behind c records) →
    w.posts.map (·.1) = (Flush.bodies c records).reverse →
    f.rest.Performs (Flush.resultOf c records) [] → Phase c records w [f] []
  | drained {w : World} {running : List Flight} (k : Nat) :
    Flush.Deliverable w.store (Flush.behind c records) →
    w.posts.map (·.1) = (Flush.bodies c records).reverse → running.length ≤ 1 →
    (∀ f ∈ running, f.rest = Flush.flush c ∨ (∃ start, f.rest = .select (Flush.deliver c start)) ∨
      f.rest.Performs (Flush.resultOf c (Flush.behind c records)) []) →
    Phase c records w running (List.replicate k (Flush.resultOf c (Flush.behind c records)) ++
      [Flush.resultOf c records])

variable {c : PusherConfig} {records : List Record} {w : World} {f : Flight}
  {results : List (Except PushError Report)} {o : Outside}

theorem Phase.length_le_one {running : List Flight} (h : Phase c records w running results) :
    running.length ≤ 1 := by
  cases h with
  | drained k _ _ hlength _ => exact hlength
  | idle => exact Nat.zero_le 1
  | begun | timed | sending | confirmed => exact Nat.le_refl 1

/-- The first call that ends has sent what it could, and those after it find what is left. -/
theorem Phase.results_eq {running : List Flight} (h : Phase c records w running results)
    (hsome : results ≠ []) : w.posts.map (·.1) = (Flush.bodies c records).reverse ∧
      ∃ k, results = List.replicate k (Flush.resultOf c (Flush.behind c records)) ++
        [Flush.resultOf c records] := by
  cases h with
  | drained k _ hposts _ _ => exact ⟨hposts, k, rfl⟩
  | idle | begun | timed | sending | confirmed => exact absurd rfl hsome

theorem Phase.lock (h : Phase c records w [] results) :
    Phase c records w [⟨Flush.flush c, .blank, []⟩] results := by
  cases h with
  | idle hstore hposts hreadings => exact .begun hstore hposts hreadings rfl
  | drained k hstore hposts _ _ =>
    refine .drained k hstore hposts (Nat.le_refl 1) fun f hf => .inl ?_
    rw [List.mem_singleton.mp hf]

/-- What an act makes of a flush that has duties left. -/
inductive Advance (w : World) (o : Outside) (f : Flight) (result : Except PushError Report) :
    List Duty → Prop
  | finished : f.rest = .finish result → Advance w o f result []
  | counted {duties : List Duty} (change : Metrics → Metrics) (f' : Flight) :
    w.act o f = { w.count change with flight := some f' } → f.rest.result? = none →
    f'.rest.Performs result duties → Advance w o f result duties
  | posted {rest : List Duty} (body : List UInt8) (f' : Flight) :
    w.act o f = { w with posts := (body, o.reply) :: w.posts, flight := some f' } →
    f.rest.result? = none → f'.rest.Performs result rest →
    Advance w o f result (.post body :: rest)
  | marked {rest : List Duty} (ids : List String) (t : Instant)
    (next : Except StoreError Nat → Procedure (Except PushError Report)) :
    f.rest = .mark ids t next → (∀ n, (next (.ok n)).Performs result rest) →
    Advance w o f result (.mark ids t :: rest)

theorem advance {result : Except PushError Report} {duties : List Duty} (ho : o.Favours)
    (h : f.rest.Performs result duties) (w : World) : Advance w o f result duties := by
  obtain ⟨hkey, hreply, -⟩ := ho
  cases hrest : f.rest with
  | finish a =>
    rw [hrest] at h
    obtain ⟨rfl, rfl⟩ := h
    exact .finished hrest
  | readKey next =>
    rw [hrest] at h
    exact .counted id _ (by simp only [World.act, hrest]; rfl) (by rw [hrest]; rfl) (h o.key hkey)
  | post key body next =>
    rw [hrest] at h
    obtain ⟨rest, rfl, hnext⟩ := h
    exact .posted body _ (by simp only [World.act, hrest]; rfl) (by rw [hrest]; rfl)
      (hnext o.reply o.elapsed hreply)
  | mark ids t next =>
    rw [hrest] at h
    obtain ⟨rest, rfl, hnext⟩ := h
    exact .marked ids t next hrest hnext
  | count change next =>
    rw [hrest] at h
    exact .counted change _ (by simp only [World.act, hrest]; rfl) (by rw [hrest]; rfl) h
  | overflow | readClock next | select next | isSignalled next | draw limit next
  | pause delay next =>
    rw [hrest] at h
    exact h.elim

theorem Phase.act_begun (h : f.rest = Flush.flush c) (hstore : Flush.Deliverable w.store records)
    (hposts : w.posts = []) (hreadings : w.readings = []) :
    Phase c records { w.act o f with flight := none } (w.act o f).flight.toList
      (f.rest.result?.toList ++ []) := by
  rw [Flush.flush_eq] at h
  simp only [World.act, h, Procedure.result?]
  exact .timed o.now hstore hposts (by rw [hreadings]) rfl

theorem Phase.act_timed {start : Instant} (ho : o.Favours)
    (h : f.rest = .select (Flush.deliver c start)) (hstore : Flush.Deliverable w.store records)
    (hposts : w.posts = []) (hreadings : w.readings = [start]) :
    Phase c records { w.act o f with flight := none } (w.act o f).flight.toList
      (f.rest.result?.toList ++ []) := by
  simp only [World.act, h, Procedure.result?, Outside.perform, ho.2.2, hstore.pending.run]
  exact .sending start [] (Flush.bodies c records) hstore (by simp [hposts]) hreadings rfl
    (Flush.performs_deliver c start records)

theorem Phase.act_sending {start : Instant} {sent todo : List (List UInt8)} (ho : o.Favours)
    (hclock : ∀ r ∈ records, r.updated.micros ≤ start.micros)
    (hstore : Flush.Deliverable w.store records) (hposts : w.posts.map (·.1) = sent.reverse)
    (hreadings : w.readings = [start]) (hbodies : Flush.bodies c records = sent ++ todo)
    (h : f.rest.Performs (Flush.resultOf c records)
      (todo.map .post ++ Flush.marks start (Flush.carried c records))) :
    Phase c records { w.act o f with flight := none } (w.act o f).flight.toList
      (f.rest.result?.toList ++ []) := by
  have hrecords := Flush.carried_append_behind c records
  have hadvance := advance ho h w
  generalize hduties : todo.map Duty.post ++ Flush.marks start (Flush.carried c records) = duties
    at hadvance
  cases hadvance with
  | finished hrest =>
    obtain ⟨htodo, hmarks⟩ := List.append_eq_nil_iff.mp hduties
    rw [Flush.marks_eq_nil.mp hmarks, List.nil_append] at hrecords
    rw [List.map_eq_nil_iff.mp htodo, List.append_nil] at hbodies
    simp only [World.act, hrest, Procedure.result?]
    exact .drained 0 (hrecords.symm ▸ hstore) (hbodies ▸ hposts) (Nat.zero_le 1) (by simp)
  | counted change f' hact hresult hperforms =>
    rw [hact, hresult]
    exact .sending start sent todo (hstore.of_db rfl rfl) hposts hreadings hbodies
      (hduties ▸ hperforms)
  | @posted rest body f' hact hresult hperforms =>
    cases todo with
    | nil => exact absurd hduties (Flush.marks_ne_post start _ body rest)
    | cons first todo =>
      obtain ⟨hfirst, rfl⟩ := List.cons.inj hduties
      obtain rfl := Duty.post.inj hfirst
      rw [hact, hresult]
      refine .sending start (sent ++ [first]) todo hstore ?_ hreadings (by simp [hbodies]) hperforms
      simp [hposts]
  | @marked rest ids t next hrest hperforms =>
    cases todo with
    | cons first todo => simp at hduties
    | nil =>
      obtain ⟨rfl, rfl, rfl⟩ := Flush.marks_eq_mark hduties
      rw [← hrecords] at hstore
      obtain ⟨n, store, hrun, hleft⟩ := hstore.mark fun r hr =>
        hclock r (hrecords ▸ List.mem_append_left _ hr)
      simp only [World.act, hrest, Procedure.result?, Outside.perform, ho.2.2, hrun]
      exact .confirmed hleft (by simp [hposts, hbodies]) (hperforms n)

theorem Phase.act_confirmed (ho : o.Favours)
    (hstore : Flush.Deliverable w.store (Flush.behind c records))
    (hposts : w.posts.map (·.1) = (Flush.bodies c records).reverse)
    (h : f.rest.Performs (Flush.resultOf c records) []) :
    Phase c records { w.act o f with flight := none } (w.act o f).flight.toList
      (f.rest.result?.toList ++ []) := by
  cases advance ho h w with
  | finished hrest =>
    simp only [World.act, hrest, Procedure.result?]
    exact .drained 0 hstore hposts (Nat.zero_le 1) (by simp)
  | counted change f' hact hresult hperforms =>
    rw [hact, hresult]
    exact .confirmed (hstore.of_db rfl rfl) hposts hperforms

theorem Phase.act_drained {k : Nat} (ho : o.Favours)
    (hstore : Flush.Deliverable w.store (Flush.behind c records))
    (hposts : w.posts.map (·.1) = (Flush.bodies c records).reverse)
    (h : f.rest = Flush.flush c ∨ (∃ start, f.rest = .select (Flush.deliver c start)) ∨
      f.rest.Performs (Flush.resultOf c (Flush.behind c records)) []) :
    Phase c records { w.act o f with flight := none } (w.act o f).flight.toList
      (f.rest.result?.toList ++ (List.replicate k (Flush.resultOf c (Flush.behind c records)) ++
        [Flush.resultOf c records])) := by
  rcases h with h | ⟨start, h⟩ | h
  · rw [Flush.flush_eq] at h
    simp only [World.act, h, Procedure.result?]
    exact .drained k hstore hposts (Nat.le_refl 1) (by simp)
  · simp only [World.act, h, Procedure.result?, Outside.perform, ho.2.2, hstore.pending.run]
    refine .drained k hstore hposts (Nat.le_refl 1) fun f' hf' => .inr (.inr ?_)
    obtain rfl := List.mem_singleton.mp hf'
    rw [← Flush.duties_behind c start records]
    exact Flush.performs_deliver c start (Flush.behind c records)
  · cases advance ho h w with
    | finished hrest =>
      simp only [World.act, hrest, Procedure.result?]
      exact .drained (k + 1) hstore hposts (Nat.zero_le 1) (by simp)
    | counted change f' hact hresult hperforms =>
      rw [hact, hresult]
      refine .drained k (hstore.of_db rfl rfl) hposts (Nat.le_refl 1) fun f'' hf'' => .inr (.inr ?_)
      exact List.mem_singleton.mp hf'' ▸ hperforms

/-- The clock read first, where it has been read, is not before the last change of a record. -/
def Late (records : List Record) (w : World) : Prop :=
  ∀ first ∈ w.readings.getLast?, ∀ r ∈ records, r.updated.micros ≤ first.micros

instance (records : List Record) (w : World) : Decidable (Late records w) :=
  inferInstanceAs (Decidable (∀ first ∈ w.readings.getLast?, _))

theorem Phase.act (ho : o.Favours) (hlate : Late records w) (h : Phase c records w [f] results) :
    Phase c records { w.act o f with flight := none } (w.act o f).flight.toList
      (f.rest.result?.toList ++ results) := by
  cases h with
  | begun hstore hposts hreadings hrest => exact act_begun hrest hstore hposts hreadings
  | timed start hstore hposts hreadings hrest =>
    exact act_timed ho hrest hstore hposts hreadings
  | sending start sent todo hstore hposts hreadings hsplit hperforms =>
    have hclock : ∀ r ∈ records, r.updated.micros ≤ start.micros :=
      hlate start (by rw [hreadings]; rfl)
    exact act_sending ho hclock hstore hposts hreadings hsplit hperforms
  | confirmed hstore hposts hperforms => exact act_confirmed ho hstore hposts hperforms
  | drained k hstore hposts _ hrest => exact act_drained ho hstore hposts (hrest f (by simp))

theorem Phase.not_overflow (h : Phase c records w [f] results) : f.rest ≠ .overflow := by
  intro hrest
  cases h with
  | begun _ _ _ hflush => simp [hrest, Flush.flush_eq] at hflush
  | timed start _ _ _ hselect => simp [hrest] at hselect
  | sending start sent todo _ _ _ _ hperforms =>
    rw [hrest] at hperforms
    exact hperforms
  | confirmed _ _ hperforms =>
    rw [hrest] at hperforms
    exact hperforms
  | drained k _ _ _ hcases =>
    rcases hcases f (by simp) with hflush | ⟨start, hselect⟩ | hperforms
    · simp [hrest, Flush.flush_eq] at hflush
    · simp [hrest] at hselect
    · rw [hrest] at hperforms
      exact hperforms

theorem isNone_flight_act (w : World) (o : Outside) (h : f.rest ≠ .overflow) :
    (w.act o f).flight.isNone = f.rest.result?.isSome := by
  unfold World.act
  cases hrest : f.rest with
  | overflow => exact absurd hrest h
  | _ => simp [Procedure.result?]

theorem readings_act (w : World) (o : Outside) (f : Flight) :
    w.readings <:+ (w.act o f).readings := by
  unfold World.act
  cases f.rest with
  | readClock next => exact List.suffix_cons _ _
  | _ => exact List.suffix_refl _

/-- What a move may come to. -/
inductive Moved (c : PusherConfig) (p : Overlap) (move : Move) : Overlap → Prop
  | called : Moved c p move { p with calls := p.calls ++ [.waiting] }
  | locked {i : Nat} : p.calls[i]? = some .waiting → p.locked = false →
    Moved c p move { p with
      locked := true
      calls := p.calls.set i (.running ⟨Flush.flush c, .blank, []⟩) }
  | acted {i : Nat} {o : Outside} {f : Flight} : move = .act i o →
    p.calls[i]? = some (.running f) →
    Moved c p move {
      world := { p.world.act o f with flight := none }
      locked := (p.world.act o f).flight.isSome && p.locked
      calls := p.calls.set i (.ofFlight (p.world.act o f).flight)
      results := f.rest.result?.toList ++ p.results }
  | still : Moved c p move p

theorem moved_next (c : PusherConfig) (p : Overlap) (move : Move) :
    Moved c p move (p.next c move) := by
  cases move with
  | call => exact .called
  | lock i =>
    simp only [next]
    split
    next hwaits =>
      split
      next => exact .still
      next hfree => exact .locked hwaits (Bool.eq_false_iff.mpr hfree)
    next => exact .still
  | act i o =>
    simp only [next]
    split
    next f hruns => exact .acted rfl hruns
    next => exact .still

theorem Moved.readings {p p' : Overlap} {move : Move} (h : Moved c p move p') :
    p.world.readings <:+ p'.world.readings := by
  cases h with
  | acted _ _ => exact readings_act p.world _ _
  | called | locked | still => exact List.suffix_refl _

theorem Late.of_suffix {w' : World} (h : Late records w') (hsuffix : w.readings <:+ w'.readings) :
    Late records w := by
  obtain ⟨later, hreadings⟩ := hsuffix
  intro first hfirst
  refine h first ?_
  rw [← hreadings, List.getLast?_append, hfirst]
  rfl

theorem exists_split {calls : List Stage} {i : Nat} {stage : Stage} (h : calls[i]? = some stage) :
    ∃ before after, calls = before ++ stage :: after ∧
      ∀ stage', calls.set i stage' = before ++ stage' :: after := by
  obtain ⟨hi, rfl⟩ := List.getElem?_eq_some_iff.mp h
  refine ⟨calls.take i, calls.drop (i + 1), ?_, fun stage' => ?_⟩
  · rw [← List.drop_eq_getElem_cons hi, List.take_append_drop]
  · rw [List.set_eq_take_append_cons_drop, if_pos hi]

/-- The lock is taken exactly while a call is under way, and all calls that have ended have results. -/
structure Sound (c : PusherConfig) (records : List Record) (p : Overlap) : Prop where
  phase : Phase c records p.world p.running p.results
  locked : p.locked = !p.running.isEmpty
  ended : p.results.length = p.calls.countP Stage.isEnded

theorem Sound.lock {p : Overlap} (h : Sound c records p) {i : Nat}
    (hwaits : p.calls[i]? = some .waiting) (hfree : p.locked = false) :
    Sound c records { p with
      locked := true
      calls := p.calls.set i (.running ⟨Flush.flush c, .blank, []⟩) } := by
  obtain ⟨before, after, hcalls, hset⟩ := exists_split hwaits
  have hidle : p.running = [] := by simpa [hfree] using h.locked
  have hnone : before.filterMap Stage.flight? = [] ∧ after.filterMap Stage.flight? = [] := by
    simpa [running, hcalls, Stage.flight?] using hidle
  have hrunning : (p.calls.set i (.running ⟨Flush.flush c, .blank, []⟩)).filterMap Stage.flight? =
      [⟨Flush.flush c, .blank, []⟩] := by
    simp [hset, Stage.flight?, hnone]
  refine ⟨?_, ?_, ?_⟩
  · have hphase := h.phase
    rw [hidle] at hphase
    simp only [running, hrunning]
    exact hphase.lock
  · simp only [running, hrunning]
    rfl
  · have hended := h.ended
    rw [hcalls, List.countP_append, List.countP_cons] at hended
    simp only [hset, List.countP_append, List.countP_cons]
    exact hended

theorem Sound.act {p : Overlap} (h : Sound c records p) (hlate : Late records p.world)
    (ho : o.Favours) {i : Nat} (hruns : p.calls[i]? = some (.running f)) :
    Sound c records {
      world := { p.world.act o f with flight := none }
      locked := (p.world.act o f).flight.isSome && p.locked
      calls := p.calls.set i (.ofFlight (p.world.act o f).flight)
      results := f.rest.result?.toList ++ p.results } := by
  obtain ⟨before, after, hcalls, hset⟩ := exists_split hruns
  have hall : p.running = before.filterMap Stage.flight? ++ f :: after.filterMap Stage.flight? := by
    simp [running, hcalls, Stage.flight?]
  have hnone : before.filterMap Stage.flight? = [] ∧ after.filterMap Stage.flight? = [] := by
    have hlength := h.phase.length_le_one
    rw [hall, List.length_append, List.length_cons] at hlength
    exact ⟨List.length_eq_zero_iff.mp (by omega), List.length_eq_zero_iff.mp (by omega)⟩
  have hphase : Phase c records p.world [f] p.results := by
    have hphase := h.phase
    rw [hall, hnone.1, hnone.2] at hphase
    exact hphase
  have hrunning : (p.calls.set i (.ofFlight (p.world.act o f).flight)).filterMap Stage.flight? =
      (p.world.act o f).flight.toList := by
    rw [hset, List.filterMap_append, List.filterMap_cons, hnone.1, hnone.2]
    cases (p.world.act o f).flight <;> rfl
  have hresult := isNone_flight_act p.world o hphase.not_overflow
  refine ⟨?_, ?_, ?_⟩
  · simp only [running, hrunning]
    exact hphase.act ho hlate
  · have hlocked : p.locked = true := by simp [h.locked, hall]
    simp only [running, hrunning, hlocked]
    cases (p.world.act o f).flight <;> rfl
  · have hended := h.ended
    rw [hcalls, List.countP_append, List.countP_cons] at hended
    simp only [hset, List.countP_append, List.countP_cons, List.length_append]
    cases hflight : (p.world.act o f).flight <;> cases hrest : f.rest.result? <;>
      simp_all [Stage.ofFlight, Stage.isEnded]
    omega

theorem Reached.sound {store : Store} {p : Overlap} (hp : Reached c store p)
    (hstore : Flush.Deliverable store records) (hlate : Late records p.world) :
    Sound c records p := by
  induction hp with
  | start => exact ⟨.idle hstore rfl rfl, rfl, rfl⟩
  | @next p move _ hfavoured ih =>
    have hmoved := moved_next c p move
    have h := ih (hlate.of_suffix hmoved.readings)
    have hbefore := hlate.of_suffix hmoved.readings
    generalize p.next c move = p' at hmoved
    cases hmoved with
    | called =>
      have hrunning : (p.calls ++ [Stage.waiting]).filterMap Stage.flight? = p.running := by
        rw [List.filterMap_append]
        exact List.append_nil _
      refine ⟨?_, ?_, ?_⟩
      · simp only [running, hrunning]
        exact h.phase
      · simp only [running, hrunning]
        exact h.locked
      · simpa [Stage.isEnded] using h.ended
    | locked hwaits hfree => exact h.lock hwaits hfree
    | acted hmove hruns =>
      subst hmove
      exact h.act hbefore hfavoured hruns
    | still => exact h

def delivered : Except PushError Report → Nat
  | .ok report => report.delivered
  | .error _ => 0

/-- What calls come to of which one has ended: each batch has been said by one request, each record
is in one batch, and the reports add up to the records; or a batch too long for a body stops every
call behind the batches before it. -/
inductive Settles (c : PusherConfig) (records : List Record) (p : Overlap) : Prop
  | sent : List.Forall₂ (Flush.Says c.stem) (pack c.maxBytes records)
      (p.world.posts.map (·.1)).reverse →
    p.world.posts.length = (pack c.maxBytes records).length →
    (∀ r ∈ records, (pack c.maxBytes records).countP (fun batch => r ∈ batch) = 1) →
    (∀ result ∈ p.results, ∃ report, result = .ok report) →
    (p.results.map delivered).sum = records.length → Settles c records p
  | tooLong {batches rest : List (List Record)} {long : List Record} :
    pack c.maxBytes records = batches ++ long :: rest →
    4294967295 < Snappy.maxLength (Wire.writeRequest (seriesOf c.stem long)).length →
    List.Forall₂ (Flush.Says c.stem) batches (p.world.posts.map (·.1)).reverse →
    (∀ result ∈ p.results, result = .error .compress) → Settles c records p

theorem Sound.settles {p : Overlap} (h : Sound c records p) (hnodup : records.Nodup)
    (hsome : p.results ≠ []) : Settles c records p := by
  obtain ⟨hposts, k, hresults⟩ := h.phase.results_eq hsome
  have hsays := Flush.says_bodies c records
  rw [← List.reverse_reverse (Flush.bodies c records), ← hposts] at hsays
  have hall : ∀ result ∈ p.results, result = Flush.resultOf c (Flush.behind c records) ∨
      result = Flush.resultOf c records := by
    intro result hresult
    rw [hresults] at hresult
    exact (List.mem_append.mp hresult).imp List.eq_of_mem_replicate List.mem_singleton.mp
  by_cases hbehind : Flush.behind c records = []
  · have hresult : Flush.resultOf c records = .ok (Flush.reportOf c records) := if_pos hbehind
    have hrest : Flush.resultOf c (Flush.behind c records) = .ok (Flush.reportOf c []) := by
      rw [hbehind]
      rfl
    rw [Flush.leading_eq_pack hbehind] at hsays
    refine .sent hsays ?_ (fun r hr => countP_pack hnodup hr) ?_ ?_
    · simpa using hsays.length_eq.symm
    · intro result hmem
      rcases hall result hmem with rfl | rfl
      · exact ⟨_, hrest⟩
      · exact ⟨_, hresult⟩
    · rw [hresults, hresult, hrest]
      simp [delivered, Flush.reportOf]
  · obtain ⟨long, rest, hpack, hlong⟩ := Flush.exists_tooLong hbehind
    refine .tooLong hpack hlong hsays ?_
    intro result hmem
    rcases hall result hmem with rfl | rfl
    · rw [Flush.resultOf, Flush.behind_behind, if_neg hbehind]
    · exact if_neg hbehind

theorem Reached.run {store : Store} {p : Overlap} (hp : Reached c store p) {moves : List Move}
    (h : ∀ move ∈ moves, move.Favoured) : Reached c store (moves.foldl (Overlap.next c) p) := by
  induction moves generalizing p with
  | nil => exact hp
  | cons move moves ih =>
    obtain ⟨hmove, hmoves⟩ := List.forall_mem_cons.mp h
    exact ih (hp.next move hmove) hmoves

end Overlap

end ClusterOutbox
