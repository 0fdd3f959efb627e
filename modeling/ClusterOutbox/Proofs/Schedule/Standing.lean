import ClusterOutbox.Proofs.Schedule.Recorded

namespace ClusterOutbox

namespace Chronicle

variable {j job : Job} {start : Nat} {t : Timeline} {c : Chronicle} {l : Loop} {part : Part}

/-- What a part keeps in mind while it runs: when the next tick is due, or that there was a signal. -/
def Bounds (start period next : Nat) (c : Chronicle) (part : Part) : Prop :=
  match part with
  | .tick => start + period ≤ next ∧ next ≤ c.lastTick start + period
  | .hook => c.signalledAt?.isSome = true

/-- How a loop stands, with the turn or the alarm by which it will go on. -/
inductive Standing (start period : Nat) (t : Timeline) (c : Chronicle) : Phase → Stage → Prop
  | begun : t.now = start → c.lastTick start = start → .loop 0 ∈ t.queue →
    Standing start period t c .begun .resting
  | idle {due : Nat} :
    start + period ≤ due → due ≤ c.lastTick start + period →
    (t.now < due → (due, .loop 0) ∈ t.alarms) →
    (due ≤ t.now ∨ c.signalledAt?.isSome = true → .loop 0 ∈ t.queue) →
    Standing start period t c (.idle due true) .resting
  | tickReady {next : Nat} :
    start + period ≤ t.now → start + period ≤ next → next ≤ t.now + period →
    (∀ at_ ∈ c.signalledAt?, t.now ≤ at_) → .run 0 ∈ t.queue →
    Standing start period t c (.ticking next .begun) .resting
  | hookReady : c.signalledAt?.isSome = true → .run 0 ∈ t.queue →
    Standing start period t c (.closing .begun) .resting
  | asleep {part : Part} {next began ms : Nat} :
    Bounds start period next c part →
    (t.now < began + ms → (began + ms, .run 0) ∈ t.alarms) →
    (began + ms ≤ t.now → t.now = began + ms ∧ .run 0 ∈ t.queue) →
    Standing start period t c
      (part.phase next (.asleep (began + ms) (part.endNote? (.sleep ms))))
      (.running part began (.sleep ms))
  | awaiting {next began : Nat} :
    Bounds start period next c .tick → began ≤ t.now →
    (∀ at_ ∈ c.signalledAt?, t.now = at_ ∧ .run 0 ∈ t.queue) →
    Standing start period t c (.ticking next (.awaiting (Part.endNote? .tick .await)))
      (.running .tick began .await)
  | returned {part : Part} {next : Nat} :
    Bounds start period next c part → .loop 0 ∈ t.queue →
    Standing start period t c (part.phase next .returned) part.after
  | ended {stage : Stage} : stage = .closed ∨ stage = .stopped →
    Standing start period t c .ended stage

/-- What holds of a loop whatever it does. -/
structure Sound (j : Job) (start : Nat) (t : Timeline) (c : Chronicle) (l : Loop) : Prop where
  loops : t.loops = [l]
  recorded : Recorded j t.job c
  timed : Timed t c
  signalled : l.shutdown.signalled = c.signalledAt?.isSome
  standing : ∃ stage, Orderly (start + j.period) c stage ∧
    Standing start j.period t c l.phase stage

theorem Standing.of_ended {period : Nat} {stage : Stage}
    (h : Standing start period t c .ended stage) : stage = .closed ∨ stage = .stopped := by
  generalize hphase : Phase.ended = phase at h
  cases h with
  | ended hstage => exact hstage
  | @asleep part => cases part <;> cases hphase
  | @returned part => cases part <;> cases hphase
  | begun | idle | tickReady | hookReady | awaiting => cases hphase

theorem Standing.of_stopped {period : Nat} (h : Standing start period t c l.phase .stopped) :
    l.isEnded = true := by
  generalize hstage : Stage.stopped = stage at h
  generalize hphase : l.phase = phase at h
  cases h with
  | ended => simp [Loop.isEnded, hphase]
  | @returned part => cases part <;> cases hstage
  | begun | idle | tickReady | hookReady | asleep | awaiting => cases hstage

theorem Standing.of_returned {period next : Nat} {stage : Stage}
    (h : Standing start period t c (part.phase next .returned) stage) : .loop 0 ∈ t.queue := by
  generalize hphase : part.phase next .returned = phase at h
  cases h with
  | returned _ hturn => exact hturn
  | @asleep part' => cases part <;> cases part' <;> cases hphase
  | begun | idle | tickReady | hookReady | awaiting | ended => cases part <;> cases hphase

theorem Standing.rest {period due : Nat} {alarmed : Bool} (hperiod : 0 < period)
    (hearly : start + period ≤ due) (hlate : due ≤ c.lastTick start + period)
    (halarm : alarmed = true → t.now < due → (due, .loop 0) ∈ t.alarms)
    (hsignalled : l.shutdown.signalled = c.signalledAt?.isSome) :
    Standing start period (t.wake 0 (l.rest t.now period due alarmed).2) c
      (l.rest t.now period due alarmed).1.phase .resting := by
  rcases l.rest_cases t.now period due alarmed with
    ⟨hs, hrest⟩ | ⟨hs, hdue, hrest⟩ | ⟨hs, hdue, hrest⟩
  · rw [hrest]
    refine .hookReady (hsignalled.symm.trans hs) ?_
    rw [Timeline.mem_queue_wake]
    exact .inr (.inr ⟨rfl, rfl⟩)
  · have hnone : c.signalledAt? = none := by
      rw [hsignalled] at hs
      simpa using hs
    have hnext : due < Loop.nextDue period due t.now := Loop.lt_nextDue hperiod
    have hnext' : Loop.nextDue period due t.now ≤ t.now + period := Loop.nextDue_le hdue
    rw [hrest]
    refine .tickReady ?_ ?_ ?_ ?_ ?_
    · rw [Timeline.now_wake]
      omega
    · omega
    · rw [Timeline.now_wake]
      exact hnext'
    · simp [hnone]
    · rw [Timeline.mem_queue_wake]
      exact .inr (.inr ⟨rfl, rfl⟩)
  · rw [hrest]
    refine .idle hearly hlate ?_ ?_
    · intro _
      rw [Timeline.mem_alarms_wake]
      cases alarmed with
      | true => exact .inl (halarm rfl hdue)
      | false => exact .inr (.inl ⟨due, rfl, rfl⟩)
    · rw [Timeline.now_wake, ← hsignalled, hs]
      rintro (hle | hfalse)
      · omega
      · cases hfalse

theorem Bounds.concat {period next time : Nat} {h : Happening} (hc : Bounds start period next c part)
    (hbegun : ∀ part action signalled, h ≠ .begun part action signalled) :
    Bounds start period next (c ++ [(time, h)]) part := by
  cases part with
  | tick =>
    have hlast : lastTick start (c ++ [(time, h)]) = lastTick start c := by
      rw [lastTick_concat]
      split
      next part action signalled => exact absurd rfl (hbegun _ _ _)
      next => rfl
    exact ⟨hc.1, hlast ▸ hc.2⟩
  | hook =>
    have hsome : c.signalledAt?.isSome = true := hc
    change (signalledAt? (c ++ [(time, h)])).isSome = true
    rw [signalledAt?_concat, Option.isSome_or, hsome, Bool.true_or]

theorem Standing.finished {period next : Nat} (note : Option Note)
    (hbounds : Bounds start period next c part) :
    Standing start period (t.wake 0 Run.returned.wake?) (c ++ [(t.now, .ended part note)])
      (part.phase next .returned) part.after := by
  refine .returned (hbounds.concat (by simp)) ?_
  rw [Timeline.mem_queue_wake]
  exact .inr (.inl ⟨rfl, rfl⟩)

theorem Standing.launched {earliest period next : Nat} {action : Action} {signalled : Bool}
    {run : Run} {job' : Job}
    (hstart : Run.start t.now signalled action (part.endNote? action) job = (run, job'))
    (hsignalled : signalled = c.signalledAt?.isSome) (hpast : ∀ at_ ∈ c.signalledAt?, at_ ≤ t.now)
    (hhook : part = .hook → signalled = true)
    (hbounds : Bounds start period next (c ++ [(t.now, .begun part action signalled)]) part)
    (horderly : Orderly earliest (c ++ [(t.now, .begun part action signalled)])
      (.running part t.now action))
    (hrecorded : Recorded j job (c ++ [(t.now, .begun part action signalled)])) :
    let c' := c ++ (Happening.begun part action signalled ::
      run.ending part (part.endNote? action)).map fun h => (t.now, h)
    Recorded j job' c' ∧ ∃ stage, Orderly earliest c' stage ∧
      Standing start period (t.wake 0 run.wake?) c' (part.phase next run) stage := by
  have hsame : signalledAt? (c ++ [(t.now, .begun part action signalled)]) = c.signalledAt? := by
    rw [signalledAt?_concat_of_ne _ _ (by simp)]
  rcases Run.start_cases t.now signalled action (part.endNote? action) job with
    ⟨himmediate, hreturned⟩ | ⟨ms, hms, rfl, hasleep⟩ | ⟨rfl, hs, hawaiting⟩
  · obtain ⟨rfl, rfl⟩ := Prod.mk.inj (hstart.symm.trans hreturned)
    have hends : endsAt? (c ++ [(t.now, .begun part action signalled)]) t.now action =
        some t.now := by
      match action with
      | .succeed | .fail | .panic => rfl
      | .sleep ms =>
        obtain rfl : ms = 0 := himmediate
        rfl
      | .await =>
        obtain ⟨at_, hat⟩ := Option.isSome_iff_exists.mp (hsignalled.symm.trans himmediate)
        change (signalledAt? _).map _ = _
        rw [hsame, hat, Option.map_some, Nat.max_eq_left (hpast at_ hat)]
    have hrecorded' := hrecorded.ended part t.now (part.endNote? action)
    have horderly' := horderly.ended hends
    have hstanding := Standing.finished (t := t) (part.endNote? action) hbounds
    rw [List.append_assoc] at hrecorded' horderly' hstanding
    exact ⟨hrecorded', _, horderly', hstanding⟩
  · obtain ⟨rfl, rfl⟩ := Prod.mk.inj (hstart.symm.trans hasleep)
    refine ⟨hrecorded, _, horderly, .asleep hbounds ?_ ?_⟩
    · intro _
      rw [Timeline.mem_alarms_wake]
      exact .inr (.inr ⟨_, rfl, rfl⟩)
    · rw [Timeline.now_wake]
      omega
  · obtain ⟨rfl, rfl⟩ := Prod.mk.inj (hstart.symm.trans hawaiting)
    have hnone : c.signalledAt? = none := by
      rw [hsignalled] at hs
      simpa using hs
    refine ⟨hrecorded, _, horderly, ?_⟩
    cases part with
    | tick =>
      refine .awaiting hbounds (Nat.le_of_eq (Timeline.now_wake _ _ _).symm) ?_
      intro at_ hat
      have hnot : signalledAt? (c ++ [(t.now, .begun .tick .await signalled)]) = some at_ := hat
      rw [hsame, hnone] at hnot
      cases hnot
    | hook => exact absurd (hhook rfl) (by simp [hs])

theorem Sound.served {turn : Turn} {next : Option Wake} {l' : Loop} {stage : Stage}
    {c' : Chronicle} (hs : Sound j start t c l) (new : List Happening)
    (hc : c' = c ++ new.map fun h => (t.now, h))
    (hnew : signalledAt? (new.map fun h => (t.now, h)) = none)
    (hnext : ∀ time, next = some (.loopAt time) ∨ next = some (.runAt time) → t.now < time)
    (hshutdown : l'.shutdown = l.shutdown)
    (hrecorded : Recorded j job c')
    (horderly : Orderly (start + j.period) c' stage)
    (hstanding : Standing start j.period
      ({ t with queue := t.queue.erase turn, job := job, loops := [l'] }.wake 0 next)
      c' l'.phase stage) :
    Sound j start ({ t with queue := t.queue.erase turn, job := job, loops := [l'] }.wake 0 next)
      c' l' where
  loops := Timeline.loops_wake _ _ _
  recorded := by rwa [Timeline.job_wake]
  timed := hc ▸ (hs.timed.append new).wake next rfl rfl List.erase_sublist hnext
  signalled := by
    rw [hc, signalledAt?_append, hnew, Option.or_none, hshutdown, hs.signalled]
  standing := ⟨stage, horderly, hstanding⟩

theorem Sound.rests (hs : Sound j start t c l) (due : Nat) (alarmed : Bool)
    (horderly : Orderly (start + j.period) c .resting)
    (hturn : l.turn t.now t.job.period = l.rest t.now t.job.period due alarmed)
    (hearly : start + j.period ≤ due) (hlate : due ≤ c.lastTick start + j.period)
    (halarm : alarmed = true → t.now < due → (due, .loop 0) ∈ t.alarms) :
    ∃ l', Sound j start (t.serve (.loop 0)) c l' := by
  have hshutdown : (l.rest t.now j.period due alarmed).1.shutdown = l.shutdown := by
    rcases l.rest_cases t.now j.period due alarmed with
      ⟨-, hrest⟩ | ⟨-, -, hrest⟩ | ⟨-, -, hrest⟩ <;> rw [hrest]
  have hlater (time : Nat) (htime : (l.rest t.now j.period due alarmed).2 = some (.loopAt time) ∨
      (l.rest t.now j.period due alarmed).2 = some (.runAt time)) : t.now < time :=
    Loop.lt_of_rest htime
  have hstanding (t' : Timeline) (hnow : t'.now = t.now) (halarms : t'.alarms = t.alarms) :
      Standing start j.period (t'.wake 0 (l.rest t.now j.period due alarmed).2) c
        (l.rest t.now j.period due alarmed).1.phase .resting := by
    rw [← hnow]
    exact .rest j.period_pos hearly hlate (hnow.symm ▸ halarms.symm ▸ halarm) hs.signalled
  rw [hs.recorded.period] at hturn
  generalize l.rest t.now j.period due alarmed = turned at hturn hshutdown hlater hstanding
  obtain ⟨l', next⟩ := turned
  rw [Timeline.serve_loop hs.loops (hs.recorded.period.symm ▸ hturn)]
  exact ⟨l', hs.served [] (List.append_nil c).symm rfl hlater hshutdown hs.recorded
    horderly (hstanding _ rfl rfl)⟩

theorem Sound.still {turn : Turn} {stage : Stage} (hs : Sound j start t c l)
    (hserve : t.serve turn = { t with queue := t.queue.erase turn })
    (horderly : Orderly (start + j.period) c stage)
    (hstanding : Standing start j.period { t with queue := t.queue.erase turn } c l.phase stage) :
    ∃ l', Sound j start (t.serve turn) c l' := by
  refine ⟨l, ?_⟩
  rw [hserve]
  exact { hs with
    timed := hs.timed.wake none rfl rfl List.erase_sublist (by simp)
    standing := ⟨stage, horderly, hstanding⟩ }

theorem Sound.loopTurn (hs : Sound j start t c l) : ∃ l', Sound j start (t.serve (.loop 0)) c l' := by
  have herase (turn : Turn) (hne : turn ≠ .loop 0) (hmem : turn ∈ t.queue) :
      turn ∈ t.queue.erase (.loop 0) := (List.mem_erase_of_ne hne).mpr hmem
  have hstill (hturn : l.turn t.now t.job.period = (l, none)) :
      t.serve (.loop 0) = { t with queue := t.queue.erase (.loop 0) } := by
    rw [Timeline.serve_loop hs.loops hturn, ← hs.loops]
    rfl
  obtain ⟨stage, horderly, hstanding⟩ := hs.standing
  generalize hphase : l.phase = phase at hstanding
  cases hstanding with
  | begun hnow hlast _ =>
    refine hs.rests (t.now + j.period) false horderly ?_ ?_ ?_ (by simp)
    · rw [Loop.turn, hphase, hs.recorded.period]
    · omega
    · omega
  | idle hearly hlate halarm _ =>
    refine hs.rests _ true horderly ?_ hearly hlate fun _ => halarm
    rw [Loop.turn, hphase]
  | tickReady hnow hearly hlate hlast hqueue =>
    refine hs.still (hstill (by rw [Loop.turn, hphase])) horderly ?_
    rw [hphase]
    exact .tickReady hnow hearly hlate hlast (herase _ (by simp) hqueue)
  | hookReady hsignalled hqueue =>
    refine hs.still (hstill (by rw [Loop.turn, hphase])) horderly ?_
    rw [hphase]
    exact .hookReady hsignalled (herase _ (by simp) hqueue)
  | @asleep part next began ms hbounds halarm hqueue =>
    refine hs.still (hstill ?_) horderly ?_
    · cases part <;> rw [Loop.turn, hphase] <;> rfl
    · rw [hphase]
      exact .asleep hbounds halarm fun hle => (hqueue hle).imp id (herase _ (by simp))
  | awaiting hbounds hbegan hqueue =>
    refine hs.still (hstill (by rw [Loop.turn, hphase])) horderly ?_
    rw [hphase]
    exact .awaiting hbounds hbegan fun at_ hat => (hqueue at_ hat).imp id (herase _ (by simp))
  | @returned part next hbounds hqueue =>
    cases part with
    | tick =>
      refine hs.rests _ false horderly ?_ hbounds.1 hbounds.2 (by simp)
      rw [Loop.turn, hphase]
      rfl
    | hook =>
      have hturn : l.turn t.now t.job.period = ({ l with phase := .ended }, none) := by
        rw [Loop.turn, hphase]
        rfl
      rw [Timeline.serve_loop hs.loops hturn]
      exact ⟨_, hs.served [] (List.append_nil c).symm rfl (by simp) rfl hs.recorded
        horderly (.ended (.inl rfl))⟩
  | ended hstage =>
    refine hs.still (hstill (by rw [Loop.turn, hphase])) horderly ?_
    rw [hphase]
    exact .ended hstage

theorem Sound.launches (hs : Sound j start t c l) (part : Part) (next : Nat)
    (hphase : l.phase = part.phase next .begun) (hhook : part = .hook → l.shutdown.signalled = true)
    (hbounds : Bounds start j.period next
      (c ++ [(t.now, .begun part (part.action t.job) l.shutdown.signalled)]) part)
    (horderly : Orderly (start + j.period)
      (c ++ [(t.now, .begun part (part.action t.job) l.shutdown.signalled)])
      (.running part t.now (part.action t.job))) :
    ∃ l', Sound j start (t.serve (.run 0)) (c ++ (t.happenings (.run 0)).map fun h => (t.now, h))
      l' := by
  have hpast : ∀ at_ ∈ c.signalledAt?, at_ ≤ t.now := fun at_ hat =>
    hs.timed.past _ (mem_signalledAt? hat)
  have hturn := Loop.runTurn_begun t.now t.job hphase
  have hnew := Loop.happenings_run t.now t.job hphase
  have hrecorded := hs.recorded.begun part t.now l.shutdown.signalled
  have hlater (time : Nat) := @Run.lt_of_start t.now time l.shutdown.signalled (part.action t.job)
    (part.endNote? (part.action t.job)) (part.begin t.now l.shutdown.signalled t.job)
  rw [Run.happenings] at hnew
  generalize hstart : Run.start t.now l.shutdown.signalled (part.action t.job)
    (part.endNote? (part.action t.job)) (part.begin t.now l.shutdown.signalled t.job) = started
    at hturn hnew hlater
  obtain ⟨run, job'⟩ := started
  obtain ⟨hrecorded', stage, horderly', hstanding'⟩ := Standing.launched
    (t := { t with queue := t.queue.erase (.run 0), job := job',
                   loops := [{ l with phase := part.phase next run }] })
    hstart hs.signalled hpast hhook hbounds horderly hrecorded
  rw [Timeline.serve_run hs.loops hturn, Timeline.happenings_run hs.loops, hnew]
  refine ⟨_, hs.served _ rfl ?_ hlater rfl hrecorded' horderly' hstanding'⟩
  cases run <;> rfl

theorem Sound.finishes {next began : Nat} {run : Run} {action : Action}
    (hs : Sound j start t c l) (part : Part)
    (hphase : l.phase = part.phase next run) (hbegun : run ≠ .begun)
    (hresume : Run.resume t.now l.shutdown.signalled t.job run =
      (.returned, t.job.noteAny t.now (part.endNote? action)))
    (hnew : run.happenings part t.now l.shutdown.signalled t.job =
      [.ended part (part.endNote? action)])
    (hbounds : Bounds start j.period next c part)
    (horderly : Orderly (start + j.period) c (.running part began action))
    (hends : c.endsAt? began action = some t.now) :
    ∃ l', Sound j start (t.serve (.run 0)) (c ++ (t.happenings (.run 0)).map fun h => (t.now, h))
      l' := by
  have hturn := Loop.runTurn_resume part t.now t.job hphase hbegun
  rw [hresume] at hturn
  rw [Timeline.serve_run hs.loops hturn, Timeline.happenings_run hs.loops,
    Loop.happenings_run t.now t.job hphase, hnew]
  exact ⟨_, hs.served _ rfl rfl (by simp [Run.wake?]) rfl (hs.recorded.ended part t.now _)
    (horderly.ended hends) (Standing.finished _ hbounds)⟩

theorem Sound.runTurn (hs : Sound j start t c l) :
    ∃ l', Sound j start (t.serve (.run 0)) (c ++ (t.happenings (.run 0)).map fun h => (t.now, h))
      l' := by
  have herase (turn : Turn) (hne : turn ≠ .run 0) (hmem : turn ∈ t.queue) :
      turn ∈ t.queue.erase (.run 0) := (List.mem_erase_of_ne hne).mpr hmem
  have hstill (hturn : l.runTurn t.now t.job = (l, t.job, none)) :
      t.serve (.run 0) = { t with queue := t.queue.erase (.run 0) } := by
    rw [Timeline.serve_run hs.loops hturn, ← hs.loops]
    rfl
  have hnone (hnew : l.happenings t.now t.job = []) :
      c ++ (t.happenings (.run 0)).map (fun h => (t.now, h)) = c := by
    rw [Timeline.happenings_run hs.loops, hnew, List.map_nil, List.append_nil]
  obtain ⟨stage, horderly, hstanding⟩ := hs.standing
  generalize hphase : l.phase = phase at hstanding
  cases hstanding with
  | begun hnow hlast hqueue =>
    rw [hnone (by rw [Loop.happenings, hphase])]
    refine hs.still (hstill (by rw [Loop.runTurn, hphase])) horderly ?_
    rw [hphase]
    exact .begun hnow hlast (herase _ (by simp) hqueue)
  | idle hearly hlate halarm hqueue =>
    rw [hnone (by rw [Loop.happenings, hphase])]
    refine hs.still (hstill (by rw [Loop.runTurn, hphase])) horderly ?_
    rw [hphase]
    exact .idle hearly hlate halarm fun h => herase _ (by simp) (hqueue h)
  | @tickReady next hnow hearly hlate hlast _ =>
    refine hs.launches .tick next hphase (by simp) ⟨hearly, ?_⟩ ?_
    · rw [lastTick_concat]
      exact hlate
    · rw [hs.signalled]
      exact .tick horderly hnow hlast
  | hookReady hsignalled _ =>
    have hsome : l.shutdown.signalled = true := hs.signalled.trans hsignalled
    refine hs.launches .hook 0 hphase (fun _ => hsome) ?_ ?_
    · change (signalledAt? _).isSome = true
      rw [signalledAt?_concat, Option.isSome_or, hsignalled, Bool.true_or]
    · rw [hsome]
      exact .hook horderly hsignalled
  | @asleep part next began ms hbounds halarm hqueue =>
    by_cases hdue : began + ms ≤ t.now
    · have hends : c.endsAt? began (.sleep ms) = some t.now := congrArg some (hqueue hdue).1.symm
      refine hs.finishes part hphase (by simp) ?_ ?_ hbounds horderly hends
      · rw [Run.resume, if_pos hdue]
      · rw [Run.happenings, Run.resume, if_pos hdue]
        rfl
    · have hlt : t.now < began + ms := Nat.lt_of_not_le hdue
      have hturn := Loop.runTurn_resume part t.now t.job hphase (by simp)
      rw [Run.resume, if_neg hdue] at hturn
      have hnew : l.happenings t.now t.job = [] := by
        rw [Loop.happenings_run t.now t.job hphase, Run.happenings, Run.resume, if_neg hdue]
        rfl
      rw [hnone hnew, Timeline.serve_run hs.loops hturn]
      refine ⟨_, hs.served [] (List.append_nil c).symm rfl ?_ rfl hs.recorded horderly
        (.asleep hbounds ?_ ?_)⟩
      · simpa [Run.wake?] using hlt
      · intro _
        rw [Timeline.mem_alarms_wake]
        exact .inl (halarm hlt)
      · rw [Timeline.now_wake]
        exact fun h => absurd h hdue
  | @awaiting next began hbounds hbegan hqueue =>
    cases hsignalled : l.shutdown.signalled with
    | true =>
      obtain ⟨at_, hat⟩ := Option.isSome_iff_exists.mp (hs.signalled.symm.trans hsignalled)
      have hends : c.endsAt? began .await = some t.now := by
        rw [endsAt?, hat, Option.map_some, (hqueue at_ hat).1, Nat.max_eq_right]
        exact (hqueue at_ hat).1 ▸ hbegan
      refine hs.finishes .tick hphase (by simp) ?_ ?_ hbounds horderly hends
      · rw [hsignalled]
        rfl
      · rw [hsignalled]
        rfl
    | false =>
      have hnot : c.signalledAt? = none := by
        rw [hs.signalled] at hsignalled
        simpa using hsignalled
      have hturn : l.runTurn t.now t.job = (l, t.job, none) := by
        rw [Loop.runTurn_resume .tick t.now t.job hphase (by simp), hsignalled]
        exact congrArg (fun phase => (({ l with phase } : Loop), t.job, none)) hphase.symm
      have hnew : l.happenings t.now t.job = [] := by
        rw [Loop.happenings, hphase, hsignalled]
        rfl
      rw [hnone hnew]
      refine hs.still (hstill hturn) horderly ?_
      rw [hphase]
      exact .awaiting hbounds hbegan (by simp [hnot])
  | @returned part next hbounds hqueue =>
    have hturn := Loop.runTurn_resume part t.now t.job hphase (by simp)
    have hnew : l.happenings t.now t.job = [] := by
      rw [Loop.happenings_run t.now t.job hphase]
      rfl
    rw [hnone hnew, Timeline.serve_run hs.loops hturn]
    refine ⟨_, hs.served [] (List.append_nil c).symm rfl (by simp [Run.resume, Run.wake?])
      rfl hs.recorded horderly (.returned hbounds ?_)⟩
    rw [Timeline.mem_queue_wake]
    exact .inl (herase _ (by simp) hqueue)
  | ended hstage =>
    rw [hnone (by rw [Loop.happenings, hphase])]
    refine hs.still (hstill (by rw [Loop.runTurn, hphase])) horderly ?_
    rw [hphase]
    exact .ended hstage

/-- Time stops at the next alarm, so that whoever asked for it has a turn at its time. -/
theorem Sound.ring {time : Nat} (hs : Sound j start t c l) (hidle : t.queue = [])
    (hle : t.now ≤ time) (hnext : ∀ a ∈ t.alarms, time ≤ a.1) : Sound j start (t.ring time) c l := by
  obtain ⟨hnow, hjob, hloops, halarms, hqueue⟩ := t.ring_frame time
  rw [Nat.max_eq_right hle] at hnow
  have hmem {turn : Turn} : turn ∉ t.queue := by simp [hidle]
  have hkept {due : Nat} {turn : Turn} (ha : (due, turn) ∈ t.alarms) (hlt : time < due) :
      (due, turn) ∈ (t.ring time).alarms := by
    rw [halarms]
    exact List.mem_filter.mpr ⟨ha, by simpa using hlt⟩
  have hrung {due : Nat} {turn : Turn} (ha : (due, turn) ∈ t.alarms) (hdue : due ≤ time) :
      turn ∈ (t.ring time).queue := (hqueue turn).mpr (.inr ⟨_, ha, hdue, rfl⟩)
  refine ⟨hloops.trans hs.loops, ?_, hs.timed.ring hle, hs.signalled, ?_⟩
  · rw [hjob]
    exact hs.recorded
  · obtain ⟨stage, horderly, hstanding⟩ := hs.standing
    refine ⟨stage, horderly, ?_⟩
    generalize l.phase = phase at hstanding
    cases hstanding with
    | begun _ _ hturn => exact absurd hturn hmem
    | idle hearly hlate halarm hturn =>
      have hlt := Nat.lt_of_not_le fun hdue => hmem (hturn (.inl hdue))
      refine .idle hearly hlate ?_ ?_
      · rw [hnow]
        exact hkept (halarm hlt)
      · rw [hnow]
        rintro (hdue | hsignalled)
        · exact hrung (halarm hlt) hdue
        · exact absurd (hturn (.inr hsignalled)) hmem
    | tickReady _ _ _ _ hturn => exact absurd hturn hmem
    | hookReady _ hturn => exact absurd hturn hmem
    | @asleep part next began ms hbounds halarm hturn =>
      have hlt := Nat.lt_of_not_le fun hdue => hmem (hturn hdue).2
      refine .asleep hbounds ?_ ?_
      · rw [hnow]
        exact hkept (halarm hlt)
      · rw [hnow]
        intro hdue
        exact ⟨Nat.le_antisymm (hnext _ (halarm hlt)) hdue, hrung (halarm hlt) hdue⟩
    | awaiting hbounds hbegan hturn =>
      refine .awaiting hbounds ?_ fun at_ hat => absurd (hturn at_ hat).2 hmem
      rw [hnow]
      exact Nat.le_trans hbegan hle
    | returned _ hturn => exact absurd hturn hmem
    | ended hstage => exact .ended hstage

theorem Sound.signal (hs : Sound j start t c l) (hnone : c.signalledAt? = none) :
    Sound j start (t.signal 0) (c ++ [(t.now, .signalled)]) l.signal.1 := by
  have hat : signalledAt? (c ++ [(t.now, .signalled)]) = some t.now := by
    rw [signalledAt?_concat, hnone, if_pos rfl, Option.none_or]
  have hnext (time : Nat) : l.signal.2 ≠ some (.loopAt time) ∧ l.signal.2 ≠ some (.runAt time) := by
    unfold Loop.signal
    dsimp only
    split <;> simp
  have hbounds {period next : Nat} (part : Part) (hold : Bounds start period next c part) :
      Bounds start period next (c ++ [(t.now, .signalled)]) part := hold.concat (by simp)
  rw [Timeline.signal_loop hs.loops]
  refine ⟨Timeline.loops_wake _ _ _, ?_, ?_, ?_, ?_⟩
  · rw [Timeline.job_wake]
    exact hs.recorded.quiet rfl fun _ => rfl
  · refine (hs.timed.append [.signalled]).wake _ rfl rfl (List.Sublist.refl _) fun time htime => ?_
    exact (htime.elim (hnext time).1 (hnext time).2).elim
  · rw [hat]
    rfl
  · obtain ⟨stage, horderly, hstanding⟩ := hs.standing
    refine ⟨stage, horderly.signalled hnone, ?_⟩
    generalize hphase : l.phase = phase at hstanding
    change Standing start j.period _ _ l.phase stage
    rw [hphase]
    have hkept {turn : Turn} (hturn : turn ∈ t.queue) :
        turn ∈ ({ t with loops := [l.signal.1] }.wake 0 l.signal.2).queue :=
      Timeline.mem_queue_wake.mpr (.inl hturn)
    cases hstanding with
    | begun hnow hlast hturn =>
      refine .begun ?_ ?_ (hkept hturn)
      · rw [Timeline.now_wake, hnow]
      · rw [lastTick_concat]
        exact hlast
    | idle hearly hlate halarm hturn =>
      refine .idle hearly ?_ ?_ ?_
      · rw [lastTick_concat]
        exact hlate
      · rw [Timeline.now_wake, Timeline.mem_alarms_wake]
        exact fun hlt => .inl (halarm hlt)
      · have hwake : l.signal.2 = some .loop := by rw [Loop.signal, hphase]
        rw [Timeline.mem_queue_wake]
        exact fun _ => .inr (.inl ⟨hwake, rfl⟩)
    | tickReady hnow hearly hlate hlast hturn =>
      refine .tickReady ?_ hearly ?_ ?_ (hkept hturn)
      · rwa [Timeline.now_wake]
      · rwa [Timeline.now_wake]
      · rw [hat, Timeline.now_wake]
        rintro at_ ⟨rfl⟩
        exact Nat.le_refl _
    | hookReady hsignalled hturn => simp [hnone] at hsignalled
    | asleep hold halarm hturn =>
      refine .asleep (hbounds _ hold) ?_ ?_
      · rw [Timeline.now_wake, Timeline.mem_alarms_wake]
        exact fun hlt => .inl (halarm hlt)
      · rw [Timeline.now_wake]
        exact fun hdue => (hturn hdue).imp id hkept
    | awaiting hold hbegan _ =>
      refine .awaiting (hbounds .tick hold) ?_ ?_
      · rwa [Timeline.now_wake]
      · rw [hat, Timeline.now_wake]
        rintro at_ ⟨rfl⟩
        have hwake : l.signal.2 = some .run := by rw [Loop.signal, hphase]
        exact ⟨rfl, Timeline.mem_queue_wake.mpr (.inr (.inr ⟨hwake, rfl⟩))⟩
    | returned hold hturn => exact .returned (hbounds _ hold) (hkept hturn)
    | ended hstage => exact .ended hstage

theorem Sound.stopped (hs : Sound j start t c l) (hended : t.isEnded 0 = true)
    (hfirst : ∀ h ∈ c, h.2 ≠ .stopped) : Sound j start t (c ++ [(t.now, .stopped)]) l := by
  have hphase : l.phase = .ended := by
    rw [Timeline.isEnded, hs.loops] at hended
    simpa [Loop.isEnded] using hended
  have hsame : signalledAt? (c ++ [(t.now, .stopped)]) = c.signalledAt? := by
    rw [signalledAt?_concat_of_ne _ _ (by simp)]
  obtain ⟨stage, horderly, hstanding⟩ := hs.standing
  rw [hphase] at hstanding
  have hclosed : stage = .closed := by
    refine hstanding.of_ended.resolve_right ?_
    rintro rfl
    obtain ⟨-, before, began, time, stopped, action, hc, -⟩ := horderly.hookAt
    refine hfirst (stopped, .stopped) ?_ rfl
    simp [hc]
  refine ⟨hs.loops, hs.recorded.quiet rfl fun _ => rfl, hs.timed.append [.stopped], ?_, ?_⟩
  · rw [hsame]
    exact hs.signalled
  · rw [hphase]
    exact ⟨_, (hclosed ▸ horderly).stopped, .ended (.inr rfl)⟩

theorem Sound.begun (j : Job) (start : Nat) :
    Sound j start { Timeline.ofJob j with now := start }.start.2 [] Loop.start where
  loops := rfl
  recorded := ⟨rfl, rfl, fun _ => rfl, by simp [actions]⟩
  timed := by
    refine ⟨?_, ?_, ?_, by simp, List.Pairwise.nil⟩
    all_goals simp [Timeline.start, Timeline.ofJob, Timeline.enqueue]
  signalled := rfl
  standing := ⟨_, .nil, .begun rfl rfl (by simp [Timeline.start, Timeline.ofJob, Timeline.enqueue])⟩

theorem Sound.step {t' : Timeline} {c' : Chronicle} (hs : Sound j start t c l)
    (h : Step (t, c) (t', c')) : ∃ l', Sound j start t' c' l' := by
  cases h with
  | @turn _ _ turn hturn =>
    rcases hs.timed.queue turn hturn with rfl | rfl
    · obtain ⟨l', hs'⟩ := hs.loopTurn
      rw [Timeline.happenings, List.map_nil, List.append_nil]
      exact ⟨l', hs'⟩
    · exact hs.runTurn
  | pass hidle hle hnext => exact ⟨l, hs.ring hidle hle hnext⟩

theorem Reached.sound (h : Reached j start t c) : ∃ l, Sound j start t c l := by
  induction h with
  | start => exact ⟨_, .begun j start⟩
  | step _ hstep ih =>
    obtain ⟨l, hs⟩ := ih
    exact hs.step hstep
  | signal _ hnone ih =>
    obtain ⟨l, hs⟩ := ih
    exact ⟨_, hs.signal hnone⟩
  | stopped _ hended hfirst ih =>
    obtain ⟨l, hs⟩ := ih
    exact ⟨l, hs.stopped hended hfirst⟩

end Chronicle

end ClusterOutbox
