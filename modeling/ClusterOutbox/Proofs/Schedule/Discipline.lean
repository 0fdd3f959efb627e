import ClusterOutbox.Proofs.Schedule.Rounds

namespace ClusterOutbox

namespace Chronicle

open Relation (ReflTransGen)

variable {j : Job} {start : Nat} {t t' : Timeline} {c c' : Chronicle} {l : Loop}

/-- What is yet to come where nobody has a turn to take. A loop at rest has not been signalled, and
since its last tick began, whatever that tick did, less than a period has passed; a run under way has
not come to its end; and what has closed has ended. -/
def Pending (start period : Nat) (t : Timeline) (c : Chronicle) : Stage → Prop
  | .resting => c.signalledAt? = none ∧ t.now < c.lastTick start + period
  | .running _ began action => ∀ time ∈ c.endsAt? began action, t.now < time
  | .closed | .stopped => t.isEnded 0 = true

theorem Sound.pending {stage : Stage} (hs : Sound j start t c l) (hidle : t.queue = [])
    (hstanding : Standing start j.period t c l.phase stage) : Pending start j.period t c stage := by
  have hmem {turn : Turn} : turn ∉ t.queue := by simp [hidle]
  generalize hphase : l.phase = phase at hstanding
  cases hstanding with
  | begun _ _ hturn => exact absurd hturn hmem
  | idle _ hlate _ hturn =>
    have hnot : ¬ c.signalledAt?.isSome = true := fun h => hmem (hturn (.inr h))
    have hlt := Nat.lt_of_not_le fun hdue => hmem (hturn (.inl hdue))
    exact ⟨by simpa using hnot, Nat.lt_of_lt_of_le hlt hlate⟩
  | tickReady _ _ _ _ hturn => exact absurd hturn hmem
  | hookReady _ hturn => exact absurd hturn hmem
  | asleep _ _ hturn =>
    rintro time ⟨rfl⟩
    exact Nat.lt_of_not_le fun hdue => hmem (hturn hdue).2
  | awaiting _ _ hturn =>
    intro time htime
    obtain ⟨at_, hat, -⟩ := Option.map_eq_some_iff.mp htime
    exact absurd (hturn at_ hat).2 hmem
  | returned _ hturn => exact absurd hturn hmem
  | ended hstage =>
    have hended : t.isEnded 0 = true := by
      rw [Timeline.isEnded, hs.loops]
      simp [Loop.isEnded, hphase]
    rcases hstage with rfl | rfl <;> exact hended

/-- The discipline of a loop that runs a job. -/
structure Disciplined (j : Job) (start : Nat) (t : Timeline) (c : Chronicle) : Prop where
  /-- What has happened is what the job has noted of its runs. -/
  notes : t.job.notes = c.log.reverse ++ j.notes
  actions : ∀ (part : Part) (n : Nat) (action : Action), (c.actions part)[n]? = some action →
    action = (part.script j)[n]?.getD .succeed
  sorted : c.Pairwise fun x y => x.1 ≤ y.1
  orderly : ∃ stage, Orderly (start + max j.interval 1) c stage ∧
    (t.queue = [] → Pending start (max j.interval 1) t c stage)
  /-- No two runs overlap. -/
  alone : ∀ (before after : Chronicle) (time : Nat) (part : Part) (action : Action)
    (signalled : Bool), c = before ++ (time, .begun part action signalled) :: after →
    before.begins = before.ends
  /-- Every run takes as long as its action says, also where the signal comes while it is under way. -/
  whole : ∀ (before after : Chronicle) (time : Nat) (part : Part) (note : Option Note),
    c = before ++ (time, .ended part note) :: after →
    ∃ began action, Orderly (start + max j.interval 1) before (.running part began action) ∧
      before.endsAt? began action = some time ∧ note = part.endNote? action
  /-- Ticks begin neither before a whole interval has passed nor after the signal. -/
  ticks : ∀ (time : Nat) (action : Action) (signalled : Bool),
    (time, .begun .tick action signalled) ∈ c →
    start + max j.interval 1 ≤ time ∧ ∀ at_ ∈ c.signalledAt?, time ≤ at_
  /-- Whatever ticks have come to, the next one begins a period after the last one, or when that one has
  ended. -/
  goesOn : ∀ (t' : Timeline) (c' : Chronicle), ReflTransGen Step (t, c) (t', c') → t'.queue = [] →
    c.signalledAt? = none → c.begins = c.ends → c.lastTick start + max j.interval 1 ≤ t'.now →
    ∃ new, c' = c ++ new ∧ ∃ time action signalled, (time, .begun .tick action signalled) ∈ new
  /-- Whoever stops the loop goes on after the hook, which has run once, when all ticks had ended. -/
  hook : ∀ time, (time, .stopped) ∈ c → t.isEnded 0 = true ∧
    ∃ (before : Chronicle) (began ended : Nat) (action : Action),
      c = before ++ [(began, .begun .hook action true), (ended, .ended .hook action.hookNote?),
        (time, .stopped)] ∧
      before.actions .hook = [] ∧ before.begins = before.ends ∧ before.signalledAt?.isSome = true
  /-- In whatever order turns are taken at one time, they come to an end, so that time goes on. -/
  rounds : Acc (fun m' m : Timeline × Chronicle => m.1.queue ≠ [] ∧ Step m m') (t, c)
  settle : ∃ c', ReflTransGen Step (t, c) (t.settle, c') ∧ t.settle.now = t.now ∧
    t.settle.queue = []
  time : ∀ time, ∃ c', ReflTransGen Step (t, c) (t.moveTo time, c') ∧
    (t.moveTo time).now = max t.now time
  /-- Whoever stops the loop does go on. -/
  stop : c.signalledAt? = none →
    ∃ c', ReflTransGen Step (t.signal 0, c ++ [(t.now, .signalled)]) (t.stop 0, c') ∧
      Reached j start (t.stop 0) (c' ++ [((t.stop 0).now, .stopped)])

theorem Sound.hook {time : Nat} (hs : Sound j start t c l) (hmem : (time, .stopped) ∈ c) :
    t.isEnded 0 = true ∧ ∃ (before : Chronicle) (began ended : Nat) (action : Action),
      c = before ++ [(began, .begun .hook action true), (ended, .ended .hook action.hookNote?),
        (time, .stopped)] ∧
      before.actions .hook = [] ∧ before.begins = before.ends ∧
      before.signalledAt?.isSome = true := by
  obtain ⟨stage, horderly, hstanding⟩ := hs.standing
  obtain rfl := horderly.of_mem_stopped hmem
  obtain ⟨hsome, before, began, ended, stopped, action, hc, hnone, hbefore⟩ := horderly.hookAt
  have hisEnded : t.isEnded 0 = true := by
    rw [Timeline.isEnded, hs.loops]
    exact hstanding.of_stopped
  have htime : time = stopped := by
    rw [hc] at hmem
    rcases List.mem_append.mp hmem with hold | hnew
    · cases hbefore.of_mem_stopped hold
    · simpa using hnew
  have hsignalled : before.signalledAt? = c.signalledAt? := by
    rw [hc, signalledAt?_append]
    exact (Option.or_none ..).symm
  refine ⟨hisEnded, before, began, ended, action, htime ▸ hc, hnone, hbefore.begins_eq, ?_⟩
  rw [hsignalled]
  exact hsome

theorem Reached.goesOn (h : Reached j start t c) (hsteps : ReflTransGen Step (t, c) (t', c'))
    (hidle : t'.queue = []) (hnone : c.signalledAt? = none) (hends : c.begins = c.ends)
    (htime : c.lastTick start + j.period ≤ t'.now) :
    ∃ new, c' = c ++ new ∧ ∃ time action signalled,
      (time, .begun .tick action signalled) ∈ new := by
  obtain ⟨hgrows, hsignalled, -⟩ := steps_chronicle hsteps
  obtain ⟨new, rfl⟩ := hgrows
  refine ⟨new, rfl, ?_⟩
  by_contra hnot
  have hnew (time : Nat) (action : Action) (signalled : Bool) :
      (time, .begun .tick action signalled) ∉ new := fun hmem => hnot ⟨time, action, signalled, hmem⟩
  obtain ⟨l, hs⟩ := (h.steps hsteps).sound
  obtain ⟨stage, horderly, hstanding⟩ := hs.standing
  obtain rfl := horderly.resting_of_append (hsignalled.trans hnone) hends hnew
  obtain ⟨-, hlt⟩ := hs.pending hidle hstanding
  rw [lastTick_append_of_not_mem start hnew] at hlt
  omega

/-- Whatever a job does, in whatever order turns are taken and whenever it is signalled, its loop is
disciplined. -/
theorem Reached.disciplined (h : Reached j start t c) : Disciplined j start t c := by
  obtain ⟨l, hs⟩ := h.sound
  obtain ⟨stage, horderly, hstanding⟩ := hs.standing
  refine ⟨hs.recorded.notes, hs.recorded.done, hs.timed.sorted, ?_, ?_, ?_, ?_, ?_, ?_,
    h.rounds, h.settle, h.moveTo, ?_⟩
  · exact ⟨stage, horderly, fun hidle => hs.pending hidle hstanding⟩
  · intro before after time part action signalled hc
    exact (horderly.begun hc).begins_eq
  · exact fun before after time part note => horderly.whole
  · intro time action signalled hmem
    exact horderly.tick_bounds hs.timed.sorted hmem
  · exact fun t' c' hsteps => h.goesOn hsteps
  · exact fun time hmem => hs.hook hmem
  · intro hnone
    obtain ⟨c', hsteps, hended⟩ := h.stop hnone
    have hsignalled : Reached j start (t.signal 0) (c ++ [(t.now, .signalled)]) := .signal h hnone
    refine ⟨c', hsteps, .stopped (hsignalled.steps hsteps) hended fun h hmem hstopped => ?_⟩
    have hold := (steps_chronicle hsteps).2.2 h hmem hstopped
    rcases List.mem_append.mp hold with hold | hnew
    · obtain ⟨time, _⟩ := h
      obtain rfl : _ = Happening.stopped := hstopped
      obtain rfl := horderly.of_mem_stopped hold
      exact absurd horderly.hookAt.1 (by simp [hnone])
    · rw [List.mem_singleton.mp hnew] at hstopped
      cases hstopped

/-- A tick panics, the next one is slow, and the loop is stopped while that one runs. -/
theorem disciplined_panicked_slow :
    let j : Job := ⟨10, [.panic, .sleep 100], [.sleep 5], []⟩
    let t : Timeline := ((Timeline.ofJob j).start.2.sleep 50).stop 0
    ∃ c, Reached j 0 t c ∧ (125, .stopped) ∈ c ∧
      t.job.notes = [(125, .hookDone), (120, .hook true), (120, .done), (20, .tick false),
        (10, .tick false)] ∧ Disciplined j 0 t c := by
  intro j t
  obtain ⟨c, hsteps, -⟩ := (@Reached.start j 0).moveTo 50
  have hslept : Reached j 0 ((Timeline.ofJob j).start.2.sleep 50) c := Reached.start.steps hsteps
  have hnone : c.signalledAt? = none := (steps_chronicle hsteps).2.1
  obtain ⟨c', -, hstopped⟩ := hslept.disciplined.stop hnone
  have hnow : t.now = 125 := by decide +kernel
  have hnotes : t.job.notes = [(125, .hookDone), (120, .hook true), (120, .done), (20, .tick false),
      (10, .tick false)] := by decide +kernel
  refine ⟨_, hstopped, ?_, hnotes, hstopped.disciplined⟩
  exact List.mem_append_right _ (List.mem_singleton.mpr (congrArg (fun now => (now, _)) hnow.symm))

end Chronicle

end ClusterOutbox
