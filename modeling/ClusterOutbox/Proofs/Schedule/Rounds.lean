import ClusterOutbox.Proofs.Schedule.Work
import Mathlib.Data.List.Perm.Subperm
import Mathlib.Logic.Relation

namespace ClusterOutbox

theorem Timeline.mem_happenings {t : Timeline} {turn : Turn} {h : Happening}
    (hmem : h ∈ t.happenings turn) : h ≠ .signalled ∧ h ≠ .stopped := by
  have hending (part : Part) (note : Option Note) (run : Run) (hmem : h ∈ run.ending part note) :
      h ≠ .signalled ∧ h ≠ .stopped := by
    cases run with
    | returned =>
      obtain rfl := List.mem_singleton.mp hmem
      exact ⟨by simp, by simp⟩
    | begun | asleep | awaiting => cases hmem
  have hrun (part : Part) (signalled : Bool) (run : Run)
      (hmem : h ∈ run.happenings part t.now signalled t.job) : h ≠ .signalled ∧ h ≠ .stopped := by
    cases run with
    | begun =>
      rcases List.mem_cons.mp hmem with rfl | hmem
      · exact ⟨by simp, by simp⟩
      · exact hending _ _ _ hmem
    | asleep | awaiting => exact hending _ _ _ hmem
    | returned => cases hmem
  cases turn with
  | loop => cases hmem
  | run i =>
    unfold Timeline.happenings at hmem
    dsimp only at hmem
    split at hmem
    next l _ =>
      unfold Loop.happenings at hmem
      split at hmem
      · exact hrun _ _ _ hmem
      · exact hrun _ _ _ hmem
      · cases hmem
    next => cases hmem

namespace Chronicle

open Relation (ReflTransGen)

variable {j : Job} {start : Nat} {t t' : Timeline} {c c' : Chronicle} {l l' : Loop}

theorem Sound.serve_work {turn : Turn} (hs : Sound j start t c l)
    (hs' : Sound j start (t.serve turn) c' l') (hturn : turn ∈ t.queue) :
    (l' = l ∨ l'.work t.now < l.work t.now) ∧ (t.serve turn).now = t.now ∧
      (t.serve turn).queue.length + l'.work t.now < t.queue.length + l.work t.now := by
  have hlength : (t.queue.erase turn).length + 1 = t.queue.length := by
    rw [List.length_erase_of_mem hturn]
    exact Nat.sub_add_cancel (List.length_pos_of_mem hturn)
  have hloops := hs'.loops
  rcases hs.timed.queue turn hturn with rfl | rfl
  · have hwork := l.turn_work t.job.period_pos t.now
    generalize hnext : l.turn t.now t.job.period = turned at hwork
    obtain ⟨l₁, next⟩ := turned
    rw [Timeline.serve_loop hs.loops hnext] at hloops ⊢
    rw [Timeline.loops_wake] at hloops
    obtain rfl : l₁ = l' := by simpa using hloops
    rw [Timeline.now_wake]
    rcases hwork with hsame | hlt
    · obtain ⟨rfl, rfl⟩ := Prod.mk.inj hsame
      refine ⟨.inl rfl, rfl, ?_⟩
      rw [Timeline.queue_wake_of_ne (by simp) (by simp)]
      dsimp only
      omega
    · have hle := Timeline.length_wake_le
        { t with queue := t.queue.erase (.loop 0), loops := [l₁] } 0 next
      refine ⟨.inr hlt, rfl, ?_⟩
      dsimp only at hle hlt
      omega
  · have hwork := l.runTurn_work t.now t.job
    generalize hnext : l.runTurn t.now t.job = turned at hwork
    obtain ⟨l₁, job, next⟩ := turned
    rw [Timeline.serve_run hs.loops hnext] at hloops ⊢
    rw [Timeline.loops_wake] at hloops
    obtain rfl : l₁ = l' := by simpa using hloops
    rw [Timeline.now_wake]
    rcases hwork with ⟨rfl, hrun, hloop⟩ | hlt
    · refine ⟨.inl rfl, rfl, ?_⟩
      by_cases hwake : next = some .loop
      · obtain ⟨part, due, hphase⟩ := hloop hwake
        obtain ⟨stage, -, hstanding⟩ := hs.standing
        have hmem : Turn.loop 0 ∈ t.queue.erase (.run 0) := by
          rw [hphase] at hstanding
          exact (List.mem_erase_of_ne (by simp)).mpr hstanding.of_returned
        rw [hwake, Timeline.queue_wake_of_mem hmem]
        dsimp only
        omega
      · rw [Timeline.queue_wake_of_ne hwake hrun]
        dsimp only
        omega
    · have hle := Timeline.length_wake_le
        { t with queue := t.queue.erase (.run 0), job, loops := [l₁] } 0 next
      refine ⟨.inr hlt, rfl, ?_⟩
      dsimp only at hle hlt
      omega

/-- What happens by turns and by time comes after what has happened, and neither signals nor stops. -/
theorem steps_chronicle (hsteps : ReflTransGen Step (t, c) (t', c')) :
    c <+: c' ∧ c'.signalledAt? = c.signalledAt? ∧ ∀ h ∈ c', h.2 = .stopped → h ∈ c := by
  have hall {m m' : Timeline × Chronicle} (hsteps : ReflTransGen Step m m') :
      m.2 <+: m'.2 ∧ m'.2.signalledAt? = m.2.signalledAt? ∧
        ∀ h ∈ m'.2, h.2 = .stopped → h ∈ m.2 := by
    induction hsteps with
    | refl => exact ⟨List.prefix_refl _, rfl, fun _ hh _ => hh⟩
    | tail _ hstep ih =>
      obtain ⟨hgrows, hsignalled, hstopped⟩ := ih
      cases hstep with
      | pass => exact ⟨hgrows, hsignalled, hstopped⟩
      | @turn t c turn _ =>
        have hquiet : signalledAt? ((t.happenings turn).map fun h => (t.now, h)) = none := by
          refine List.findSome?_eq_none_iff.mpr fun x hx => ?_
          obtain ⟨h, hh, rfl⟩ := List.mem_map.mp hx
          exact if_neg (Timeline.mem_happenings hh).1
        refine ⟨hgrows.trans (List.prefix_append _ _), ?_, fun x hx hx' => ?_⟩
        · rw [signalledAt?_append, hquiet, Option.or_none]
          exact hsignalled
        · rcases List.mem_append.mp hx with hold | hnew
          · exact hstopped x hold hx'
          · obtain ⟨h, hh, rfl⟩ := List.mem_map.mp hnew
            exact absurd hx' (Timeline.mem_happenings hh).2
  exact hall hsteps

theorem Reached.steps (h : Reached j start t c) (hsteps : ReflTransGen Step (t, c) (t', c')) :
    Reached j start t' c' := by
  have hall {m m' : Timeline × Chronicle} (hsteps : ReflTransGen Step m m')
      (hm : Reached j start m.1 m.2) : Reached j start m'.1 m'.2 := by
    induction hsteps with
    | refl => exact hm
    | tail _ hstep ih => exact .step ih hstep
  exact hall hsteps h

theorem Sound.signalled_steps (hs : Sound j start t c l) (hs' : Sound j start t' c' l')
    (hsteps : ReflTransGen Step (t, c) (t', c')) : l'.shutdown.signalled = l.shutdown.signalled := by
  rw [hs'.signalled, (steps_chronicle hsteps).2.1, hs.signalled]

/-- A loop that is signalled stays as it is or gets on. -/
theorem Sound.steps (hs : Sound j start t c l) (hs' : Sound j start t' c' l')
    (hsignalled : l.shutdown.signalled = true) (hsteps : ReflTransGen Step (t, c) (t', c')) :
    l' = l ∨ l'.work 0 < l.work 0 := by
  have hsame {t : Timeline} {c c' : Chronicle} {l l' : Loop} (hs : Sound j start t c l)
      (hs' : Sound j start t c' l') : l' = l := by
    simpa using hs'.loops.symm.trans hs.loops
  have hall {m m' : Timeline × Chronicle} (hsteps : ReflTransGen Step m m')
      (hm : Sound j start m.1 m.2 l) :
      ∃ l', Sound j start m'.1 m'.2 l' ∧ l'.shutdown.signalled = true ∧
        (l' = l ∨ l'.work 0 < l.work 0) := by
    induction hsteps with
    | refl => exact ⟨l, hm, hsignalled, .inl rfl⟩
    | @tail m₁ m₂ _ hstep ih =>
      obtain ⟨l₁, hs₁, hsignalled₁, hwork₁⟩ := ih
      obtain ⟨l₂, hs₂⟩ := hs₁.step hstep
      have hsignalled₂ : l₂.shutdown.signalled = true :=
        (hs₁.signalled_steps hs₂ (.single hstep)).trans hsignalled₁
      have hwork₂ : l₂ = l₁ ∨ l₂.work 0 < l₁.work 0 := by
        cases hstep with
        | pass =>
          have hloops := hs₂.loops
          rw [Timeline.loops_ring, hs₁.loops] at hloops
          exact .inl (by simpa using hloops.symm)
        | @turn t c turn hturn =>
          refine (hs₁.serve_work hs₂ hturn).1.imp_right fun hlt => ?_
          rw [Loop.work_of_signalled hsignalled₂ 0 t.now,
            Loop.work_of_signalled hsignalled₁ 0 t.now]
          exact hlt
      refine ⟨l₂, hs₂, hsignalled₂, ?_⟩
      rcases hwork₂ with rfl | hlt₂
      · exact hwork₁
      · rcases hwork₁ with rfl | hlt₁
        · exact .inr hlt₂
        · exact .inr (Nat.lt_trans hlt₂ hlt₁)
  obtain ⟨l₂, hs₂, -, hwork⟩ := hall hsteps hs
  obtain rfl := hsame hs₂ hs'
  exact hwork

/-- In whatever order turns are taken at one time, they come to an end. -/
theorem Reached.rounds (h : Reached j start t c) :
    Acc (fun m' m : Timeline × Chronicle => m.1.queue ≠ [] ∧ Step m m') (t, c) := by
  have hall (bound : Nat) : ∀ {t : Timeline} {c : Chronicle} {l : Loop}, Sound j start t c l →
      t.queue.length + l.work t.now < bound →
      Acc (fun m' m : Timeline × Chronicle => m.1.queue ≠ [] ∧ Step m m') (t, c) := by
    induction bound with
    | zero => exact fun _ hlt => absurd hlt (Nat.not_lt_zero _)
    | succ bound ih =>
      intro t c l hs hlt
      refine Acc.intro _ fun m' hm => ?_
      obtain ⟨hne, hstep⟩ := hm
      cases hstep with
      | pass hidle => exact absurd hidle hne
      | turn hturn =>
        obtain ⟨l', hs'⟩ := hs.step (.turn hturn)
        obtain ⟨-, hnow, hless⟩ := hs.serve_work hs' hturn
        refine ih hs' ?_
        rw [hnow]
        omega
  obtain ⟨l, hs⟩ := h.sound
  exact hall _ hs (Nat.lt_succ_self _)

theorem Sound.length_le (hs : Sound j start t c l) : t.queue.length ≤ 2 := by
  have hsub : t.queue ⊆ [.loop 0, .run 0] := by
    intro turn hturn
    rcases hs.timed.queue turn hturn with rfl | rfl <;> simp
  exact (List.Nodup.subperm hs.timed.nodup hsub).length_le

/-- Turns at one time come to an end. -/
theorem Reached.takeTurns (fuel : Nat) (h : Reached j start t c) :
    ∃ c', ReflTransGen Step (t, c) (t.takeTurns fuel, c') ∧ (t.takeTurns fuel).now = t.now ∧
      (33 ≤ fuel → (t.takeTurns fuel).queue = []) := by
  have hrun : ∀ (fuel : Nat) {t : Timeline} {c : Chronicle} {l : Loop}, Sound j start t c l →
      ∃ c', ReflTransGen Step (t, c) (t.takeTurns fuel, c') ∧ (t.takeTurns fuel).now = t.now ∧
        (t.queue.length + l.work t.now ≤ fuel → (t.takeTurns fuel).queue = []) := by
    intro fuel
    induction fuel with
    | zero =>
      intro t c l hs
      refine ⟨c, .refl, rfl, fun hle => ?_⟩
      have hlength : t.queue.length = 0 := by omega
      exact List.length_eq_zero_iff.mp hlength
    | succ fuel ih =>
      intro t c l hs
      unfold Timeline.takeTurns
      split
      next hidle => exact ⟨c, .refl, rfl, fun _ => hidle⟩
      next turn rest hqueue =>
        have hturn : turn ∈ t.queue := by simp [hqueue]
        have hserve : t.serve turn = { t with queue := rest }.take turn := by
          rw [Timeline.serve, hqueue, List.erase_cons_head]
        have hstep : Step (t, c) _ := .turn hturn
        obtain ⟨l', hs'⟩ := hs.step hstep
        obtain ⟨-, hnow, hlt⟩ := hs.serve_work hs' hturn
        obtain ⟨c', hsteps, hnow', hidle⟩ := ih hs'
        rw [hserve] at hstep hsteps hnow hnow' hidle hlt
        refine ⟨c', .head hstep hsteps, hnow'.trans hnow, fun hle => hidle ?_⟩
        rw [hnow]
        omega
  obtain ⟨l, hs⟩ := h.sound
  obtain ⟨c', hsteps, hnow, hidle⟩ := hrun fuel hs
  refine ⟨c', hsteps, hnow, fun hle => hidle ?_⟩
  have hlength := hs.length_le
  have hwork := l.work_le t.now
  omega

theorem Reached.settle (h : Reached j start t c) :
    ∃ c', ReflTransGen Step (t, c) (t.settle, c') ∧ t.settle.now = t.now ∧ t.settle.queue = [] := by
  obtain ⟨c', hsteps, hnow, hidle⟩ := h.takeTurns t.turnBound
  refine ⟨c', hsteps, hnow, hidle ?_⟩
  unfold Timeline.turnBound
  omega

/-- Time passes up to a limit, and no alarm before it is left. -/
theorem Reached.pass {limit : Nat} (fuel : Nat) (h : Reached j start t c) (hlt : t.now < limit)
    (hfuel : limit - t.now ≤ fuel) :
    ∃ c', ReflTransGen Step (t, c) (t.pass fuel limit, c') ∧ (t.pass fuel limit).queue = [] ∧
      (t.pass fuel limit).now < limit ∧ ∀ a ∈ (t.pass fuel limit).alarms, limit ≤ a.1 := by
  induction fuel generalizing t c with
  | zero => omega
  | succ fuel ih =>
    obtain ⟨c₁, hsteps, hnow, hidle⟩ := h.settle
    have h₁ : Reached j start t.settle c₁ := h.steps hsteps
    obtain ⟨l, hs⟩ := h₁.sound
    unfold Timeline.pass
    dsimp only
    split
    next time hmin =>
      obtain ⟨hmem, hleast⟩ := List.min?_eq_some_iff.mp hmin
      have hnext : ∀ a ∈ t.settle.alarms, time ≤ a.1 :=
        fun a ha => hleast a.1 (List.mem_map.mpr ⟨a, ha, rfl⟩)
      obtain ⟨a, ha, rfl⟩ := List.mem_map.mp hmem
      have hlater : t.settle.now < a.1 := (hs.timed.alarms a ha).1
      by_cases hbefore : a.1 < limit
      · rw [if_pos hbefore]
        have hstep : Step (t.settle, c₁) (t.settle.ring a.1, c₁) :=
          .pass hidle (Nat.le_of_lt hlater) hnext
        have hring : (t.settle.ring a.1).now = a.1 :=
          (Timeline.ring_frame _ _).1.trans (Nat.max_eq_right (Nat.le_of_lt hlater))
        obtain ⟨c', hsteps', hrest⟩ := ih (h₁.step hstep) (by omega) (by omega)
        exact ⟨c', hsteps.trans (.head hstep hsteps'), hrest⟩
      · rw [if_neg hbefore]
        refine ⟨c₁, hsteps, hidle, by omega, fun b hb => ?_⟩
        exact Nat.le_trans (Nat.le_of_not_lt hbefore) (hnext b hb)
    next hmin =>
      have hnone : t.settle.alarms = [] := List.map_eq_nil_iff.mp (List.min?_eq_none_iff.mp hmin)
      refine ⟨c₁, hsteps, hidle, by omega, ?_⟩
      simp [hnone]

theorem Reached.moveTo (time : Nat) (h : Reached j start t c) :
    ∃ c', ReflTransGen Step (t, c) (t.moveTo time, c') ∧ (t.moveTo time).now = max t.now time := by
  unfold Timeline.moveTo
  split
  next hle => exact ⟨c, .refl, (Nat.max_eq_left hle).symm⟩
  next hnot =>
    have hlt := Nat.lt_of_not_le hnot
    obtain ⟨c', hsteps, hidle, hbefore, hnext⟩ := h.pass _ hlt (Nat.le_refl _)
    have hstep : Step _ ((t.pass (time - t.now) time).ring time, c') :=
      .pass hidle (Nat.le_of_lt hbefore) hnext
    refine ⟨c', hsteps.tail hstep, ?_⟩
    rw [(Timeline.ring_frame _ _).1, Nat.max_eq_right (Nat.le_of_lt hbefore),
      Nat.max_eq_right (Nat.le_of_lt hlt)]

theorem Reached.settleFor (h : Reached j start t c) :
    ∃ c', ReflTransGen Step (t, c) (Timeline.settleFor 0 t.turnBound t, c') ∧
      (Timeline.settleFor 0 t.turnBound t).now = t.now ∧
      (Timeline.settleFor 0 t.turnBound t).queue = [] := by
  obtain ⟨c', hsteps, hnow, hidle⟩ := h.takeTurns Timeline.roundSize
  have hempty := hidle (by decide)
  have hfirst : Timeline.settleFor 0 t.turnBound t = t.takeTurns Timeline.roundSize := by
    obtain ⟨fuel, hfuel⟩ : ∃ fuel, t.turnBound = fuel + 1 :=
      ⟨64 * t.loops.length + 63, by unfold Timeline.turnBound; omega⟩
    rw [hfuel, Timeline.settleFor]
    exact if_pos (.inr hempty)
  rw [hfirst]
  exact ⟨c', hsteps, hnow, hempty⟩

/-- A signalled loop that has no turn to take has ended or sleeps. -/
theorem Sound.sleeps (hs : Sound j start t c l) (hidle : t.queue = [])
    (hsignalled : l.shutdown.signalled = true) :
    (l.isEnded = true ∧ l.work 0 = 0) ∨
      ∃ time, l.wakeTime? = some time ∧ t.now < time ∧ (l.work 0 = 6 ∨ l.work 0 = 2) := by
  have hmem {turn : Turn} : turn ∉ t.queue := by simp [hidle]
  have hsome : c.signalledAt?.isSome = true := hs.signalled.symm.trans hsignalled
  obtain ⟨stage, -, hstanding⟩ := hs.standing
  generalize hphase : l.phase = phase at hstanding
  cases hstanding with
  | begun _ _ hturn => exact absurd hturn hmem
  | idle _ _ _ hturn => exact absurd (hturn (.inr hsome)) hmem
  | tickReady _ _ _ _ hturn => exact absurd hturn hmem
  | hookReady _ hturn => exact absurd hturn hmem
  | @asleep part next began ms _ _ hturn =>
    right
    refine ⟨began + ms, ?_, Nat.lt_of_not_le fun hdue => hmem (hturn hdue).2, ?_⟩
    · cases part <;> rw [Loop.wakeTime?, hphase] <;> rfl
    · cases part with
      | tick =>
        left
        rw [Loop.work, hphase]
        simp [Part.phase, Loop.late, hsignalled, Run.work]
      | hook =>
        right
        rw [Loop.work, hphase]
        rfl
  | awaiting _ _ hturn =>
    obtain ⟨at_, hat⟩ := Option.isSome_iff_exists.mp hsome
    exact absurd (hturn at_ hat).2 hmem
  | returned _ hturn => exact absurd hturn hmem
  | ended _ =>
    left
    exact ⟨by simp [Loop.isEnded, hphase], by rw [Loop.work, hphase]⟩

/-- At the time until which it sleeps, a signalled loop gets on. -/
theorem Sound.wakes {time : Nat} (hs : Sound j start t c l) (hs' : Sound j start t' c' l')
    (hsignalled : l.shutdown.signalled = true) (hsteps : ReflTransGen Step (t, c) (t', c'))
    (hwake : l.wakeTime? = some time) (htime : time ≤ t'.now) (hidle : t'.queue = []) :
    l'.work 0 < l.work 0 ∧ (l'.work 0 = 0 ∨ l'.work 0 = 2 ∨ l'.work 0 = 6) := by
  have hsleeps := hs'.sleeps hidle ((hs.signalled_steps hs' hsteps).trans hsignalled)
  refine ⟨(hs.steps hs' hsignalled hsteps).resolve_left ?_, ?_⟩
  · rintro rfl
    rcases hsleeps with ⟨hended, -⟩ | ⟨time', hwake', hlt, -⟩
    · have hphase : l'.phase = .ended := by simpa [Loop.isEnded] using hended
      rw [Loop.wakeTime?, hphase] at hwake
      cases hwake
    · obtain rfl : time = time' := Option.some.inj (hwake.symm.trans hwake')
      omega
  · rcases hsleeps with ⟨-, hzero⟩ | ⟨-, -, -, hsix | htwo⟩
    · exact .inl hzero
    · exact .inr (.inr hsix)
    · exact .inr (.inl htwo)

/-- A signalled loop sleeps at most in its tick and in its hook. -/
theorem Reached.waitFor (fuel : Nat) (h : Reached j start t c)
    (hsignalled : c.signalledAt?.isSome = true)
    (hwork : ∀ l, (Timeline.settleFor 0 t.turnBound t).loops = [l] → l.work 0 + 2 < 4 * fuel) :
    ∃ c', ReflTransGen Step (t, c) (t.waitFor 0 fuel, c') ∧ (t.waitFor 0 fuel).isEnded 0 = true := by
  induction fuel generalizing t c with
  | zero =>
    obtain ⟨c₁, hsteps, -, -⟩ := h.settleFor
    obtain ⟨l, hs⟩ := (h.steps hsteps).sound
    have := hwork l hs.loops
    omega
  | succ fuel ih =>
    obtain ⟨c₁, hsteps₁, hnow₁, hidle₁⟩ := h.settleFor
    have h₁ := h.steps hsteps₁
    obtain ⟨l₁, hs₁⟩ := h₁.sound
    have hsome₁ : c₁.signalledAt?.isSome = true := by
      rw [(steps_chronicle hsteps₁).2.1]
      exact hsignalled
    have hsignalled₁ : l₁.shutdown.signalled = true := hs₁.signalled.trans hsome₁
    have hwork₁ := hwork l₁ hs₁.loops
    unfold Timeline.waitFor
    dsimp only
    generalize Timeline.settleFor 0 t.turnBound t = t₁ at *
    have hisEnded : t₁.isEnded 0 = l₁.isEnded := by
      rw [Timeline.isEnded, hs₁.loops]
      rfl
    by_cases hended : t₁.isEnded 0 = true
    · rw [if_pos hended]
      exact ⟨c₁, hsteps₁, hended⟩
    · have hsleeps := (hs₁.sleeps hidle₁ hsignalled₁).resolve_left fun h =>
        hended (hisEnded.trans h.1)
      obtain ⟨time, hwake, -, hsleeping⟩ := hsleeps
      have hbind : t₁.loops[0]?.bind Loop.wakeTime? = some time := by
        rw [hs₁.loops]
        exact hwake
      rw [if_neg hended, hbind]
      dsimp only
      obtain ⟨c₂, hsteps₂, hnow₂⟩ := h₁.moveTo time
      have h₂ := h₁.steps hsteps₂
      have hsome₂ : c₂.signalledAt?.isSome = true := by
        rw [(steps_chronicle hsteps₂).2.1]
        exact hsome₁
      obtain ⟨c₃, hsteps₃, hnow₃, hidle₃⟩ := h₂.settleFor
      obtain ⟨l₃, hs₃⟩ := (h₂.steps hsteps₃).sound
      have htime : time ≤ (Timeline.settleFor 0 (t₁.moveTo time).turnBound (t₁.moveTo time)).now := by
        rw [hnow₃, hnow₂]
        exact Nat.le_max_right _ _
      have hless := hs₁.wakes hs₃ hsignalled₁ (hsteps₂.trans hsteps₃) hwake htime hidle₃
      obtain ⟨c₄, hsteps₄, hlast⟩ := ih h₂ hsome₂ fun l hloops => by
        obtain rfl : l = l₃ := by simpa using hloops.symm.trans hs₃.loops
        omega
      exact ⟨c₄, (hsteps₁.trans hsteps₂).trans hsteps₄, hlast⟩

/-- Whoever stops a loop gets on, once the loop has ended. -/
theorem Reached.stop (h : Reached j start t c) (hnone : c.signalledAt? = none) :
    ∃ c', ReflTransGen Step (t.signal 0, c ++ [(t.now, .signalled)]) (t.stop 0, c') ∧
      (t.stop 0).isEnded 0 = true := by
  have hsignal : Reached j start (t.signal 0) (c ++ [(t.now, .signalled)]) := .signal h hnone
  have hsome : (signalledAt? (c ++ [(t.now, .signalled)])).isSome = true := by
    rw [signalledAt?_concat, hnone, if_pos rfl]
    rfl
  refine hsignal.waitFor 3 hsome fun l hloops => ?_
  obtain ⟨c₁, hsteps, -, hidle⟩ := hsignal.settleFor
  obtain ⟨l₁, hs₁⟩ := (hsignal.steps hsteps).sound
  obtain rfl : l = l₁ := by simpa using hloops.symm.trans hs₁.loops
  have hsignalled : l.shutdown.signalled = true := by
    rw [hs₁.signalled, (steps_chronicle hsteps).2.1]
    exact hsome
  rcases hs₁.sleeps hidle hsignalled with ⟨-, hzero⟩ | ⟨-, -, -, hsix | htwo⟩ <;> omega

end Chronicle

end ClusterOutbox
