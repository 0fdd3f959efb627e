import ClusterOutbox.Proofs.Schedule.Turns
import Mathlib.Tactic.ByContra

namespace ClusterOutbox

namespace Loop

variable {l l' : Loop}

/-- A loop that has not been signalled neither closes nor has ended. -/
def Sound (l : Loop) : Prop :=
  l.shutdown.signalled = false → l.isEnded = false ∧ ∀ run, l.phase ≠ .closing run

/-- How a loop goes on by turns. -/
structure Follows (l l' : Loop) : Prop where
  shutdown : l'.shutdown = l.shutdown
  ended : l.isEnded = true → l'.isEnded = true
  sound : l.Sound → l'.Sound

theorem Follows.refl (l : Loop) : l.Follows l := ⟨rfl, id, id⟩

theorem follows_rest (now period due : Nat) (alarmed : Bool) (h : l.isEnded = false) :
    l.Follows (l.rest now period due alarmed).1 := by
  unfold rest
  split
  next hsignalled =>
    refine ⟨rfl, by simp [h], fun _ hnot => ?_⟩
    exact absurd hsignalled (Bool.eq_false_iff.mp hnot)
  next =>
    split
    · exact ⟨rfl, by simp [h], fun _ _ => ⟨rfl, by simp⟩⟩
    · exact ⟨rfl, by simp [h], fun _ _ => ⟨rfl, by simp⟩⟩

theorem follows_turn (l : Loop) (now period : Nat) : l.Follows (l.turn now period).1 := by
  unfold turn
  split
  next hphase => exact follows_rest _ _ _ _ (by simp [isEnded, hphase])
  next hphase => exact follows_rest _ _ _ _ (by simp [isEnded, hphase])
  next hphase => exact follows_rest _ _ _ _ (by simp [isEnded, hphase])
  next hphase =>
    refine ⟨rfl, fun _ => rfl, fun hsound hnot => ?_⟩
    exact absurd hphase ((hsound hnot).2 _)
  next => exact .refl l

theorem follows_runTurn (l : Loop) (now : Nat) (j : Job) : l.Follows (l.runTurn now j).1 := by
  unfold runTurn
  dsimp only
  split
  next hphase => exact ⟨rfl, by simp [isEnded, hphase], fun _ _ => ⟨rfl, by simp⟩⟩
  next hphase =>
    refine ⟨rfl, by simp [isEnded, hphase], fun hsound hnot => ?_⟩
    exact absurd hphase ((hsound hnot).2 _)
  next => exact .refl l

end Loop

namespace Timeline

variable {t t' : Timeline}

/-- No two loops have yet to end. -/
def OneLoop (t : Timeline) : Prop :=
  ∀ i i', t.isEnded i = false → t.isEnded i' = false → i = i'

/-- The loops of a timeline after turns and time. -/
structure Onward (t t' : Timeline) : Prop where
  length : t'.loops.length = t.loops.length
  follows : ∀ (i : Nat) (l : Loop), t.loops[i]? = some l →
    ∃ l', t'.loops[i]? = some l' ∧ l.Follows l'

theorem Onward.of_loops (h : t'.loops = t.loops) : t.Onward t' where
  length := by rw [h]
  follows i l hl := ⟨l, h ▸ hl, .refl l⟩

theorem onward_set {i : Nat} {l l' : Loop} (hl : t.loops[i]? = some l) (h : l.Follows l')
    (hloops : t'.loops = t.loops.set i l') : t.Onward t' where
  length := by rw [hloops, List.length_set]
  follows k m hm := by
    rw [hloops]
    by_cases hk : i = k
    · subst hk
      obtain rfl := Option.some.inj (hl.symm.trans hm)
      have hlt : i < t.loops.length := (List.getElem?_eq_some_iff.mp hl).1
      exact ⟨l', List.getElem?_set_self hlt, h⟩
    · exact ⟨m, by rw [List.getElem?_set_ne hk, hm], .refl m⟩

theorem onward_take (t : Timeline) (turn : Turn) : t.Onward (t.take turn) := by
  cases turn with
  | loop i =>
    unfold take
    cases hl : t.loops[i]? with
    | none => exact .of_loops (by simp only [hl])
    | some l =>
      simp only [hl]
      exact onward_set hl (l.follows_turn t.now t.job.period) (loops_wake _ _ _)
  | run i =>
    unfold take
    cases hl : t.loops[i]? with
    | none => exact .of_loops (by simp only [hl])
    | some l =>
      simp only [hl]
      exact onward_set hl (l.follows_runTurn t.now t.job) (loops_wake _ _ _)

theorem isEnded_of_getElem? {i : Nat} {l : Loop} (h : t.loops[i]? = some l) :
    t.isEnded i = l.isEnded := by
  rw [isEnded, h]
  rfl

theorem exists_of_not_isEnded {i : Nat} (h : t.isEnded i = false) :
    ∃ l, t.loops[i]? = some l ∧ l.isEnded = false := by
  unfold isEnded at h
  cases hl : t.loops[i]? with
  | none => simp [hl] at h
  | some l => exact ⟨l, rfl, by simpa [hl] using h⟩

theorem isEnded_of_le {i : Nat} (h : t.loops.length ≤ i) : t.isEnded i = true := by
  rw [isEnded, List.getElem?_eq_none h]
  rfl

theorem Onward.isEnded (h : t.Onward t') {i : Nat} (hi : t'.isEnded i = false) :
    t.isEnded i = false := by
  obtain ⟨l', hl', hended⟩ := exists_of_not_isEnded hi
  have hlt : i < t.loops.length := h.length ▸ (List.getElem?_eq_some_iff.mp hl').1
  obtain ⟨l'', hl'', hfollows⟩ := h.follows i _ (List.getElem?_eq_getElem hlt)
  obtain rfl := Option.some.inj (hl'.symm.trans hl'')
  rw [isEnded_of_getElem? (List.getElem?_eq_getElem hlt)]
  cases hold : t.loops[i].isEnded with
  | false => rfl
  | true => exact absurd (hfollows.ended hold) (by simp [hended])

theorem OneLoop.onward (h : t.OneLoop) (ht : t.Onward t') : t'.OneLoop :=
  fun i i' hi hi' => h i i' (ht.isEnded hi) (ht.isEnded hi')

/-- A signal tells a loop to end, and ends none. -/
theorem loops_signal {i : Nat} {l : Loop} (h : t.loops[i]? = some l) :
    (t.signal i).loops = t.loops.set i { l with shutdown := l.shutdown.signal } := by
  unfold signal
  simp only [h]
  exact loops_wake _ _ _

theorem isEnded_signal {i k : Nat} {l : Loop} (h : t.loops[i]? = some l) :
    (t.signal i).isEnded k = t.isEnded k := by
  have hlt : i < t.loops.length := (List.getElem?_eq_some_iff.mp h).1
  unfold isEnded
  rw [loops_signal h]
  by_cases hk : i = k
  · subst hk
    rw [List.getElem?_set_self hlt, h]
    rfl
  · rw [List.getElem?_set_ne hk]

theorem loops_start (t : Timeline) : t.start.2.loops = t.loops ++ [Loop.start] := by
  unfold start enqueue
  dsimp only
  split <;> rfl

theorem isEnded_start (t : Timeline) {i : Nat} (hi : i ≠ t.loops.length) :
    t.start.2.isEnded i = t.isEnded i := by
  unfold isEnded
  rw [loops_start]
  rcases Nat.lt_or_gt_of_ne hi with hlt | hgt
  · rw [List.getElem?_append_left hlt]
  · rw [List.getElem?_eq_none (by simp; omega), List.getElem?_eq_none (by omega)]

end Timeline

namespace Callers

/-- Where a call on a service stands. -/
inductive Stage
  /-- It is to start a loop, and waits for the lock. -/
  | starting
  /-- It is to shut the loop down, and waits for the lock. -/
  | stopping
  /-- It has let go of a loop, and waits for it to end. -/
  | waiting (i : Nat)
  | returned
deriving DecidableEq

/-- What may happen next: someone calls, a call goes on up to its next wait, somebody has a turn, or
time passes. -/
inductive Move
  | start
  | shutdown
  | proceed (k : Nat)
  | turn (turn : Turn)
  | pass (time : Nat)

end Callers

/-- A service, its loops, and the calls on it. -/
structure Callers where
  service : Service
  timeline : Timeline
  calls : List Callers.Stage
deriving DecidableEq

namespace Callers

def ofJob (j : Job) : Callers := ⟨⟨none⟩, .ofJob j, []⟩

/-- A call with the lock starts or releases the loop, and keeps the lock no longer. -/
def proceed (w : Callers) (k : Nat) : Callers :=
  match w.calls[k]? with
  | some .starting =>
    let (service, timeline) := w.service.start w.timeline
    ⟨service, timeline, w.calls.set k .returned⟩
  | some .stopping =>
    match w.service.release w.timeline with
    | (some i, service, timeline) => ⟨service, timeline, w.calls.set k (.waiting i)⟩
    | (none, service, timeline) => ⟨service, timeline, w.calls.set k .returned⟩
  | some (.waiting i) =>
    if w.timeline.isEnded i then { w with calls := w.calls.set k .returned } else w
  | _ => w

def next (w : Callers) : Move → Callers
  | .start => { w with calls := w.calls ++ [.starting] }
  | .shutdown => { w with calls := w.calls ++ [.stopping] }
  | .proceed k => w.proceed k
  | .turn turn =>
    let timeline := { w.timeline with queue := w.timeline.queue.erase turn }
    { w with timeline := timeline.take turn }
  | .pass time => { w with timeline := w.timeline.ring time }

def run (w : Callers) (moves : List Move) : Callers := moves.foldl next w

/-- A call is about to start a loop while another one waits for a loop to end. -/
def Restarts (w : Callers) (move : Move) : Prop :=
  ∃ k i, move = .proceed k ∧ w.calls[k]? = some .starting ∧ .waiting i ∈ w.calls ∧
    w.timeline.isEnded i = false

structure Sound (w : Callers) : Prop where
  loops : ∀ l ∈ w.timeline.loops, l.Sound
  current : ∀ i, w.service.current = some i →
    ∃ l, w.timeline.loops[i]? = some l ∧ l.shutdown.signalled = false
  waiting : ∀ i, .waiting i ∈ w.calls →
    ∃ l, w.timeline.loops[i]? = some l ∧ l.shutdown.signalled = true
  held : ∀ i, w.timeline.isEnded i = false → w.service.current = some i ∨ .waiting i ∈ w.calls

variable {w : Callers}

theorem sound_ofJob (j : Job) : (ofJob j).Sound where
  loops := by simp [ofJob, Timeline.ofJob]
  current := by simp [ofJob]
  waiting := by simp [ofJob]
  held i hi := by
    rw [Timeline.isEnded_of_le (Nat.zero_le i)] at hi
    simp at hi

/-- The loop that a service keeps has not ended. -/
theorem Sound.not_isEnded (hw : w.Sound) {i : Nat} (hi : w.service.current = some i) :
    w.timeline.isEnded i = false := by
  obtain ⟨l, hl, hsignalled⟩ := hw.current i hi
  rw [Timeline.isEnded_of_getElem? hl]
  exact (hw.loops l (List.mem_of_getElem? hl) hsignalled).1

theorem Sound.onward (hw : w.Sound) {t : Timeline} (ht : w.timeline.Onward t) :
    { w with timeline := t }.Sound where
  loops l hl := by
    obtain ⟨i, hlt, rfl⟩ := List.mem_iff_getElem.mp hl
    have hold : i < w.timeline.loops.length := ht.length ▸ hlt
    obtain ⟨l', hl', hfollows⟩ := ht.follows i _ (List.getElem?_eq_getElem hold)
    rw [List.getElem?_eq_getElem hlt] at hl'
    obtain rfl := Option.some.inj hl'
    exact hfollows.sound (hw.loops _ (List.getElem_mem hold))
  current i hi := by
    obtain ⟨l, hl, hsignalled⟩ := hw.current i hi
    obtain ⟨l', hl', hfollows⟩ := ht.follows i l hl
    exact ⟨l', hl', hfollows.shutdown ▸ hsignalled⟩
  waiting i hi := by
    obtain ⟨l, hl, hsignalled⟩ := hw.waiting i hi
    obtain ⟨l', hl', hfollows⟩ := ht.follows i l hl
    exact ⟨l', hl', hfollows.shutdown ▸ hsignalled⟩
  held i hi := hw.held i (ht.isEnded hi)

theorem mem_set {k : Nat} {old new call : Stage} (hk : w.calls[k]? = some old)
    (h : call ∈ w.calls) (hne : call ≠ old) : call ∈ w.calls.set k new := by
  obtain ⟨i, hlt, rfl⟩ := List.mem_iff_getElem.mp h
  have hki : k ≠ i := by
    rintro rfl
    rw [List.getElem?_eq_getElem hlt] at hk
    exact hne (Option.some.inj hk)
  refine List.mem_iff_getElem.mpr ⟨i, by rwa [List.length_set], ?_⟩
  rw [List.getElem_set_ne hki]

/-- What a call with the lock comes to. -/
inductive Proceeds (w : Callers) (k : Nat) : Callers → Prop
  | kept {i : Nat} : w.calls[k]? = some .starting → w.service.current = some i →
    Proceeds w k { w with calls := w.calls.set k .returned }
  | started : w.calls[k]? = some .starting → w.service.current = none →
    Proceeds w k ⟨⟨some w.timeline.loops.length⟩, w.timeline.start.2, w.calls.set k .returned⟩
  | released {i : Nat} : w.calls[k]? = some .stopping → w.service.current = some i →
    Proceeds w k ⟨⟨none⟩, w.timeline.signal i, w.calls.set k (.waiting i)⟩
  | nothing : w.calls[k]? = some .stopping → w.service.current = none →
    Proceeds w k { w with calls := w.calls.set k .returned }
  | finished {i : Nat} : w.calls[k]? = some (.waiting i) → w.timeline.isEnded i = true →
    Proceeds w k { w with calls := w.calls.set k .returned }
  | still : w.calls[k]? ≠ some .starting → Proceeds w k w

theorem Sound.proceeds (hw : w.Sound) (k : Nat) : w.Proceeds k (w.proceed k) := by
  unfold proceed
  split
  next hk =>
    cases hcurrent : w.service.current with
    | some i =>
      have hrunning : w.service.isRunning w.timeline = true := by
        simp [Service.isRunning, hcurrent, hw.not_isEnded hcurrent]
      rw [Service.start, if_pos hrunning]
      exact .kept hk hcurrent
    | none =>
      have hidle : ¬ w.service.isRunning w.timeline = true := by
        simp [Service.isRunning, hcurrent]
      rw [Service.start, if_neg hidle]
      exact .started hk hcurrent
  next hk =>
    unfold Service.release
    cases hcurrent : w.service.current with
    | some i => exact .released hk hcurrent
    | none => exact .nothing hk hcurrent
  next i hk =>
    split
    next hended => exact .finished hk hended
    next => exact .still (by simp [hk])
  next hstarting _ _ => exact .still hstarting

theorem Sound.returned (hw : w.Sound) {k : Nat} {old : Stage} (hk : w.calls[k]? = some old)
    (hold : ∀ i, old = .waiting i → w.timeline.isEnded i = true) :
    { w with calls := w.calls.set k .returned }.Sound where
  loops := hw.loops
  current := hw.current
  waiting i hi := by
    rcases List.mem_or_eq_of_mem_set hi with hmem | hsame
    · exact hw.waiting i hmem
    · cases hsame
  held i hi := by
    refine (hw.held i hi).imp id fun hmem => mem_set hk hmem ?_
    rintro rfl
    exact Bool.false_ne_true (hi.symm.trans (hold i rfl))

theorem Sound.started (hw : w.Sound) {k : Nat} (hk : w.calls[k]? = some .starting)
    (hnone : w.service.current = none) :
    Sound ⟨⟨some w.timeline.loops.length⟩, w.timeline.start.2, w.calls.set k .returned⟩ where
  loops l hl := by
    rw [Timeline.loops_start] at hl
    rcases List.mem_append.mp hl with hl | hl
    · exact hw.loops l hl
    · obtain rfl := List.mem_singleton.mp hl
      exact fun _ => ⟨rfl, by simp [Loop.start]⟩
  current i hi := by
    obtain rfl := Option.some.inj hi
    refine ⟨Loop.start, ?_, rfl⟩
    rw [Timeline.loops_start, List.getElem?_concat_length]
  waiting i hi := by
    rcases List.mem_or_eq_of_mem_set hi with hmem | hsame
    · obtain ⟨l, hl, hsignalled⟩ := hw.waiting i hmem
      refine ⟨l, ?_, hsignalled⟩
      rw [Timeline.loops_start, List.getElem?_append_left (List.getElem?_eq_some_iff.mp hl).1, hl]
    · cases hsame
  held i hi := by
    by_cases hnew : i = w.timeline.loops.length
    · exact .inl (congrArg some hnew.symm)
    · rw [Timeline.isEnded_start _ hnew] at hi
      rcases hw.held i hi with hcurrent | hmem
      · simp [hnone] at hcurrent
      · exact .inr (mem_set hk hmem (by simp))

theorem Sound.released (hw : w.Sound) {k i : Nat} (hk : w.calls[k]? = some .stopping)
    (hcurrent : w.service.current = some i) :
    Sound ⟨⟨none⟩, w.timeline.signal i, w.calls.set k (.waiting i)⟩ := by
  obtain ⟨l, hl, -⟩ := hw.current i hcurrent
  have hlt : i < w.timeline.loops.length := (List.getElem?_eq_some_iff.mp hl).1
  have hloops := Timeline.loops_signal hl
  refine ⟨?_, by simp, ?_, ?_⟩
  · intro m hm
    rw [hloops] at hm
    rcases List.mem_or_eq_of_mem_set hm with hm | rfl
    · exact hw.loops m hm
    · exact fun hnot => absurd hnot (by simp [Shutdown.signal])
  · intro i' hi'
    rw [hloops]
    by_cases hsame : i = i'
    · subst hsame
      exact ⟨_, List.getElem?_set_self hlt, rfl⟩
    · rw [List.getElem?_set_ne hsame]
      rcases List.mem_or_eq_of_mem_set hi' with hmem | heq
      · exact hw.waiting i' hmem
      · exact absurd (Stage.waiting.inj heq).symm hsame
  · intro i' hi'
    rw [Timeline.isEnded_signal hl] at hi'
    right
    rcases hw.held i' hi' with hother | hmem
    · obtain rfl := Option.some.inj (hcurrent.symm.trans hother)
      have hlt' : k < w.calls.length := (List.getElem?_eq_some_iff.mp hk).1
      exact List.mem_set hlt' _
    · exact mem_set hk hmem (by simp)

theorem Sound.next (hw : w.Sound) (move : Move) : (w.next move).Sound := by
  cases move with
  | start =>
    refine ⟨hw.loops, hw.current, fun i hi => ?_, fun i hi => ?_⟩
    · exact hw.waiting i ((List.mem_append.mp hi).resolve_right (by simp))
    · exact (hw.held i hi).imp id (List.mem_append_left _)
  | shutdown =>
    refine ⟨hw.loops, hw.current, fun i hi => ?_, fun i hi => ?_⟩
    · exact hw.waiting i ((List.mem_append.mp hi).resolve_right (by simp))
    · exact (hw.held i hi).imp id (List.mem_append_left _)
  | turn turn =>
    have honward := Timeline.onward_take
      { w.timeline with queue := w.timeline.queue.erase turn } turn
    exact hw.onward ⟨honward.length, honward.follows⟩
  | pass time => exact hw.onward (.of_loops (w.timeline.loops_ring time))
  | proceed k =>
    change (w.proceed k).Sound
    have hproceeds := hw.proceeds k
    generalize w.proceed k = w' at hproceeds
    cases hproceeds with
    | kept hk _ => exact hw.returned hk (by simp)
    | started hk hnone => exact hw.started hk hnone
    | released hk hcurrent => exact hw.released hk hcurrent
    | nothing hk _ => exact hw.returned hk (by simp)
    | finished hk hended => exact hw.returned hk fun i hi => Stage.waiting.inj hi ▸ hended
    | still _ => exact hw

theorem not_restarts {move : Move} (h : ∀ k, move ≠ .proceed k) : ¬ w.Restarts move :=
  fun ⟨k, _, hmove, _⟩ => h k hmove

/-- Where there is one loop at most, only a restart makes them more. -/
theorem Sound.oneLoop_next (hw : w.Sound) (h : w.timeline.OneLoop) (move : Move) :
    (w.next move).timeline.OneLoop ↔ ¬ w.Restarts move := by
  cases move with
  | start => exact iff_of_true h (not_restarts (by simp))
  | shutdown => exact iff_of_true h (not_restarts (by simp))
  | turn turn =>
    have honward := Timeline.onward_take
      { w.timeline with queue := w.timeline.queue.erase turn } turn
    exact iff_of_true (h.onward ⟨honward.length, honward.follows⟩) (not_restarts (by simp))
  | pass time =>
    have honward := Timeline.Onward.of_loops (w.timeline.loops_ring time)
    exact iff_of_true (h.onward honward) (not_restarts (by simp))
  | proceed k =>
    change (w.proceed k).timeline.OneLoop ↔ _
    have hproceeds := hw.proceeds k
    generalize w.proceed k = w' at hproceeds
    -- A call that starts nothing leaves the loops as they are.
    have hquiet (hne : w.calls[k]? ≠ some .starting) : ¬ w.Restarts (.proceed k) := by
      rintro ⟨_, _, hmove, hstarting, -⟩
      exact hne (Move.proceed.inj hmove ▸ hstarting)
    cases hproceeds with
    | @kept i hk hcurrent =>
      refine iff_of_true h ?_
      rintro ⟨_, i', hmove, -, hmem, hended⟩
      obtain rfl := h i i' (hw.not_isEnded hcurrent) hended
      obtain ⟨l, hl, hnot⟩ := hw.current i hcurrent
      obtain ⟨l', hl', hsignalled⟩ := hw.waiting i hmem
      obtain rfl := Option.some.inj (hl.symm.trans hl')
      exact Bool.false_ne_true (hnot.symm.trans hsignalled)
    | started hk hnone =>
      have hnew : w.timeline.start.2.isEnded w.timeline.loops.length = false := by
        refine (Timeline.isEnded_of_getElem? (l := Loop.start) ?_).trans rfl
        rw [Timeline.loops_start, List.getElem?_concat_length]
      have hold {i : Nat} (hi : w.timeline.isEnded i = false) :
          i ≠ w.timeline.loops.length ∧ w.timeline.start.2.isEnded i = false := by
        have hne : i ≠ w.timeline.loops.length := by
          rintro rfl
          rw [Timeline.isEnded_of_le (Nat.le_refl _)] at hi
          cases hi
        exact ⟨hne, (w.timeline.isEnded_start hne).trans hi⟩
      constructor
      · rintro hone ⟨_, i, -, -, -, hi⟩
        obtain ⟨hne, hi'⟩ := hold hi
        exact hne (hone i _ hi' hnew)
      · intro hnot
        -- Whatever loop has not ended is waited for, so that there is none but the new one.
        have hlast (i : Nat) (hi : w.timeline.start.2.isEnded i = false) :
            i = w.timeline.loops.length := by
          by_contra hne
          rw [Timeline.isEnded_start _ hne] at hi
          have hmem := (hw.held i hi).resolve_left (by simp [hnone])
          exact hnot ⟨k, i, rfl, hk, hmem, hi⟩
        exact fun i i' hi hi' => (hlast i hi).trans (hlast i' hi').symm
    | @released i hk hcurrent =>
      obtain ⟨l, hl, -⟩ := hw.current i hcurrent
      refine iff_of_true ?_ (hquiet (by simp [hk]))
      intro a b ha hb
      rw [Timeline.isEnded_signal hl] at ha hb
      exact h a b ha hb
    | nothing hk _ => exact iff_of_true h (hquiet (by simp [hk]))
    | finished hk _ => exact iff_of_true h (hquiet (by simp [hk]))
    | still hne => exact iff_of_true h (hquiet hne)

theorem Sound.oneLoop_run (hw : w.Sound) (h : w.timeline.OneLoop) (moves : List Move) :
    (∀ earlier, earlier <+: moves → (w.run earlier).timeline.OneLoop) ↔
      ∀ earlier move, earlier ++ [move] <+: moves → ¬ (w.run earlier).Restarts move := by
  induction moves generalizing w with
  | nil =>
    refine iff_of_true ?_ ?_
    · intro earlier hprefix
      obtain rfl := List.prefix_nil.mp hprefix
      exact h
    · intro earlier move hprefix
      simp at hprefix
  | cons move moves ih =>
    constructor
    · intro hone
      have hnext : (w.next move).timeline.OneLoop := hone [move] (by simp)
      have hrest := (ih (hw.next move) hnext).mp fun earlier hprefix =>
        hone (move :: earlier) (List.cons_prefix_cons.mpr ⟨rfl, hprefix⟩)
      intro earlier last hprefix
      cases earlier with
      | nil =>
        obtain ⟨rfl, -⟩ := List.cons_prefix_cons.mp hprefix
        exact (hw.oneLoop_next h last).mp hnext
      | cons first earlier =>
        obtain ⟨rfl, htail⟩ := List.cons_prefix_cons.mp hprefix
        exact hrest earlier last htail
    · intro hnot
      have hnext : (w.next move).timeline.OneLoop :=
        (hw.oneLoop_next h move).mpr (hnot [] move (by simp))
      have hrest := (ih (hw.next move) hnext).mpr fun earlier last hprefix =>
        hnot (move :: earlier) last (List.cons_prefix_cons.mpr ⟨rfl, hprefix⟩)
      intro earlier hprefix
      cases earlier with
      | nil => exact h
      | cons first earlier =>
        obtain ⟨rfl, htail⟩ := List.cons_prefix_cons.mp hprefix
        exact hrest earlier htail

/-- However calls overlap, there is one loop at most as long as no call starts one while another still
waits for a loop to end, and no longer. -/
theorem one_loop_iff (j : Job) (moves : List Move) :
    (∀ earlier, earlier <+: moves → ((ofJob j).run earlier).timeline.OneLoop) ↔
      ∀ earlier move, earlier ++ [move] <+: moves →
        ¬ ((ofJob j).run earlier).Restarts move := by
  refine (sound_ofJob j).oneLoop_run ?_ moves
  intro i i' hi _
  rw [Timeline.isEnded_of_le (Nat.zero_le i)] at hi
  cases hi

/-- A loop is started, shut down during its first tick, and started again. -/
def restart : List Move :=
  [.start, .proceed 0, .turn (.loop 0), .pass 10, .turn (.loop 0), .turn (.run 0), .shutdown,
    .proceed 1, .start, .proceed 2, .turn (.loop 1), .pass 20, .turn (.loop 1), .turn (.run 1)]

/-- Both loops have yet to end, and a tick of each is running. -/
theorem restart_overlaps :
    let w := (ofJob ⟨10, [.sleep 100, .sleep 100], [], []⟩).run restart
    ¬ w.timeline.OneLoop ∧ w.calls = [.returned, .waiting 0, .returned] ∧
      w.timeline.loops.map Loop.phase =
        [.ticking 20 (.asleep 110 (some .done)), .ticking 30 (.asleep 120 (some .done))] ∧
      w.timeline.job.notes = [(20, .tick false), (10, .tick false)] := by
  refine ⟨fun hone => ?_, ?_⟩
  · exact absurd (hone 0 1 (by decide) (by decide)) (by decide)
  · decide

end Callers

end ClusterOutbox
