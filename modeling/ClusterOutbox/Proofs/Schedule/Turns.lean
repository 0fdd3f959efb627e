import ClusterOutbox.Schedule.Timeline

namespace ClusterOutbox

theorem Job.period_pos (j : Job) : 0 < j.period :=
  Nat.lt_of_lt_of_le Nat.zero_lt_one (Nat.le_max_right _ _)

/-- Whether an action ends in the turn in which it begins. -/
def Action.Immediate (signalled : Bool) : Action → Prop
  | sleep ms => ms = 0
  | await => signalled = true
  | _ => True

theorem Run.start_cases (now : Nat) (signalled : Bool) (action : Action) (note : Option Note)
    (j : Job) :
    (action.Immediate signalled ∧
      start now signalled action note j = (.returned, j.noteAny now note)) ∨
    (∃ ms, 0 < ms ∧ action = .sleep ms ∧
      start now signalled action note j = (.asleep (now + ms) note, j)) ∨
    (action = .await ∧ signalled = false ∧
      start now signalled action note j = (.awaiting note, j)) := by
  match action with
  | .succeed | .fail | .panic => exact .inl ⟨trivial, rfl⟩
  | .sleep 0 => exact .inl ⟨rfl, rfl⟩
  | .sleep (ms + 1) => exact .inr (.inl ⟨ms + 1, Nat.succ_pos ms, rfl, rfl⟩)
  | .await =>
    cases signalled with
    | true => exact .inl ⟨rfl, rfl⟩
    | false => exact .inr (.inr ⟨rfl, rfl, rfl⟩)

theorem Run.lt_of_start {now time : Nat} {signalled : Bool} {action : Action} {note : Option Note}
    {j : Job} (h : (start now signalled action note j).1.wake? = some (.loopAt time) ∨
      (start now signalled action note j).1.wake? = some (.runAt time)) : now < time := by
  rcases start_cases now signalled action note j with
    ⟨-, hstart⟩ | ⟨ms, hms, -, hstart⟩ | ⟨-, -, hstart⟩
  · simp [hstart, wake?] at h
  · obtain rfl : now + ms = time := by simpa [hstart, wake?] using h
    omega
  · simp [hstart, wake?] at h

namespace Loop

/-- What a loop does between two ticks. -/
theorem rest_cases (l : Loop) (now period due : Nat) (alarmed : Bool) :
    (l.shutdown.signalled = true ∧
      l.rest now period due alarmed = ({ l with phase := .closing .begun }, some .run)) ∨
    (l.shutdown.signalled = false ∧ due ≤ now ∧ l.rest now period due alarmed =
      ({ l with phase := .ticking (nextDue period due now) .begun }, some .run)) ∨
    (l.shutdown.signalled = false ∧ now < due ∧ l.rest now period due alarmed =
      ({ l with phase := .idle due true }, if alarmed then none else some (.loopAt due))) := by
  unfold rest
  cases l.shutdown.signalled with
  | true => exact .inl ⟨rfl, rfl⟩
  | false =>
    by_cases hdue : due ≤ now
    · exact .inr (.inl ⟨rfl, hdue, by simp [hdue]⟩)
    · exact .inr (.inr ⟨rfl, Nat.lt_of_not_le hdue, by simp [hdue]⟩)

theorem lt_of_rest {l : Loop} {now period due time : Nat} {alarmed : Bool}
    (h : (l.rest now period due alarmed).2 = some (.loopAt time) ∨
      (l.rest now period due alarmed).2 = some (.runAt time)) : now < time := by
  rcases l.rest_cases now period due alarmed with
    ⟨-, hrest⟩ | ⟨-, -, hrest⟩ | ⟨-, hdue, hrest⟩
  · simp [hrest] at h
  · simp [hrest] at h
  · cases alarmed with
    | true => simp [hrest] at h
    | false =>
      obtain rfl : due = time := by simpa [hrest] using h
      exact hdue

theorem lt_nextDue {period due now : Nat} (hperiod : 0 < period) : due < nextDue period due now := by
  unfold nextDue
  split <;> omega

theorem nextDue_le {period due now : Nat} (hdue : due ≤ now) :
    nextDue period due now ≤ now + period := by
  unfold nextDue
  split <;> omega

end Loop

namespace Timeline

variable {t : Timeline} {turn : Turn} {i : Nat} {next : Option Wake}

theorem enqueue_frame (t : Timeline) (turn : Turn) :
    (t.enqueue turn).now = t.now ∧ (t.enqueue turn).job = t.job ∧
      (t.enqueue turn).loops = t.loops ∧ (t.enqueue turn).alarms = t.alarms := by
  unfold enqueue
  split <;> exact ⟨rfl, rfl, rfl, rfl⟩

theorem mem_enqueue {other : Turn} :
    other ∈ (t.enqueue turn).queue ↔ other ∈ t.queue ∨ other = turn := by
  unfold enqueue
  split
  next hcontains =>
    rw [List.contains_iff_mem] at hcontains
    refine ⟨.inl, ?_⟩
    rintro (hmem | rfl)
    · exact hmem
    · exact hcontains
  next => simp

theorem nodup_enqueue (turn : Turn) (h : t.queue.Nodup) : (t.enqueue turn).queue.Nodup := by
  unfold enqueue
  split
  next => exact h
  next hcontains =>
    rw [List.contains_iff_mem] at hcontains
    refine List.nodup_append.mpr ⟨h, by simp, fun a ha b hb => ?_⟩
    rintro rfl
    exact hcontains (List.mem_singleton.mp hb ▸ ha)

theorem now_wake (t : Timeline) (i : Nat) (next : Option Wake) : (t.wake i next).now = t.now := by
  unfold wake
  split <;> simp [enqueue_frame, setAlarm]

theorem job_wake (t : Timeline) (i : Nat) (next : Option Wake) : (t.wake i next).job = t.job := by
  unfold wake
  split <;> simp [enqueue_frame, setAlarm]

theorem loops_wake (t : Timeline) (i : Nat) (next : Option Wake) :
    (t.wake i next).loops = t.loops := by
  unfold wake
  split <;> simp [enqueue_frame, setAlarm]

theorem nodup_wake (i : Nat) (next : Option Wake) (h : t.queue.Nodup) :
    (t.wake i next).queue.Nodup := by
  unfold wake
  split
  · exact nodup_enqueue _ h
  · exact nodup_enqueue _ h
  all_goals exact h

theorem mem_queue_wake {other : Turn} :
    other ∈ (t.wake i next).queue ↔ other ∈ t.queue ∨
      (next = some .loop ∧ other = .loop i) ∨ (next = some .run ∧ other = .run i) := by
  unfold wake
  split <;> simp [mem_enqueue, setAlarm]

theorem queue_wake_of_ne (hloop : next ≠ some .loop) (hrun : next ≠ some .run) :
    (t.wake i next).queue = t.queue := by
  unfold wake
  split <;> first | rfl | contradiction

theorem queue_wake_of_mem (h : .loop i ∈ t.queue) : (t.wake i (some .loop)).queue = t.queue := by
  have hcontains : t.queue.contains (.loop i) = true := by rwa [List.contains_iff_mem]
  rw [wake, enqueue, if_pos hcontains]

theorem length_wake_le (t : Timeline) (i : Nat) (next : Option Wake) :
    (t.wake i next).queue.length ≤ t.queue.length + 1 := by
  have henqueue (turn : Turn) : (t.enqueue turn).queue.length ≤ t.queue.length + 1 := by
    unfold enqueue
    split <;> simp
  unfold wake
  split
  · exact henqueue _
  · exact henqueue _
  all_goals exact Nat.le_succ _

theorem mem_alarms_wake {a : Nat × Turn} :
    a ∈ (t.wake i next).alarms ↔ a ∈ t.alarms ∨
      (∃ time, next = some (.loopAt time) ∧ a = (time, .loop i)) ∨
      ∃ time, next = some (.runAt time) ∧ a = (time, .run i) := by
  unfold wake
  split <;> simp [enqueue_frame, setAlarm]

theorem ring_frame (t : Timeline) (time : Nat) :
    (t.ring time).now = max t.now time ∧ (t.ring time).job = t.job ∧
      (t.ring time).loops = t.loops ∧
      (t.ring time).alarms = t.alarms.filter (fun a => time < a.1) ∧
      ∀ turn, turn ∈ (t.ring time).queue ↔
        turn ∈ t.queue ∨ ∃ a ∈ t.alarms, a.1 ≤ time ∧ a.2 = turn := by
  have hfold : ∀ (due : List (Nat × Turn)) (t : Timeline),
      (due.foldl (fun t a => t.enqueue a.2) t).now = t.now ∧
        (due.foldl (fun t a => t.enqueue a.2) t).job = t.job ∧
        (due.foldl (fun t a => t.enqueue a.2) t).loops = t.loops ∧
        (due.foldl (fun t a => t.enqueue a.2) t).alarms = t.alarms ∧
        ∀ turn, turn ∈ (due.foldl (fun t a => t.enqueue a.2) t).queue ↔
          turn ∈ t.queue ∨ turn ∈ due.map Prod.snd := by
    intro due
    induction due with
    | nil => intro t; simp
    | cons a due ih =>
      intro t
      obtain ⟨hnow, hjob, hloops, halarms, hqueue⟩ := ih (t.enqueue a.2)
      obtain ⟨hnow', hjob', hloops', halarms'⟩ := t.enqueue_frame a.2
      rw [List.foldl_cons]
      refine ⟨hnow.trans hnow', hjob.trans hjob', hloops.trans hloops', halarms.trans halarms', ?_⟩
      intro turn
      rw [hqueue turn, mem_enqueue, List.map_cons, List.mem_cons, or_assoc]
  obtain ⟨hnow, hjob, hloops, halarms, hqueue⟩ := hfold (t.alarms.filter fun a => a.1 ≤ time)
    { t with now := max t.now time, alarms := t.alarms.filter fun a => time < a.1 }
  refine ⟨hnow, hjob, hloops, halarms, fun turn => (hqueue turn).trans ?_⟩
  simp [and_assoc]

theorem nodup_ring (time : Nat) (h : t.queue.Nodup) : (t.ring time).queue.Nodup := by
  have hfold : ∀ (due : List (Nat × Turn)) (t : Timeline), t.queue.Nodup →
      (due.foldl (fun t a => t.enqueue a.2) t).queue.Nodup := by
    intro due
    induction due with
    | nil => exact fun _ ht => ht
    | cons a due ih => exact fun t ht => ih _ (nodup_enqueue a.2 ht)
  exact hfold _ _ h

theorem loops_ring (t : Timeline) (time : Nat) : (t.ring time).loops = t.loops :=
  (ring_frame t time).2.2.1

end Timeline

end ClusterOutbox
