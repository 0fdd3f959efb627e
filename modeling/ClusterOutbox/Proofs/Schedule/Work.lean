import ClusterOutbox.Proofs.Schedule.Standing

namespace ClusterOutbox

namespace Run

def work : Run → Nat
  | begun => 3
  | asleep _ _ | awaiting _ => 2
  | returned => 1

theorem work_start (now : Nat) (signalled : Bool) (action : Action) (note : Option Note) (j : Job) :
    (start now signalled action note j).1.work < begun.work := by
  rcases start_cases now signalled action note j with
    ⟨-, hstart⟩ | ⟨_, -, -, hstart⟩ | ⟨-, -, hstart⟩
  all_goals
    rw [hstart]
    simp [work]

theorem resume_cases (now : Nat) (signalled : Bool) (j : Job) (run : Run) :
    ((resume now signalled j run).1 = run ∧ run.wake? ≠ some .run) ∨
      (resume now signalled j run).1.work < run.work := by
  cases run with
  | begun => exact .inl ⟨rfl, by simp [wake?]⟩
  | returned => exact .inl ⟨rfl, by simp [wake?]⟩
  | asleep time note =>
    rw [resume]
    split
    · exact .inr (by simp [work])
    · exact .inl ⟨rfl, by simp [wake?]⟩
  | awaiting note =>
    rw [resume]
    split
    · exact .inr (by simp [work])
    · exact .inl ⟨rfl, by simp [wake?]⟩

end Run

namespace Loop

variable {l l' : Loop} {now period due next : Nat} {part : Part} {run run' : Run}

/-- A bound on the ticks that can still begin at a time. One that is late moves those after it, and of
the others there are few. -/
def catchUp (due now : Nat) : Nat :=
  if now < due then 0 else if due + tolerance < now then 1 else now + 1 - due

theorem catchUp_le (due now : Nat) : catchUp due now ≤ 6 := by
  unfold catchUp tolerance
  split
  · omega
  · split <;> omega

theorem catchUp_nextDue (hperiod : 0 < period) (hdue : due ≤ now) :
    catchUp (nextDue period due now) now < catchUp due now := by
  unfold catchUp nextDue tolerance
  rw [if_neg (Nat.not_lt.mpr hdue)]
  split
  · rw [if_pos (by omega)]
    exact Nat.zero_lt_one
  · by_cases hnext : now < due + period
    · rw [if_pos hnext]
      omega
    · rw [if_neg hnext, if_neg (by omega)]
      omega

def late (l : Loop) (due now : Nat) : Nat :=
  if l.shutdown.signalled then 0 else 4 * catchUp due now

/-- A bound on the turns by which a loop gets on at a time. -/
def work (l : Loop) (now : Nat) : Nat :=
  match l.phase with
  | .begun => 5
  | .idle due alarmed => l.late due now + if alarmed then 4 else 5
  | .ticking next run => l.late next now + run.work + 4
  | .closing run => run.work
  | .ended => 0

theorem work_le (l : Loop) (now : Nat) : l.work now ≤ 31 := by
  have hlate (due : Nat) : l.late due now ≤ 24 := by
    have hle := catchUp_le due now
    unfold late
    split <;> omega
  have hrun (run : Run) : run.work ≤ 3 := by cases run <;> simp [Run.work]
  unfold work
  split
  next => omega
  next due _ _ =>
    have := hlate due
    split <;> omega
  next next run _ =>
    have := hlate next
    have := hrun run
    omega
  next run _ =>
    have := hrun run
    omega
  next => omega

/-- Once a loop is signalled, no tick is late. -/
theorem work_of_signalled (h : l.shutdown.signalled = true) (now now' : Nat) :
    l.work now = l.work now' := by
  simp [work, late, h]

theorem work_run (l' : Loop) (hphase : l.phase = part.phase next run) (hphase' : l'.phase = part.phase next run')
    (hshutdown : l'.shutdown = l.shutdown) (hlt : run'.work < run.work) (now : Nat) :
    l'.work now < l.work now := by
  have hlate : l'.late next now = l.late next now := by rw [late, late, hshutdown]
  unfold work
  rw [hphase, hphase']
  cases part with
  | tick =>
    change l'.late next now + run'.work + 4 < l.late next now + run.work + 4
    omega
  | hook => exact hlt

/-- Between two ticks a loop gets on, unless it waits already. -/
theorem work_rest (l : Loop) (hperiod : 0 < period) (due now : Nat) (alarmed : Bool) :
    (l.rest now period due alarmed).1.work now < l.late due now + 4 ∨
      (now < due ∧ (l.rest now period due alarmed).1 = { l with phase := .idle due true } ∧
        (alarmed = true → (l.rest now period due alarmed).2 = none)) := by
  rcases l.rest_cases now period due alarmed with
    ⟨hs, hrest⟩ | ⟨hs, hdue, hrest⟩ | ⟨hs, hdue, hrest⟩
  · left
    rw [hrest]
    simp only [work, Run.work]
    omega
  · left
    have hlt := catchUp_nextDue hperiod hdue
    rw [hrest]
    simp only [work, late, hs, Run.work]
    simp
    omega
  · right
    rw [hrest]
    exact ⟨hdue, rfl, fun halarmed => if_pos halarmed⟩

theorem turn_work (l : Loop) (hperiod : 0 < period) (now : Nat) :
    l.turn now period = (l, none) ∨ (l.turn now period).1.work now < l.work now := by
  have hidle (due : Nat) (hlt : now < due) :
      ({ l with phase := .idle due true } : Loop).work now = 4 := by
    simp [work, late, catchUp, hlt]
  unfold turn
  split
  next hphase =>
    right
    have hlate : l.late (now + period) now = 0 := by
      simp [late, catchUp, hperiod]
    have hwork : l.work now = 5 := by rw [work, hphase]
    rcases l.work_rest hperiod (now + period) now false with hlt | ⟨hlt, hrest, -⟩
    · omega
    · rw [hrest, hidle _ hlt]
      omega
  next due alarmed hphase =>
    have hwork : l.work now = l.late due now + if alarmed then 4 else 5 := by rw [work, hphase]
    rcases l.work_rest hperiod due now alarmed with hlt | ⟨hlt, hrest, hnone⟩
    · right
      cases alarmed <;> simp at hwork <;> omega
    · cases alarmed with
      | true =>
        left
        refine Prod.ext (hrest.trans ?_) (hnone rfl)
        rw [← hphase]
      | false =>
        right
        simp at hwork
        rw [hrest, hidle _ hlt]
        omega
  next next hphase =>
    right
    have hwork : l.work now = l.late next now + 5 := by rw [work, hphase]; rfl
    rcases l.work_rest hperiod next now false with hlt | ⟨hlt, hrest, -⟩
    · omega
    · rw [hrest, hidle _ hlt]
      omega
  next hphase =>
    right
    simp [work, hphase, Run.work]
  next => exact .inl rfl

theorem runTurn_work (l : Loop) (now : Nat) (j : Job) :
    ((l.runTurn now j).1 = l ∧ (l.runTurn now j).2.2 ≠ some .run ∧
      ((l.runTurn now j).2.2 = some .loop → ∃ (part : Part) (next : Nat),
        l.phase = part.phase next .returned)) ∨
      (l.runTurn now j).1.work now < l.work now := by
  have hrun (part : Part) (next : Nat) (run : Run) (hphase : l.phase = part.phase next run) :
      ((l.runTurn now j).1 = l ∧ (l.runTurn now j).2.2 ≠ some .run ∧
        ((l.runTurn now j).2.2 = some .loop → run = .returned)) ∨
        (l.runTurn now j).1.work now < l.work now := by
    by_cases hbegun : run = .begun
    · right
      subst hbegun
      rw [runTurn_begun now j hphase]
      exact work_run { l with phase := part.phase next _ } hphase rfl rfl
        (Run.work_start _ _ _ _ _) now
    · rw [runTurn_resume part now j hphase hbegun]
      rcases Run.resume_cases now l.shutdown.signalled j run with ⟨hsame, hwake⟩ | hlt
      · left
        dsimp only
        rw [hsame]
        refine ⟨?_, hwake, fun hloop => ?_⟩
        · rw [← hphase]
        · cases run <;> simp [Run.wake?] at hloop ⊢
      · exact .inr (work_run { l with phase := part.phase next _ } hphase rfl rfl hlt now)
  cases hphase : l.phase with
  | ticking next run =>
    rcases hrun .tick next run hphase with ⟨hsame, hwake, hloop⟩ | hlt
    · exact .inl ⟨hsame, hwake, fun h => ⟨.tick, next, hloop h ▸ rfl⟩⟩
    · exact .inr hlt
  | closing run =>
    rcases hrun .hook 0 run hphase with ⟨hsame, hwake, hloop⟩ | hlt
    · exact .inl ⟨hsame, hwake, fun h => ⟨.hook, 0, hloop h ▸ rfl⟩⟩
    · exact .inr hlt
  | begun | idle | ended =>
    left
    simp [runTurn, hphase]

end Loop

end ClusterOutbox
