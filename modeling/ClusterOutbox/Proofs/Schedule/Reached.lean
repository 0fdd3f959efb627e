import ClusterOutbox.Proofs.Schedule.Chronicle
import ClusterOutbox.Proofs.Schedule.Turns

namespace ClusterOutbox

namespace Part

/-- What the next run does. -/
def action (part : Part) (j : Job) : Action := (part.script j).head?.getD .succeed

/-- The job once a run has begun. -/
def begin (part : Part) (now : Nat) (signalled : Bool) (j : Job) : Job :=
  let j := j.note now (part.beginNote signalled)
  match part with
  | tick => { j with ticks := j.ticks.drop 1 }
  | hook => { j with hooks := j.hooks.drop 1 }

def phase (part : Part) (next : Nat) (run : Run) : Phase :=
  match part with
  | tick => .ticking next run
  | hook => .closing run

end Part

namespace Loop

variable {l : Loop} {part : Part} {next : Nat} {run : Run}

theorem runTurn_begun (now : Nat) (j : Job) (h : l.phase = part.phase next .begun) :
    l.runTurn now j =
      let started := Run.start now l.shutdown.signalled (part.action j)
        (part.endNote? (part.action j)) (part.begin now l.shutdown.signalled j)
      ({ l with phase := part.phase next started.1 }, started.2, started.1.wake?) := by
  unfold runTurn
  cases part <;> (rw [h]; rfl)

theorem runTurn_resume (part : Part) (now : Nat) (j : Job) (h : l.phase = part.phase next run)
    (hrun : run ≠ .begun) :
    l.runTurn now j =
      let resumed := Run.resume now l.shutdown.signalled j run
      ({ l with phase := part.phase next resumed.1 }, resumed.2, resumed.1.wake?) := by
  unfold runTurn
  cases part <;> simp [h, Part.phase, hrun]

end Loop

namespace Run

def ending (part : Part) (note : Option Note) : Run → List Happening
  | returned => [.ended part note]
  | _ => []

/-- What a turn of a run makes happen. -/
def happenings (part : Part) (now : Nat) (signalled : Bool) (j : Job) (run : Run) :
    List Happening :=
  match run with
  | begun =>
    let action := part.action j
    let note := part.endNote? action
    .begun part action signalled ::
      (start now signalled action note (part.begin now signalled j)).1.ending part note
  | asleep _ note | awaiting note => (resume now signalled j run).1.ending part note
  | returned => []

end Run

def Loop.happenings (l : Loop) (now : Nat) (j : Job) : List Happening :=
  match l.phase with
  | .ticking _ run => run.happenings .tick now l.shutdown.signalled j
  | .closing run => run.happenings .hook now l.shutdown.signalled j
  | _ => []

theorem Loop.happenings_run {l : Loop} {part : Part} {next : Nat} {run : Run} (now : Nat) (j : Job)
    (h : l.phase = part.phase next run) :
    l.happenings now j = run.happenings part now l.shutdown.signalled j := by
  unfold happenings
  cases part <;> rw [h] <;> rfl

namespace Timeline

/-- What a turn makes happen. -/
def happenings (t : Timeline) : Turn → List Happening
  | .loop _ => []
  | .run i =>
    match t.loops[i]? with
    | some l => l.happenings t.now t.job
    | none => []

/-- Somebody who has lined up has a turn. -/
def serve (t : Timeline) (turn : Turn) : Timeline :=
  { t with queue := t.queue.erase turn }.take turn

end Timeline

namespace Timeline

variable {t : Timeline} {l : Loop}

theorem serve_loop {l' : Loop} {next : Option Wake} (h : t.loops = [l])
    (hturn : l.turn t.now t.job.period = (l', next)) :
    t.serve (.loop 0) =
      { t with queue := t.queue.erase (.loop 0), loops := [l'] }.wake 0 next := by
  simp [serve, take, h, hturn]

theorem serve_run {l' : Loop} {job : Job} {next : Option Wake} (h : t.loops = [l])
    (hturn : l.runTurn t.now t.job = (l', job, next)) :
    t.serve (.run 0) =
      { t with queue := t.queue.erase (.run 0), job, loops := [l'] }.wake 0 next := by
  simp [serve, take, h, hturn]

theorem happenings_run (h : t.loops = [l]) :
    t.happenings (.run 0) = l.happenings t.now t.job := by
  simp [happenings, h]

theorem signal_loop (h : t.loops = [l]) :
    t.signal 0 = { t with loops := [l.signal.1] }.wake 0 l.signal.2 := by
  simp [signal, h]

end Timeline

namespace Chronicle

/-- Whoever lines up has a turn, in any order; time passes where nobody does, and not beyond an
alarm. -/
inductive Step : Timeline × Chronicle → Timeline × Chronicle → Prop
  | turn {t : Timeline} {c : Chronicle} {turn : Turn} : turn ∈ t.queue →
    Step (t, c) (t.serve turn, c ++ (t.happenings turn).map fun h => (t.now, h))
  | pass {t : Timeline} {c : Chronicle} {time : Nat} : t.queue = [] → t.now ≤ time →
    (∀ a ∈ t.alarms, time ≤ a.1) → Step (t, c) (t.ring time, c)

/-- What may become of a loop that is begun for a job at a time, and what has happened to it. It is
signalled once, at any moment; whoever stops it goes on once it has ended. -/
inductive Reached (j : Job) (start : Nat) : Timeline → Chronicle → Prop
  | start : Reached j start { Timeline.ofJob j with now := start }.start.2 []
  | step {t t' : Timeline} {c c' : Chronicle} :
    Reached j start t c → Step (t, c) (t', c') → Reached j start t' c'
  | signal {t : Timeline} {c : Chronicle} :
    Reached j start t c → c.signalledAt? = none →
    Reached j start (t.signal 0) (c ++ [(t.now, .signalled)])
  | stopped {t : Timeline} {c : Chronicle} :
    Reached j start t c → t.isEnded 0 = true → (∀ h ∈ c, h.2 ≠ .stopped) →
    Reached j start t (c ++ [(t.now, .stopped)])

end Chronicle

end ClusterOutbox
