namespace ClusterOutbox

/-- Whether a shutdown has been signalled; a signal is never taken back. -/
structure Shutdown where
  signalled : Bool
deriving DecidableEq

namespace Shutdown

/-- A signal that nobody raises. -/
def never : Shutdown := ⟨false⟩

def signal (_ : Shutdown) : Shutdown := ⟨true⟩

end Shutdown

/-- What one run of a job does. -/
inductive Action
  | succeed
  | fail
  | panic
  /-- Takes some milliseconds. -/
  | sleep (ms : Nat)
  /-- Waits for the shutdown. -/
  | await
deriving DecidableEq

/-- What a job notes of itself. -/
inductive Note
  | tick (signalled : Bool)
  | done
  | failed
  | hook (signalled : Bool)
  | hookDone
deriving DecidableEq

namespace Action

/-- What is noted at the end of a tick, unless it panics. -/
def tickNote? : Action → Option Note
  | fail => some .failed
  | panic => none
  | _ => some .done

/-- What is noted at the end of the shutdown hook, unless it panics. -/
def hookNote? : Action → Option Note
  | panic => none
  | _ => some .hookDone

end Action

/-- A job: its interval, what its ticks and hooks do in turn, and its notes, the last one first. -/
structure Job where
  /-- Milliseconds. -/
  interval : Nat
  ticks : List Action
  hooks : List Action
  notes : List (Nat × Note)
deriving DecidableEq

namespace Job

/-- The time between two ticks, at least a millisecond. -/
def period (j : Job) : Nat := max j.interval 1

def note (j : Job) (now : Nat) (n : Note) : Job := { j with notes := (now, n) :: j.notes }

def noteAny (j : Job) (now : Nat) : Option Note → Job
  | some n => j.note now n
  | none => j

end Job

/-- Where a run of a tick or of the shutdown hook stands. What it notes at its end is known from its
beginning. -/
inductive Run
  /-- It has yet to have its first turn. -/
  | begun
  | asleep (wakeTime : Nat) (note : Option Note)
  | awaiting (note : Option Note)
  | returned
deriving DecidableEq

/-- What a turn leads to: a turn of the loop or of its run, now or at a time. -/
inductive Wake
  | loop
  | loopAt (time : Nat)
  | run
  | runAt (time : Nat)
deriving DecidableEq

namespace Run

/-- What follows a turn of a run. -/
def wake? : Run → Option Wake
  | asleep time _ => some (.runAt time)
  | returned => some .loop
  | _ => none

/-- The run of an action whose first turn is now. -/
def start (now : Nat) (signalled : Bool) (action : Action) (note : Option Note) (j : Job) :
    Run × Job :=
  match action with
  | .sleep (ms + 1) => (asleep (now + ms + 1) note, j)
  | .await => if signalled then (returned, j.noteAny now note) else (awaiting note, j)
  | _ => (returned, j.noteAny now note)

/-- The first turn of a tick. -/
def startTick (now : Nat) (signalled : Bool) (j : Job) : Run × Job :=
  let action := j.ticks.head?.getD .succeed
  start now signalled action action.tickNote?
    { j.note now (.tick signalled) with ticks := j.ticks.drop 1 }

/-- The first turn of a shutdown hook. -/
def startHook (now : Nat) (signalled : Bool) (j : Job) : Run × Job :=
  let action := j.hooks.head?.getD .succeed
  start now signalled action action.hookNote?
    { j.note now (.hook signalled) with hooks := j.hooks.drop 1 }

/-- A later turn of a run. -/
def resume (now : Nat) (signalled : Bool) (j : Job) : Run → Run × Job
  | asleep time note => if time ≤ now then (returned, j.noteAny now note) else (asleep time note, j)
  | awaiting note => if signalled then (returned, j.noteAny now note) else (awaiting note, j)
  | r => (r, j)

end Run

/-- Where a loop stands. -/
inductive Phase
  /-- It has yet to have its first turn. -/
  | begun
  /-- It waits for its next tick; there may be an alarm for it already. -/
  | idle (due : Nat) (alarmed : Bool)
  /-- A tick is running; the next one will be due. -/
  | ticking (next : Nat) (run : Run)
  /-- The shutdown hook is running. -/
  | closing (run : Run)
  | ended
deriving DecidableEq

/-- A loop that runs a job at its interval until it is told to shut down. -/
structure Loop where
  phase : Phase
  shutdown : Shutdown
deriving DecidableEq

namespace Loop

def start : Loop := ⟨.begun, .never⟩

def isEnded (l : Loop) : Bool := l.phase == .ended

/-- Signals the shutdown; whoever waits for it has a turn. -/
def signal (l : Loop) : Loop × Option Wake :=
  ({ l with shutdown := l.shutdown.signal },
    match l.phase with
    | .idle _ _ => some .loop
    | .ticking _ (.awaiting _) => some .run
    | _ => none)

/-- The time until which the run of a loop sleeps. -/
def wakeTime? (l : Loop) : Option Nat :=
  match l.phase with
  | .ticking _ (.asleep time _) => some time
  | .closing (.asleep time _) => some time
  | _ => none

/-- Milliseconds by which a tick may be late without moving those after it. -/
def tolerance : Nat := 5

/-- When the next tick is due after one that runs now and was due before. -/
def nextDue (period due now : Nat) : Nat :=
  if due + tolerance < now then now + period else due + period

/-- Between two ticks: the shutdown comes before a tick that is due. -/
def rest (l : Loop) (now period due : Nat) (alarmed : Bool) : Loop × Option Wake :=
  if l.shutdown.signalled then ({ l with phase := .closing .begun }, some .run)
  else if due ≤ now then
    ({ l with phase := .ticking (nextDue period due now) .begun }, some .run)
  else ({ l with phase := .idle due true }, if alarmed then none else some (.loopAt due))

/-- A turn of a loop. The first tick is due a whole period after the first turn. -/
def turn (l : Loop) (now period : Nat) : Loop × Option Wake :=
  match l.phase with
  | .begun => l.rest now period (now + period) false
  | .idle due alarmed => l.rest now period due alarmed
  | .ticking next .returned => l.rest now period next false
  | .closing .returned => ({ l with phase := .ended }, none)
  | _ => (l, none)

/-- A turn of the run of a loop. -/
def runTurn (l : Loop) (now : Nat) (j : Job) : Loop × Job × Option Wake :=
  let signalled := l.shutdown.signalled
  match l.phase with
  | .ticking next run =>
    let (run, j) := if run = .begun then Run.startTick now signalled j else Run.resume now signalled j run
    ({ l with phase := .ticking next run }, j, run.wake?)
  | .closing run =>
    let (run, j) := if run = .begun then Run.startHook now signalled j else Run.resume now signalled j run
    ({ l with phase := .closing run }, j, run.wake?)
  | _ => (l, j, none)

end Loop

end ClusterOutbox
