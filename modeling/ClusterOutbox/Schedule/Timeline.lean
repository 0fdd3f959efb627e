import ClusterOutbox.Schedule.Loop

namespace ClusterOutbox

/-- Who may have a turn: a loop, or the tick or hook that it runs. -/
inductive Turn
  | loop (i : Nat)
  | run (i : Nat)
deriving DecidableEq

/-- A job with the loops that have been begun for it, and the time in milliseconds. Turns are taken one
at a time, and time passes only when nobody has a turn. -/
structure Timeline where
  now : Nat
  job : Job
  loops : List Loop
  /-- The turns to be taken, the next one first. -/
  queue : List Turn
  /-- The turns to come at a time, in the order in which they were asked for. -/
  alarms : List (Nat × Turn)
deriving DecidableEq

namespace Timeline

def ofJob (j : Job) : Timeline := ⟨0, j, [], [], []⟩

/-- Lines up for a turn; nobody lines up twice. -/
def enqueue (t : Timeline) (turn : Turn) : Timeline :=
  if t.queue.contains turn then t else { t with queue := t.queue ++ [turn] }

def setAlarm (t : Timeline) (time : Nat) (turn : Turn) : Timeline :=
  { t with alarms := t.alarms ++ [(time, turn)] }

/-- What a turn of a loop leads to. -/
def wake (t : Timeline) (i : Nat) : Option Wake → Timeline
  | some .loop => t.enqueue (.loop i)
  | some .run => t.enqueue (.run i)
  | some (.loopAt time) => t.setAlarm time (.loop i)
  | some (.runAt time) => t.setAlarm time (.run i)
  | none => t

def take (t : Timeline) : Turn → Timeline
  | .loop i =>
    match t.loops[i]? with
    | some l =>
      let (l, next) := l.turn t.now t.job.period
      { t with loops := t.loops.set i l }.wake i next
    | none => t
  | .run i =>
    match t.loops[i]? with
    | some l =>
      let (l, job, next) := l.runTurn t.now t.job
      { t with job, loops := t.loops.set i l }.wake i next
    | none => t

/-- Takes at most a number of turns. -/
def takeTurns : Nat → Timeline → Timeline
  | 0, t => t
  | fuel + 1, t =>
    match t.queue with
    | [] => t
    | turn :: rest => takeTurns fuel ({ t with queue := rest }.take turn)

/-- More turns than can be taken at one time: a late loop catches up with few ticks, and then waits. -/
def turnBound (t : Timeline) : Nat := 64 * (t.loops.length + 1)

/-- Takes turns until there are none. -/
def settle (t : Timeline) : Timeline := t.takeTurns t.turnBound

/-- Moves to a time; those whose alarm has come line up. -/
def ring (t : Timeline) (time : Nat) : Timeline :=
  let due := t.alarms.filter fun a => a.1 ≤ time
  due.foldl (fun t a => t.enqueue a.2)
    { t with now := max t.now time, alarms := t.alarms.filter fun a => time < a.1 }

/-- Lets time pass from alarm to alarm up to a limit, which is not reached. -/
def pass : Nat → Nat → Timeline → Timeline
  | 0, _, t => t
  | fuel + 1, limit, t =>
    let t := t.settle
    match (t.alarms.map (·.1)).min? with
    | some time => if time < limit then pass fuel limit (t.ring time) else t
    | none => t

/-- Waits until a time. Turns at that very time are left to come. -/
def moveTo (t : Timeline) (time : Nat) : Timeline :=
  if time ≤ t.now then t else (pass (time - t.now) time t).ring time

def sleep (t : Timeline) (ms : Nat) : Timeline := t.moveTo (t.now + ms)

/-- Begins a loop; the result tells which one it is. -/
def start (t : Timeline) : Nat × Timeline :=
  let i := t.loops.length
  (i, { t with loops := t.loops ++ [Loop.start] }.enqueue (.loop i))

def isEnded (t : Timeline) (i : Nat) : Bool := (t.loops[i]?.map Loop.isEnded).getD true

/-- The turns after which whoever waits is asked again. -/
def roundSize : Nat := 61

/-- Takes turns, round by round, until there are none or a loop has ended. -/
def settleFor (i : Nat) : Nat → Timeline → Timeline
  | 0, t => t
  | fuel + 1, t =>
    let t := t.takeTurns roundSize
    if t.isEnded i ∨ t.queue = [] then t else settleFor i fuel t

/-- Waits for a loop that has been signalled: it ends its tick, runs its hook and ends. -/
def waitFor (t : Timeline) (i : Nat) : Nat → Timeline
  | 0 => t
  | fuel + 1 =>
    let t := settleFor i t.turnBound t
    if t.isEnded i then t
    else match t.loops[i]?.bind Loop.wakeTime? with
      | some time => (t.moveTo time).waitFor i fuel
      | none => t

def signal (t : Timeline) (i : Nat) : Timeline :=
  match t.loops[i]? with
  | some l =>
    let (l, next) := l.signal
    { t with loops := t.loops.set i l }.wake i next
  | none => t

/-- Signals a loop and waits until it has ended. -/
def stop (t : Timeline) (i : Nat) : Timeline := (t.signal i).waitFor i 3

end Timeline

/-- A service keeps the last loop that it began, unless it has stopped it. -/
structure Service where
  current : Option Nat
deriving DecidableEq

namespace Service

def isRunning (s : Service) (t : Timeline) : Bool :=
  match s.current with
  | some i => !t.isEnded i
  | none => false

/-- Begins a loop unless one is running. -/
def start (s : Service) (t : Timeline) : Service × Timeline :=
  if s.isRunning t then (s, t)
  else
    let (i, t) := t.start
    (⟨some i⟩, t)

/-- Lets go of the loop and signals it; the result tells which one it was. It may still have to end its
tick and to run its hook. -/
def release (s : Service) (t : Timeline) : Option Nat × Service × Timeline :=
  match s.current with
  | some i => (some i, ⟨none⟩, t.signal i)
  | none => (none, s, t)

/-- Stops the loop, if there is one, and waits until it has ended. -/
def stop (s : Service) (t : Timeline) : Service × Timeline :=
  match s.release t with
  | (some i, s, t) => (s, t.waitFor i 3)
  | (none, s, t) => (s, t)

end Service

end ClusterOutbox
