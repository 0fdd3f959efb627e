import ClusterOutbox.Schedule.Timeline

namespace ClusterOutbox

/-- What a loop runs of its job. -/
inductive Part
  | tick
  | hook
deriving DecidableEq

namespace Part

def beginNote (part : Part) (signalled : Bool) : Note :=
  match part with
  | tick => .tick signalled
  | hook => .hook signalled

def endNote? : Part → Action → Option Note
  | tick => Action.tickNote?
  | hook => Action.hookNote?

/-- What the runs of a job do in turn. -/
def script (part : Part) (j : Job) : List Action :=
  match part with
  | tick => j.ticks
  | hook => j.hooks

end Part

/-- What happens to a loop: it runs its job, somebody signals it, and whoever stopped it goes on. -/
inductive Happening
  | begun (part : Part) (action : Action) (signalled : Bool)
  | ended (part : Part) (note : Option Note)
  | signalled
  | stopped
deriving DecidableEq

/-- What has happened to a loop and when, the first one first. -/
abbrev Chronicle := List (Nat × Happening)

namespace Chronicle

def signalledAt? (c : Chronicle) : Option Nat :=
  c.findSome? fun h => if h.2 = .signalled then some h.1 else none

/-- When the last tick began, or the loop if there was none. -/
def lastTick (start : Nat) (c : Chronicle) : Nat :=
  c.foldl (fun last h => if h.2 matches .begun .tick _ _ then h.1 else last) start

/-- The actions of the runs, in order. -/
def actions (c : Chronicle) (part : Part) : List Action :=
  c.filterMap fun
    | (_, .begun part' action _) => if part' = part then some action else none
    | _ => none

/-- The notes that the job makes of its runs. -/
def log (c : Chronicle) : List (Nat × Note) :=
  c.filterMap fun
    | (time, .begun part _ signalled) => some (time, part.beginNote signalled)
    | (time, .ended _ note) => note.map fun n => (time, n)
    | _ => none

/-- When a run ends that began at a time: it takes as long as its action says, and one that waits for
the shutdown ends with the signal. -/
def endsAt? (c : Chronicle) (began : Nat) : Action → Option Nat
  | .sleep ms => some (began + ms)
  | .await => c.signalledAt?.map (max began)
  | _ => some began

/-- Where a loop stands by what has happened. -/
inductive Stage
  | resting
  | running (part : Part) (began : Nat) (action : Action)
  /-- The hook has ended. -/
  | closed
  | stopped

end Chronicle

def Part.after : Part → Chronicle.Stage
  | tick => .resting
  | hook => .closed

namespace Chronicle

/-- The order in which things may happen. A run begins only where none is under way, and ends when its
action does. Ticks begin no earlier than a given time and no later than the signal; the hook begins
after the signal and is the last run; whoever stops the loop goes on after it. -/
inductive Orderly (earliest : Nat) : Chronicle → Stage → Prop
  | nil : Orderly earliest [] .resting
  | tick {c : Chronicle} {time : Nat} {action : Action} :
    Orderly earliest c .resting → earliest ≤ time → (∀ at_ ∈ c.signalledAt?, time ≤ at_) →
    Orderly earliest (c ++ [(time, .begun .tick action c.signalledAt?.isSome)])
      (.running .tick time action)
  | hook {c : Chronicle} {time : Nat} {action : Action} :
    Orderly earliest c .resting → c.signalledAt?.isSome = true →
    Orderly earliest (c ++ [(time, .begun .hook action true)]) (.running .hook time action)
  | ended {c : Chronicle} {part : Part} {began time : Nat} {action : Action} :
    Orderly earliest c (.running part began action) → c.endsAt? began action = some time →
    Orderly earliest (c ++ [(time, .ended part (part.endNote? action))]) part.after
  | signalled {c : Chronicle} {stage : Stage} {time : Nat} :
    Orderly earliest c stage → c.signalledAt? = none →
    Orderly earliest (c ++ [(time, .signalled)]) stage
  | stopped {c : Chronicle} {time : Nat} :
    Orderly earliest c .closed → Orderly earliest (c ++ [(time, .stopped)]) .stopped

variable {earliest : Nat} {c : Chronicle} {stage : Stage}

theorem signalledAt?_append (c c' : Chronicle) :
    signalledAt? (c ++ c') = c.signalledAt?.or c'.signalledAt? :=
  List.findSome?_append

theorem signalledAt?_concat (c : Chronicle) (time : Nat) (h : Happening) :
    signalledAt? (c ++ [(time, h)]) =
      c.signalledAt?.or (if h = .signalled then some time else none) := by
  rw [signalledAt?_append]
  simp [signalledAt?]

theorem signalledAt?_concat_of_ne (c : Chronicle) (time : Nat) {h : Happening}
    (hne : h ≠ .signalled) : signalledAt? (c ++ [(time, h)]) = c.signalledAt? := by
  rw [signalledAt?_concat, if_neg hne, Option.or_none]

theorem lastTick_concat (start : Nat) (c : Chronicle) (time : Nat) (h : Happening) :
    lastTick start (c ++ [(time, h)]) =
      if h matches .begun .tick _ _ then time else lastTick start c := by
  simp [lastTick, List.foldl_append]

theorem actions_concat (c : Chronicle) (part : Part) (time : Nat) (h : Happening) :
    actions (c ++ [(time, h)]) part = actions c part ++ actions [(time, h)] part := by
  simp [actions, List.filterMap_append]

theorem log_append (c c' : Chronicle) : log (c ++ c') = log c ++ log c' :=
  List.filterMap_append

theorem mem_signalledAt? {at_ : Nat} (h : at_ ∈ c.signalledAt?) : (at_, .signalled) ∈ c := by
  obtain ⟨x, hx, hsome⟩ := List.exists_of_findSome?_eq_some h
  obtain ⟨time, happening⟩ := x
  simp only [Option.ite_none_right_eq_some, Option.some.injEq] at hsome
  obtain ⟨rfl, rfl⟩ := hsome
  exact hx

/-- Ticks begin neither early nor after the signal. -/
theorem Orderly.tick_bounds (h : Orderly earliest c stage)
    (hsorted : c.Pairwise fun x y => x.1 ≤ y.1) {time : Nat} {action : Action} {signalled : Bool}
    (hmem : (time, .begun .tick action signalled) ∈ c) :
    earliest ≤ time ∧ ∀ at_ ∈ c.signalledAt?, time ≤ at_ := by
  induction h with
  | nil => simp at hmem
  | tick _ hearly hlate ih =>
    obtain ⟨hsorted, -, -⟩ := List.pairwise_append.mp hsorted
    rw [signalledAt?_concat_of_ne _ _ (by simp)]
    rcases List.mem_append.mp hmem with hmem | hmem
    · exact ih hsorted hmem
    · obtain ⟨rfl, -⟩ := Prod.mk.inj (List.mem_singleton.mp hmem)
      exact ⟨hearly, hlate⟩
  | hook _ _ ih | ended _ _ ih | stopped _ ih =>
    obtain ⟨hsorted, -, -⟩ := List.pairwise_append.mp hsorted
    rw [signalledAt?_concat_of_ne _ _ (by simp)]
    exact ih hsorted ((List.mem_append.mp hmem).resolve_right (by simp))
  | signalled _ hnone ih =>
    obtain ⟨hsorted, -, hlast⟩ := List.pairwise_append.mp hsorted
    have hmem := (List.mem_append.mp hmem).resolve_right (by simp)
    refine ⟨(ih hsorted hmem).1, ?_⟩
    rw [signalledAt?_concat, if_pos rfl, hnone, Option.none_or]
    rintro at_ ⟨rfl⟩
    exact hlast _ hmem _ (List.mem_singleton_self _)

/-- How many runs have begun. -/
def begins (c : Chronicle) : Nat := c.countP fun h => h.2 matches .begun _ _ _

/-- How many runs have ended. -/
def ends (c : Chronicle) : Nat := c.countP fun h => h.2 matches .ended _ _

/-- How many runs are under way. -/
def Stage.runs : Stage → Nat
  | running _ _ _ => 1
  | _ => 0

theorem Orderly.begins_eq (h : Orderly earliest c stage) :
    c.begins = c.ends + stage.runs := by
  have hbegins (c : Chronicle) (time : Nat) (h : Happening) :
      begins (c ++ [(time, h)]) = begins c + if h matches .begun _ _ _ then 1 else 0 := by
    simp [begins, List.countP_append, List.countP_cons]
  have hends (c : Chronicle) (time : Nat) (h : Happening) :
      ends (c ++ [(time, h)]) = ends c + if h matches .ended _ _ then 1 else 0 := by
    simp [ends, List.countP_append, List.countP_cons]
  induction h with
  | nil => rfl
  | @ended c part _ _ _ _ _ ih =>
    rw [hbegins, hends]
    cases part <;> simpa [Part.after, Stage.runs] using ih
  | tick _ _ _ ih | hook _ _ ih | stopped _ ih =>
    rw [hbegins, hends]
    simpa [Stage.runs] using ih
  | signalled _ _ ih =>
    rw [hbegins, hends]
    simpa using ih

theorem eq_append_cons_of_concat {x y : Nat × Happening} {before after : Chronicle}
    (hc : c ++ [y] = before ++ x :: after) :
    (c = before ∧ y = x) ∨ ∃ after', c = before ++ x :: after' := by
  rcases after.eq_nil_or_concat with rfl | ⟨after', z, rfl⟩
  · obtain ⟨hbefore, hx⟩ := List.append_inj' hc rfl
    exact .inl ⟨hbefore, List.singleton_inj.mp hx⟩
  · rw [List.concat_eq_append, ← List.cons_append, ← List.append_assoc] at hc
    exact .inr ⟨after', (List.append_inj' hc rfl).1⟩

/-- Every run begins where those before it have ended. -/
theorem Orderly.begun {before after : Chronicle} {time : Nat} {part : Part} {action : Action}
    {signalled : Bool} (h : Orderly earliest c stage)
    (hc : c = before ++ (time, .begun part action signalled) :: after) :
    Orderly earliest before .resting := by
  induction h generalizing after with
  | nil => simp at hc
  | tick hbefore _ _ ih | hook hbefore _ ih =>
    rcases eq_append_cons_of_concat hc with ⟨rfl, -⟩ | ⟨after', hc'⟩
    · exact hbefore
    · exact ih hc'
  | ended _ _ ih | signalled _ _ ih | stopped _ ih =>
    rcases eq_append_cons_of_concat hc with ⟨-, hx⟩ | ⟨after', hc'⟩
    · cases hx
    · exact ih hc'

theorem Orderly.whole {before after : Chronicle} {time : Nat} {part : Part} {note : Option Note}
    (h : Orderly earliest c stage) (hc : c = before ++ (time, .ended part note) :: after) :
    ∃ began action, Orderly earliest before (.running part began action) ∧
      before.endsAt? began action = some time ∧ note = part.endNote? action := by
  induction h generalizing after with
  | nil => simp at hc
  | @ended _ _ began _ action hbefore hends ih =>
    rcases eq_append_cons_of_concat hc with ⟨rfl, hx⟩ | ⟨after', hc'⟩
    · obtain ⟨rfl, hsame⟩ := Prod.mk.inj hx
      obtain ⟨rfl, rfl⟩ := Happening.ended.inj hsame
      exact ⟨began, action, hbefore, hends, rfl⟩
    · exact ih hc'
  | tick _ _ _ ih | hook _ _ ih | signalled _ _ ih | stopped _ ih =>
    rcases eq_append_cons_of_concat hc with ⟨-, hx⟩ | ⟨after', hc'⟩
    · cases hx
    · exact ih hc'

theorem Orderly.of_mem_stopped {time : Nat} (h : Orderly earliest c stage)
    (hmem : (time, .stopped) ∈ c) : stage = .stopped := by
  induction h with
  | nil => cases hmem
  | stopped => rfl
  | tick _ _ _ ih | hook _ _ ih | ended _ _ ih =>
    cases ih ((List.mem_append.mp hmem).resolve_right (by simp))
  | signalled _ _ ih => exact ih ((List.mem_append.mp hmem).resolve_right (by simp))

/-- Where the hook stands at a stage: it has yet to begin, it runs, or it has ended. -/
def HookAt (earliest : Nat) (c : Chronicle) : Stage → Prop
  | .resting | .running .tick _ _ => c.actions .hook = []
  | .running .hook began action => c.signalledAt?.isSome = true ∧
    ∃ before : Chronicle, c = before ++ [(began, .begun .hook action true)] ∧
      before.actions .hook = [] ∧ Orderly earliest before .resting
  | .closed => c.signalledAt?.isSome = true ∧
    ∃ (before : Chronicle) (began time : Nat) (action : Action),
      c = before ++ [(began, .begun .hook action true), (time, .ended .hook action.hookNote?)] ∧
      before.actions .hook = [] ∧ Orderly earliest before .resting
  | .stopped => c.signalledAt?.isSome = true ∧
    ∃ (before : Chronicle) (began time stopped : Nat) (action : Action),
      c = before ++ [(began, .begun .hook action true), (time, .ended .hook action.hookNote?),
        (stopped, .stopped)] ∧
      before.actions .hook = [] ∧ Orderly earliest before .resting

theorem Orderly.hookAt (h : Orderly earliest c stage) : HookAt earliest c stage := by
  induction h with
  | nil => rfl
  | tick _ _ _ ih =>
    change actions _ _ = []
    rw [actions_concat, ih]
    rfl
  | hook hbefore hsignalled ih =>
    refine ⟨?_, _, rfl, ih, hbefore⟩
    rw [signalledAt?_concat_of_ne _ _ (by simp)]
    exact hsignalled
  | @ended c part began time action _ _ ih =>
    cases part with
    | tick =>
      change actions _ _ = []
      rw [actions_concat, ih]
      rfl
    | hook =>
      obtain ⟨hsignalled, before, hc, hnone, hbefore⟩ := ih
      refine ⟨?_, before, began, time, action, ?_, hnone, hbefore⟩
      · rw [signalledAt?_concat_of_ne _ _ (by simp)]
        exact hsignalled
      · rw [hc, List.append_assoc]
        rfl
  | @signalled c stage time _ hnone ih =>
    have hfirst : ¬ c.signalledAt?.isSome = true := by simp [hnone]
    have hactions (part : Part) : actions (c ++ [(time, .signalled)]) part = actions c part := by
      rw [actions_concat]
      exact List.append_nil _
    match stage with
    | .resting | .running .tick _ _ => exact (hactions _).trans ih
    | .running .hook _ _ | .closed | .stopped => exact absurd ih.1 hfirst
  | @stopped c time _ ih =>
    obtain ⟨hsignalled, before, began, last, action, hc, hnone, hbefore⟩ := ih
    refine ⟨?_, before, began, last, time, action, ?_, hnone, hbefore⟩
    · rw [signalledAt?_concat_of_ne _ _ (by simp)]
      exact hsignalled
    · rw [hc, List.append_assoc]
      rfl

/-- Before the signal, only ticks run. -/
theorem Orderly.unsignalled (h : Orderly earliest c stage) (hnone : c.signalledAt? = none) :
    c.actions .hook = [] ∧ (stage = .resting ∨ ∃ began action, stage = .running .tick began action) := by
  have hat := h.hookAt
  have hfirst : ¬ c.signalledAt?.isSome = true := by simp [hnone]
  match stage with
  | .resting => exact ⟨hat, .inl rfl⟩
  | .running .tick began action => exact ⟨hat, .inr ⟨began, action, rfl⟩⟩
  | .running .hook _ _ | .closed | .stopped => exact absurd hat.1 hfirst

theorem lastTick_append_of_not_mem (start : Nat) {new : Chronicle}
    (hnew : ∀ time action signalled, (time, .begun .tick action signalled) ∉ new) :
    lastTick start (c ++ new) = lastTick start c := by
  have hfold : ∀ (new : Chronicle) (last : Nat),
      (∀ time action signalled, (time, .begun .tick action signalled) ∉ new) →
      lastTick last new = last := by
    intro new
    induction new with
    | nil => exact fun _ _ => rfl
    | cons h new ih =>
      intro last hnew
      have hrest : lastTick last new = last :=
        ih last fun time action signalled hmem => hnew _ _ _ (List.mem_cons_of_mem h hmem)
      obtain ⟨time, _ | _ | _ | _⟩ := h
      next part action signalled =>
        cases part with
        | tick => exact absurd (List.mem_cons_self ..) (hnew time action signalled)
        | hook => exact hrest
      all_goals exact hrest
  rw [lastTick, List.foldl_append]
  exact hfold new _ hnew

/-- Without a signal a loop at rest stays at rest until its next tick begins. -/
theorem Orderly.resting_of_append {new : Chronicle} (h : Orderly earliest (c ++ new) stage)
    (hnone : signalledAt? (c ++ new) = none) (hends : c.begins = c.ends)
    (hnew : ∀ time action signalled, (time, .begun .tick action signalled) ∉ new) :
    stage = .resting := by
  obtain ⟨hhook, hstage⟩ := h.unsignalled hnone
  refine hstage.resolve_right ?_
  rintro ⟨began, action, rfl⟩
  have hbegins : begins new = 0 := by
    refine List.countP_eq_zero.mpr fun x hmem hbegun => ?_
    obtain ⟨time, happening⟩ := x
    match happening with
    | .begun .tick _ _ => exact hnew _ _ _ hmem
    | .begun .hook action _ =>
      have hmem' : action ∈ actions (c ++ new) .hook :=
        List.mem_filterMap.mpr ⟨_, List.mem_append_right c hmem, rfl⟩
      rw [hhook] at hmem'
      cases hmem'
    | .ended _ _ | .signalled | .stopped => simp at hbegun
  have hcount := h.begins_eq
  rw [begins, List.countP_append, ends, List.countP_append] at hcount
  change begins c + begins new = ends c + ends new + 1 at hcount
  omega

end Chronicle

end ClusterOutbox
