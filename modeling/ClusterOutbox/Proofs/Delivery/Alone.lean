import ClusterOutbox.Delivery.Run
import ClusterOutbox.Proofs.Delivery.World

namespace ClusterOutbox

/-- What the next act takes from the surroundings of a procedure that runs alone. -/
def Surroundings.outside (s : Surroundings) (t : Trace) (flag : Bool) : Outside where
  now := s.now
  key := s.key
  reply := (s.reply t.posts.length).1
  elapsed := (s.reply t.posts.length).2
  flag := flag
  drawn := s.drawn t.pauses.length
  trouble := none

namespace World

variable {c : PusherConfig} {w : World} {t : Trace} {before : List (List UInt8)}

/-- A world whose store is that of a trace, and where the bodies of the trace were sent after
others. -/
structure Follows (before : List (List UInt8)) (w : World) (t : Trace) : Prop where
  store : w.store = t.store
  posts : w.posts.map (·.1) = t.posts ++ before

/-- Acts, one after another, that end the flush under way as a trace ends. -/
def ActsTo (c : PusherConfig) (before : List (List UInt8)) (w : World) (t : Trace) : Prop :=
  ∃ acts : List Outside, (w.run c (acts.map .act)).flight = none ∧
    (w.run c (acts.map .act)).Follows before t

theorem ActsTo.cons {f : Flight} (hf : w.flight = some f) (o : Outside)
    (h : (w.act o f).ActsTo c before t) : w.ActsTo c before t := by
  obtain ⟨acts, hnone, hfollows⟩ := h
  have hrun : w.run c ((o :: acts).map .act) = (w.act o f).run c (acts.map .act) := by
    simp only [run, List.map_cons, List.foldl_cons, next, hf]
  exact ⟨o :: acts, hrun ▸ hnone, hrun ▸ hfollows⟩

/-- What a procedure does by itself, it does act by act where nothing else happens. -/
theorem actsTo_run (s : Surroundings) (p : Procedure (Except PushError Report)) {f : Flight}
    (hf : w.flight = some f) (hrest : f.rest = p) (hw : w.Follows before t) :
    w.ActsTo c before (p.run s t).2 := by
  induction p generalizing w f t with
  | finish a =>
    refine ActsTo.cons hf (s.outside t false) ⟨[], ?_, ?_, ?_⟩
    all_goals simp [run, act, hrest, Procedure.run, hw.store, hw.posts]
  | overflow =>
    refine ActsTo.cons hf (s.outside t false) ⟨[], ?_, ?_, ?_⟩
    all_goals simp [run, act, hrest, Procedure.run, hw.store, hw.posts]
  | readClock next ih =>
    refine ActsTo.cons hf (s.outside t false) ?_
    simp only [act, hrest]
    exact ih s.now rfl rfl ⟨hw.store, hw.posts⟩
  | select next ih =>
    refine ActsTo.cons hf (s.outside t false) ?_
    simp only [act, hrest]
    simp only [Outside.perform, Surroundings.outside, hw.store]
    exact ih _ rfl rfl ⟨rfl, hw.posts⟩
  | readKey next ih =>
    refine ActsTo.cons hf (s.outside t false) ?_
    simp only [act, hrest]
    exact ih s.key rfl rfl ⟨hw.store, hw.posts⟩
  | post key body next ih =>
    refine ActsTo.cons hf (s.outside t false) ?_
    simp only [act, hrest]
    exact ih _ _ rfl rfl ⟨hw.store, congrArg (body :: ·) hw.posts⟩
  | isSignalled next ih =>
    refine ActsTo.cons hf (s.outside t t.signalled) ?_
    simp only [act, hrest]
    exact ih t.signalled rfl rfl ⟨hw.store, hw.posts⟩
  | draw limit next ih =>
    refine ActsTo.cons hf (s.outside t false) ?_
    simp only [act, hrest]
    exact ih _ rfl rfl ⟨hw.store, hw.posts⟩
  | pause delay next ih =>
    -- A wait goes on unless the trace says that it is cut short, and that is what the act is told.
    obtain ⟨cut, hrun⟩ : ∃ cut, (Procedure.pause delay next).run s t =
        (next !cut).run s { t with pauses := delay :: t.pauses, signalled := cut } := ⟨_, rfl⟩
    rw [hrun]
    refine ActsTo.cons hf (s.outside t !cut) ?_
    simp only [act, hrest]
    exact ih _ rfl rfl ⟨hw.store, hw.posts⟩
  | mark ids at_ next ih =>
    refine ActsTo.cons hf (s.outside t false) ?_
    simp only [act, hrest]
    simp only [Outside.perform, Surroundings.outside, hw.store]
    exact ih _ rfl rfl ⟨rfl, hw.posts⟩
  | count change next ih =>
    refine ActsTo.cons hf (s.outside t false) ?_
    simp only [act, hrest]
    refine ih rfl rfl ⟨?_, hw.posts⟩
    simp only [World.count, hw.store]

theorem Reachable.acts (hw : Reachable c w) (acts : List Outside) :
    Reachable c (w.run c (acts.map .act)) := by
  induction acts generalizing w with
  | nil => exact hw
  | cons o acts ih => exact ih (hw.next (.act o) trivial)

/-- A flush that runs alone leads from one world to another as events do. -/
theorem Reachable.alone (s : Surroundings) (hw : Reachable c w) (hidle : w.flight = none) :
    ∃ w', Reachable c w' ∧ w'.flight = none ∧
      w'.Follows (w.posts.map (·.1)) (Flush.alone c s w.store).2 := by
  have hbegun : w.next c .begin = { w with flight := some ⟨Flush.flush c, .blank, []⟩ } := by
    simp only [World.next, hidle]
  have hacts : (w.next c .begin).ActsTo c (w.posts.map (·.1)) (Flush.alone c s w.store).2 := by
    rw [hbegun]
    exact actsTo_run s (Flush.flush c) rfl rfl ⟨rfl, rfl⟩
  obtain ⟨acts, hnone, hfollows⟩ := hacts
  exact ⟨_, (hw.next .begin trivial).acts acts, hnone, hfollows⟩

end World

end ClusterOutbox
