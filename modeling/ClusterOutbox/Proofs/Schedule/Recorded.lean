import ClusterOutbox.Proofs.Schedule.Reached

namespace ClusterOutbox

namespace Chronicle

variable {j job : Job} {t t' : Timeline} {c : Chronicle}

/-- What a job has noted and has yet to do. -/
structure Recorded (j job : Job) (c : Chronicle) : Prop where
  interval : job.interval = j.interval
  notes : job.notes = c.log.reverse ++ j.notes
  rest : ∀ part : Part, part.script job = (part.script j).drop (c.actions part).length
  done : ∀ (part : Part) (n : Nat) (action : Action), (c.actions part)[n]? = some action →
    action = (part.script j)[n]?.getD .succeed

theorem Recorded.period (h : Recorded j job c) : job.period = j.period := by
  rw [Job.period, h.interval, Job.period]

theorem Recorded.begun (h : Recorded j job c) (part : Part) (now : Nat) (signalled : Bool) :
    Recorded j (part.begin now signalled job)
      (c ++ [(now, .begun part (part.action job) signalled)]) := by
  have hactions (part' : Part) : actions (c ++ [(now, .begun part (part.action job) signalled)])
      part' = actions c part' ++ if part = part' then [part.action job] else [] := by
    rw [actions_concat]
    cases part <;> cases part' <;> rfl
  have hscript (part' : Part) : part'.script (part.begin now signalled job) =
      (part'.script job).drop (if part = part' then 1 else 0) := by
    cases part <;> cases part' <;> rfl
  refine ⟨?_, ?_, ?_, ?_⟩
  · rw [← h.interval]
    cases part <;> rfl
  · have hlog : log [(now, .begun part (part.action job) signalled)] =
        [(now, part.beginNote signalled)] := rfl
    have hnotes : (part.begin now signalled job).notes =
        (now, part.beginNote signalled) :: job.notes := by
      cases part <;> rfl
    rw [hnotes, log_append, hlog, h.notes]
    simp
  · intro part'
    rw [hscript, h.rest, List.drop_drop, hactions, List.length_append]
    split <;> rfl
  · intro part' n action hn
    rw [hactions] at hn
    split at hn
    next hsame =>
      subst hsame
      rw [List.getElem?_append] at hn
      split at hn
      next => exact h.done _ _ _ hn
      next hlen =>
        rw [List.getElem?_singleton] at hn
        split at hn
        next hzero =>
          obtain rfl : n = (c.actions part).length := by omega
          rw [← Option.some.inj hn, Part.action, h.rest, List.head?_drop]
        next => simp at hn
    next =>
      rw [List.append_nil] at hn
      exact h.done _ _ _ hn

theorem Recorded.ended (h : Recorded j job c) (part : Part) (now : Nat) (note : Option Note) :
    Recorded j (job.noteAny now note) (c ++ [(now, .ended part note)]) := by
  have hactions (part' : Part) : actions (c ++ [(now, .ended part note)]) part' =
      actions c part' := by
    rw [actions_concat]
    exact List.append_nil _
  have hnotes : (job.noteAny now note).notes =
      (log [(now, .ended part note)]).reverse ++ job.notes := by
    cases note <;> rfl
  have hscript (part' : Part) : part'.script (job.noteAny now note) = part'.script job := by
    cases note <;> cases part' <;> rfl
  refine ⟨?_, ?_, ?_, ?_⟩
  · rw [← h.interval]
    cases note <;> rfl
  · rw [hnotes, h.notes, log_append, List.reverse_append, List.append_assoc]
  · intro part'
    rw [hscript, hactions, h.rest]
  · intro part' n action hn
    rw [hactions] at hn
    exact h.done _ _ _ hn

theorem Recorded.quiet {time : Nat} {h : Happening} (hc : Recorded j job c)
    (hlog : log [(time, h)] = []) (hactions : ∀ part, actions [(time, h)] part = []) :
    Recorded j job (c ++ [(time, h)]) := by
  have hsame (part : Part) : actions (c ++ [(time, h)]) part = actions c part := by
    rw [actions_concat, hactions, List.append_nil]
  refine ⟨hc.interval, ?_, ?_, ?_⟩
  · rw [log_append, hlog, List.append_nil]
    exact hc.notes
  · intro part
    rw [hsame]
    exact hc.rest part
  · intro part
    rw [hsame]
    exact hc.done part

/-- What lines up and what is yet to come, and when what has happened was. -/
structure Timed (t : Timeline) (c : Chronicle) : Prop where
  queue : ∀ turn ∈ t.queue, turn = .loop 0 ∨ turn = .run 0
  nodup : t.queue.Nodup
  alarms : ∀ a ∈ t.alarms, t.now < a.1 ∧ (a.2 = .loop 0 ∨ a.2 = .run 0)
  past : ∀ h ∈ c, h.1 ≤ t.now
  sorted : c.Pairwise fun x y => x.1 ≤ y.1

theorem Timed.append (h : Timed t c) (new : List Happening) :
    Timed t (c ++ new.map fun h => (t.now, h)) where
  queue := h.queue
  nodup := h.nodup
  alarms := h.alarms
  past x hx := by
    rcases List.mem_append.mp hx with hold | hnow
    · exact h.past x hold
    · obtain ⟨_, -, rfl⟩ := List.mem_map.mp hnow
      exact Nat.le_refl _
  sorted := by
    refine List.pairwise_append.mpr ⟨h.sorted, ?_, ?_⟩
    · rw [List.pairwise_map]
      exact List.pairwise_of_forall fun _ _ => Nat.le_refl _
    · intro x hold y hnow
      obtain ⟨_, -, rfl⟩ := List.mem_map.mp hnow
      exact h.past x hold

theorem Timed.wake (h : Timed t c) (next : Option Wake) (hnow : t'.now = t.now)
    (halarms : t'.alarms = t.alarms) (hqueue : t'.queue.Sublist t.queue)
    (hnext : ∀ time, next = some (.loopAt time) ∨ next = some (.runAt time) → t.now < time) :
    Timed (t'.wake 0 next) c where
  queue turn hturn := by
    rcases Timeline.mem_queue_wake.mp hturn with hold | ⟨-, rfl⟩ | ⟨-, rfl⟩
    · exact h.queue turn (hqueue.subset hold)
    · exact .inl rfl
    · exact .inr rfl
  nodup := Timeline.nodup_wake _ _ (h.nodup.sublist hqueue)
  alarms a ha := by
    rw [Timeline.now_wake, hnow]
    rcases Timeline.mem_alarms_wake.mp ha with hold | ⟨time, htime, rfl⟩ | ⟨time, htime, rfl⟩
    · exact h.alarms a (halarms ▸ hold)
    · exact ⟨hnext time (.inl htime), .inl rfl⟩
    · exact ⟨hnext time (.inr htime), .inr rfl⟩
  past x hx := by
    rw [Timeline.now_wake, hnow]
    exact h.past x hx
  sorted := h.sorted

theorem Timed.ring {time : Nat} (h : Timed t c) (hle : t.now ≤ time) : Timed (t.ring time) c := by
  obtain ⟨hnow, -, -, halarms, hqueue⟩ := t.ring_frame time
  rw [Nat.max_eq_right hle] at hnow
  refine ⟨?_, Timeline.nodup_ring time h.nodup, ?_, ?_, h.sorted⟩
  · intro turn hturn
    rcases (hqueue turn).mp hturn with hold | ⟨a, ha, -, rfl⟩
    · exact h.queue turn hold
    · exact (h.alarms a ha).2
  · intro a ha
    rw [halarms] at ha
    obtain ⟨hold, hlt⟩ := List.mem_filter.mp ha
    rw [hnow]
    exact ⟨by simpa using hlt, (h.alarms a hold).2⟩
  · intro x hx
    rw [hnow]
    exact Nat.le_trans (h.past x hx) hle

end Chronicle

end ClusterOutbox
