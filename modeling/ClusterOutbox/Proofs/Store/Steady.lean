import ClusterOutbox.Proofs.Store.Deletion
import ClusterOutbox.Proofs.Store.Transaction

namespace ClusterOutbox

namespace Session

variable {α β ι : Type} {s s' : Store}

/-- Work to which it is all one whether a transaction is open: within one it comes to what it comes to
outside, and where it fails, the transaction still leads back to where it began. -/
structure Steady (work : Session α) : Prop where
  done {s s' : Store} {a : α} : work.run s = (.ok a, s') →
    s'.db.readOnly = s.db.readOnly ∧ s'.isOpen = s.isOpen ∧
      ∀ saved, work.run (s.within saved) = (.ok a, s'.within saved)
  failed {s s' : Store} {e : StoreError} : work.run s = (.error e, s') →
    ∀ before, ∃ u, work.run (s.within (some before)) = (.error e, u) ∧
      u.db.restored = (s.within (some before)).db.restored

theorem restored_within (h : s'.db.readOnly = s.db.readOnly) (before : Option Table) :
    (s'.within (some before)).db.restored = (s.within (some before)).db.restored := by
  simp [Store.within, Database.restored, h]

theorem steady_of_result {work : Session α} {result : Except StoreError α}
    (h : ∀ s, work.run s = (result, s)) : work.Steady where
  done := by
    intro s s' a hrun
    rw [h] at hrun
    cases hrun
    exact ⟨rfl, rfl, fun saved => h (s.within saved)⟩
  failed := by
    intro s s' e hrun before
    rw [h] at hrun
    cases hrun
    exact ⟨_, h _, rfl⟩

theorem steady_pure (a : α) : (pure a : Session α).Steady := steady_of_result fun _ => rfl

theorem steady_throw (e : StoreError) : (throw e : Session α).Steady := steady_of_result fun _ => rfl

theorem steady_ofEngine (result : Except EngineError α) : (ofEngine result).Steady :=
  steady_of_result fun _ => rfl

theorem Steady.bind {x : Session α} {f : α → Session β} (hx : x.Steady) (hf : ∀ a, (f a).Steady) :
    (x >>= f).Steady where
  done := by
    intro s s' b hrun
    obtain ⟨a, s₁, hfirst, hrest⟩ := run_bind_eq_ok hrun
    obtain ⟨hw₁, hopen₁, hwithin₁⟩ := hx.done hfirst
    obtain ⟨hw, hopen, hwithin⟩ := (hf a).done hrest
    refine ⟨hw.trans hw₁, hopen.trans hopen₁, ?_⟩
    intro saved
    rw [run_bind_ok (hwithin₁ saved), hwithin saved]
  failed := by
    intro s s' e hrun before
    rcases run_bind_eq_error hrun with hfirst | ⟨a, s₁, hfirst, hrest⟩
    · obtain ⟨u, hu, hrestored⟩ := hx.failed hfirst before
      exact ⟨u, run_bind_error hu f, hrestored⟩
    · obtain ⟨hw₁, -, hwithin₁⟩ := hx.done hfirst
      obtain ⟨u, hu, hrestored⟩ := (hf a).failed hrest before
      refine ⟨u, ?_, hrestored.trans (restored_within hw₁ before)⟩
      rw [run_bind_ok (hwithin₁ (some before)), hu]

theorem Steady.counted {work : Session α} (h : work.Steady) (r : Record) (action : String) :
    (Session.counted r action work).Steady where
  done := by
    intro s s' a hrun
    obtain ⟨hw, hopen, hwithin⟩ := h.done (run_counted_eq_ok hrun)
    exact ⟨hw, hopen, fun saved => run_counted_ok (hwithin saved)⟩
  failed := by
    intro s s' e hrun before
    rcases hwork : work.run s with ⟨e' | a, s₁⟩
    · rw [run_counted_error hwork] at hrun
      cases hrun
      obtain ⟨u, hu, hrestored⟩ := h.failed hwork before
      exact ⟨_, run_counted_error hu, hrestored⟩
    · rw [run_counted_ok hwork] at hrun
      cases hrun

theorem steady_write (f : Table → Effect α) : (write f).Steady where
  done := by
    intro s s' a hrun
    obtain ⟨t, t', ht, hf, rfl⟩ := run_write_eq_ok hrun
    exact ⟨rfl, rfl, fun saved => run_write_done (s := s.within saved) ht hf⟩
  failed := by
    intro s s' e hrun before
    cases hw : s.db.writable? with
    | error e' =>
      rw [run_write_refused hw] at hrun
      cases hrun
      exact ⟨_, run_write_refused (s := s.within (some before)) hw, rfl⟩
    | ok t =>
      cases hf : f t with
      | done t' a =>
        rw [run_write_done hw hf] at hrun
        cases hrun
      | stopped t' how e' =>
        have he : e = .ofEngine e' := by
          simp only [run_write, Database.write, hw, hf] at hrun
          cases how <;> exact (Except.error.inj (congrArg Prod.fst hrun)).symm
        have hu := run_write_stopped (s := s.within (some before)) hw hf
        exact ⟨_, he ▸ hu, Database.restored_stopped
          (Database.restored_showing (by simp [Store.within]) t') how⟩

theorem Steady.mapM {f : ι → Session α} (h : ∀ i, (f i).Steady) (items : List ι) :
    (items.mapM f).Steady := by
  induction items with
  | nil => exact steady_pure []
  | cons item items ih =>
    rw [List.mapM_cons]
    exact (h item).bind fun _ => ih.bind fun _ => steady_pure _

theorem steady_prepare : prepare.Steady where
  done := by
    intro s s' a h
    rcases run_prepare_cases s with ⟨hrun, hready⟩ | ⟨hrun, -⟩
    · obtain ⟨-, rfl⟩ := Prod.mk.inj (hrun.symm.trans h)
      refine ⟨rfl, rfl, ?_⟩
      intro saved
      have hnot : ¬ ((s.within saved).prepared = false ∧ (s.within saved).db.table = none) := by
        rintro ⟨hp, ht⟩
        exact hready.elim (fun h => by simp [Store.within, h] at hp) (fun h => h ht)
      rcases run_prepare_cases (s.within saved) with ⟨hwithin, -⟩ | ⟨-, hmissing⟩
      · exact hwithin
      · exact absurd hmissing hnot
    · cases (Prod.mk.inj (hrun.symm.trans h)).1
  failed := by
    intro s s' e h before
    rcases run_prepare_cases s with ⟨hrun, -⟩ | ⟨hrun, hp, ht⟩
    · cases (Prod.mk.inj (hrun.symm.trans h)).1
    · rw [← Except.error.inj (Prod.mk.inj (hrun.symm.trans h)).1]
      exact ⟨_, run_prepare_missing (s := s.within (some before)) hp ht, rfl⟩

theorem Steady.run_tx_ok {work : Session α} (h : work.Steady) {a : α}
    (hrun : work.run s = (.ok a, s')) : (tx work).run s = (.ok a, s') := by
  obtain ⟨-, -, hwithin⟩ := h.done hrun
  rw [run_tx_within hwithin]
  exact (hwithin s.db.saved).symm.trans hrun

/-- Outside every transaction, work that fails is undone where it is done as a unit. -/
theorem Steady.run_tx_error {work : Session α} (h : work.Steady) (hs : s.db.saved = none)
    {e : StoreError} (hrun : work.run s = (.error e, s')) :
    ∃ u, (tx work).run s = (.error e, u) ∧ u.db = s.db := by
  obtain ⟨u, hu, hrestored⟩ := h.failed hrun s.db.table
  refine ⟨_, Session.run_tx_error hs hu, hrestored.trans ?_⟩
  simp [Store.within, Database.restored, ← hs]

end Session

end ClusterOutbox
