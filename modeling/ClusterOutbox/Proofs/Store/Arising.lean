import ClusterOutbox.Proofs.Store.Capped

namespace ClusterOutbox

theorem Stamp.storeTime_capped (t : Stamp) : t.capped.storeTime = t.storeTime := by
  have hmicros : t.capped.micros = t.storeTime.micros := t.storeTime.micros_stamp
  have hlast := t.storeTime.le_last
  unfold storeTime at hlast ⊢
  simp only [StoreTime.mk.injEq, hmicros]
  exact Int.min_eq_left hlast

theorem Stamp.capped_le_last (t : Stamp) : ¬ last < t.capped := by
  have hlast := t.storeTime.le_last
  change ¬ (8210266876799 < t.storeTime.micros / 1000000 ∨
    8210266876799 = t.storeTime.micros / 1000000 ∧
      999999999 < (t.storeTime.micros % 1000000).toNat * 1000)
  omega

namespace Call

/-- The call with a delivery on the calendar, where it tells one. -/
def capped : Call → Call
  | create m r => create m r.capped
  | update m r => update m r.capped
  | markSent ids t => markSent ids t.capped
  | c => c

/-- Whether the ids to be given are new and differ. -/
def Fresh (c : Call) (s : Store) : Prop := c.newIds.Nodup ∧ ∀ id ∈ c.newIds, s.IsFresh id

instance (c : Call) (s : Store) : Decidable (c.Fresh s) := inferInstanceAs (Decidable (_ ∧ _))

theorem newIds_capped (c : Call) : c.capped.newIds = c.newIds := by
  cases c <;> rfl

theorem deletes_capped (c : Call) : c.capped.deletes = c.deletes := by
  cases c <;> rfl

theorem caps_session (c : Call) : Session.Caps id c.session c.capped.session := by
  cases c with
  | create m r => exact (Session.caps_create m r).bind fun _ => Session.caps_pure ()
  | update m r => exact (Session.caps_update m r).bind fun _ => Session.caps_pure ()
  | upsert m r => exact (Session.caps_upsert m r).bind fun _ => Session.caps_pure ()
  | markSent ids t => exact (Session.caps_markAt t ids).bind fun _ => Session.caps_pure ()
  | delete i => exact (Session.caps_delete i).bind fun _ => Session.caps_pure ()
  | observeAll items => exact (Session.caps_observeAll items).bind fun _ => Session.caps_pure ()
  | pass now retention => exact (Session.caps_pass now retention).bind fun _ => Session.caps_pure ()

/-- A call does to a capped store what it does to the store itself, and comes to the same. -/
theorem perform_capped (c : Call) (s : Store) :
    c.capped.perform s.capped = ((c.perform s).1, (c.perform s).2.capped) := by
  have hcaps := c.caps_session.call s
  rwa [Except.map_id] at hcaps

theorem Fresh.capped {c : Call} {s : Store} (h : c.Fresh s) : c.capped.Admissible s.capped := by
  refine ⟨c.newIds_capped ▸ h.1, ?_, ?_⟩
  · intro id hid
    rw [newIds_capped] at hid
    obtain ⟨hne, habsent⟩ := h.2 id hid
    refine ⟨hne, ?_⟩
    rw [Store.rows_capped]
    intro row hrow
    obtain ⟨r, hr, rfl⟩ := List.mem_map.mp hrow
    exact habsent r hr
  · cases c with
    | create m r | update m r =>
      intro t ht
      obtain ⟨t', -, rfl⟩ := Option.map_eq_some_iff.mp ht
      exact t'.capped_le_last
    | markSent ids t =>
      intro t' ht'
      cases ht'
      exact t.capped_le_last
    | upsert m r | delete i | observeAll items | pass now retention =>
      intro t ht
      cases ht

end Call

namespace Store

/-- The stores that a connection passes through, whatever deliveries the calls are told. -/
inductive Arises : Store → Prop
  | fresh : Arises .fresh
  | call {s : Store} (c : Call) : Arises s → c.Fresh s → Arises (c.perform s).2
  | deleteAll {s : Store} : Arises s → Arises (Session.deleteAll.run s).2
  | enter {s : Store} : Arises s → Arises (Session.enter.run s).2
  | leave {s : Store} (result : Except StoreError Unit) :
    Arises s → Arises ((Session.leave true result).run s).2
  | reopen {s : Store} : Arises s → Arises s.close.reopenFile

variable {s : Store} {es : Ledger}

/-- Where the deliveries told are capped, a connection passes through the capped stores. -/
theorem Arises.visited (hs : s.Arises) : s.capped.Visited := by
  induction hs with
  | fresh => exact .fresh
  | @call s c _ hc ih =>
    have hvisited := ih.call c.capped hc.capped
    rwa [c.perform_capped] at hvisited
  | @deleteAll s _ ih =>
    have hdelete : Session.Caps id Session.deleteAll Session.deleteAll :=
      Session.caps_write fun t => Table.delete_capped (fun _ => rfl) t
    have hvisited := ih.deleteAll
    rwa [hdelete s] at hvisited
  | @enter s _ ih =>
    have hvisited := ih.enter
    rwa [Session.caps_enter s] at hvisited
  | @leave s result _ ih =>
    have hvisited := ih.leave (result.map id)
    rwa [Session.caps_leave true result s] at hvisited
  | @reopen s _ ih =>
    have hvisited := ih.reopen
    have hrestored : s.capped.db.restored.restored = s.db.restored.restored.capped := by
      rw [capped, Database.restored_capped, Database.restored_capped]
    have hsame : s.capped.close.reopenFile = s.close.reopenFile.capped := by
      simp only [close, reopenFile, Database.reopened, hrestored]
      rfl
    rwa [hsame] at hvisited

theorem Arises.stands (hs : s.Arises) : ∃ es, s.capped.Stands es := hs.visited.stands

end Store

end ClusterOutbox
