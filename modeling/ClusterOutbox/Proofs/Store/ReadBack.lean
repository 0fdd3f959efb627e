import ClusterOutbox.Proofs.Store.Soundness
import ClusterOutbox.Proofs.Store.Visited

namespace ClusterOutbox

namespace Stamp

/-- Whether the store keeps a time as it is: it is one of whole microseconds, in no leap second. -/
def IsKept (t : Stamp) : Prop := t.nanos < 1000000000 ∧ t.nanos % 1000 = 0

instance (t : Stamp) : Decidable t.IsKept := inferInstanceAs (Decidable (_ ∧ _))

theorem stamp_storeTime_iff {t : Stamp} (h : ¬ last < t) : t.storeTime.stamp = t ↔ t.IsKept := by
  have hmicros := micros_storeTime h
  obtain ⟨seconds, nanos, hfirst, hlast, hnanos, hleap⟩ := t
  simp only [StoreTime.stamp, mk.injEq, hmicros, Stamp.micros, IsKept]
  omega

end Stamp

namespace Store

/-- Whether a write of a record gives back what is then read at its id, but for the delivery, which is
read at the precision of the store. -/
def ReadsBack (s : Store) (r : Record) (write : Session Record) : Prop :=
  ∃ w s', (Session.call write).run s = (.ok w, s') ∧ w.sentAt = r.sentAt ∧
    (Session.call (Session.get? w.id)).run s' =
      (.ok { w with sentAt := r.sentAt.map (·.storeTime.stamp) }, s') ∧
    (((Session.call (Session.get? w.id)).run s').1 = .ok w ↔ ∀ t ∈ r.sentAt, t.IsKept)

variable {s : Store} {es : Ledger} {m : Moment} {r : Record}

theorem readsBack_of_get {write : Session Record} {w : Record} {s' : Store}
    (hsent : ∀ t ∈ r.sentAt, ¬ Stamp.last < t)
    (hwrite : (Session.call write).run s = (.ok w, s')) (hw : w.sentAt = r.sentAt)
    (hget : (Session.call (Session.get? w.id)).run s' =
      (.ok { w with sentAt := r.sentAt.map (·.storeTime.stamp) }, s')) : s.ReadsBack r write := by
  refine ⟨w, s', hwrite, hw, hget, ?_⟩
  have hsame : { w with sentAt := r.sentAt.map (·.storeTime.stamp) } = w ↔
      r.sentAt.map (·.storeTime.stamp) = r.sentAt := by
    rw [← hw]
    exact ⟨congrArg Record.sentAt, fun h => by rw [h]⟩
  rw [hget, Except.ok.injEq, hsame]
  cases hr : r.sentAt with
  | none => simp
  | some t => simpa using Stamp.stamp_storeTime_iff (hsent t hr)

theorem Stands.get_put (hs : s.Stands es) {es' : Ledger} (hd : es'.Distinct) {e : Entry}
    (he : e ∈ es') {id : String} (hid : e.id = id) :
    (Session.call (Session.get? id)).run (s.put es') = (.ok e.record, s.put es') := by
  rw [Session.run_call (s := s.put es') hs.isOpen, Session.run_get (hs.put hd), ← hid,
    Ledger.byId?_of_mem hd he]

theorem Stands.create_readsBack (hs : s.Stands es) (hsent : ∀ t ∈ r.sentAt, ¬ Stamp.last < t)
    (hm : s.IsFresh m.freshId)
    (hinserted : ((Session.call (Session.create m r)).run s).2.db.rows ≠ s.db.rows) :
    s.ReadsBack r (Session.create m r) := by
  have hid := hs.id_ne_of_isFresh hm
  have hcreate : (Session.call (Session.create m r)).run s =
      (.ok (es.creation m r), s.put (es.create m r)) := by
    rw [Session.run_call hs.isOpen, Session.run_create hs.toShows hid hsent]
  have hnew : es.holder? r.identity = none := by
    by_contra htaken
    obtain ⟨old, hold⟩ := Option.ne_none_iff_exists'.mp htaken
    rw [hcreate, Ledger.create, hold, hs.put_self] at hinserted
    exact hinserted rfl
  let e := Entry.ofRecord m.freshId m.now.storeTime (r.sentAt.map Stamp.storeTime) r
  have he : e ∈ es.create m r := by
    rw [Ledger.create, hnew]
    exact List.mem_append_right es (List.mem_singleton_self e)
  have hrecord : e.record =
      { es.creation m r with sentAt := r.sentAt.map (·.storeTime.stamp) } := by
    simp only [Ledger.creation, hnew, Entry.record, e, Entry.ofRecord, Option.map_map]
    rfl
  refine readsBack_of_get hsent hcreate rfl ?_
  rw [← hrecord]
  exact hs.get_put (Ledger.distinct_create hs.distinct hm.1 hid r) he rfl

theorem Stands.update_readsBack (hs : s.Stands es) (hsent : ∀ t ∈ r.sentAt, ¬ Stamp.last < t)
    {old : Record} (hold : ((Session.call (Session.get? r.id)).run s).1 = .ok old)
    (hkind : r.kind = old.kind) (hname : r.name = old.name) (hns : r.ns = old.ns) :
    s.ReadsBack r (Session.update m r) := by
  rw [Session.run_call hs.isOpen, Session.run_get hs.toShows] at hold
  cases hfound : es.byId? r.id with
  | none => simp [hfound] at hold
  | some e =>
    simp only [hfound, Except.ok.injEq] at hold
    subst hold
    obtain ⟨hmem, hid⟩ := Ledger.mem_of_byId? hfound
    have hupdate := (Session.run_call hs.isOpen).trans
      (Session.run_update_found hs.toShows (m := m) hfound hsent)
    let changed := e.overwrite r m.now.storeTime (r.sentAt.map Stamp.storeTime)
    have hchanged : changed ∈ es.update m r := List.mem_map.mpr ⟨e, hmem, if_pos hid⟩
    have hget := hs.get_put (Ledger.distinct_update hs.distinct m r) hchanged hid
    have hrecord : changed.record = { r with
        created := e.created.stamp
        updated := (m.now.storeTime.later e.created).stamp
        sentAt := r.sentAt.map (·.storeTime.stamp)
        size := changed.row.size.toUInt64 } := by
      simp only [Entry.record, changed, Entry.overwrite, hid, hkind, hname, hns, Option.map_map]
      rfl
    rw [hrecord] at hget
    exact readsBack_of_get hsent hupdate rfl hget

/-- What is read at the id of a record that has been added or changed is what the write gave back,
exactly where the delivery it was given is one that the store keeps as it is. -/
theorem Visited.written_readsBack (hs : s.Visited) (hsent : ∀ t ∈ r.sentAt, ¬ Stamp.last < t) :
    (s.IsFresh m.freshId →
      ((Session.call (Session.create m r)).run s).2.db.rows ≠ s.db.rows →
        s.ReadsBack r (Session.create m r)) ∧
    ∀ old, ((Session.call (Session.get? r.id)).run s).1 = .ok old →
      r.kind = old.kind → r.name = old.name → r.ns = old.ns →
        s.ReadsBack r (Session.update m r) := by
  obtain ⟨es, hes⟩ := hs.stands
  exact ⟨hes.create_readsBack hsent, fun old hold => hes.update_readsBack hsent hold⟩

/-- Half a microsecond after ten seconds. -/
def betweenMicros : Stamp := ⟨10, 500, by decide, by decide, by decide, by decide⟩

def otherPod : Record :=
  { Record.fresh .pod "web-1" none with sentAt := some betweenMicros }

def storedPod : Record :=
  { Record.fresh .pod "web-0" (some "default") with id := "a", sentAt := some betweenMicros }

theorem written_readsBack_betweenMicros :
    onePod.Visited ∧ (∀ t ∈ otherPod.sentAt, ¬ Stamp.last < t) ∧
    onePod.ReadsBack otherPod (Session.create ⟨.sampleSecond 20, "b"⟩ otherPod) ∧
    onePod.ReadsBack storedPod (Session.update ⟨.sampleSecond 20, "b"⟩ storedPod) := by
  have hs : onePod.Visited := .call _ .fresh (by decide)
  have hother : ∀ t ∈ otherPod.sentAt, ¬ Stamp.last < t := by decide
  have hstored : ∀ t ∈ storedPod.sentAt, ¬ Stamp.last < t := by decide
  have hinserted : ((Session.call (Session.create ⟨.sampleSecond 20, "b"⟩ otherPod)).run
      onePod).2.db.rows ≠ onePod.db.rows := by decide +kernel
  let old : Record := { Record.fresh .pod "web-0" (some "default") with
    id := "a"
    created := (Instant.sampleSecond 10).stamp
    updated := (Instant.sampleSecond 10).stamp
    size := 12 }
  have hold : ((Session.call (Session.get? storedPod.id)).run onePod).1 = .ok old := by
    decide +kernel
  exact ⟨hs, hother, (hs.written_readsBack hother).1 (by decide +kernel) hinserted,
    (hs.written_readsBack hstored).2 old hold rfl rfl rfl⟩

/-- A pod added, and one changed, with a delivery between two microseconds: what is read has another
one than what the writes gave back. -/
theorem betweenMicros_read_earlier :
    onePod.Visited ∧ onePod.IsFresh "b" ∧
    let created := (Session.call (Session.create ⟨.sampleSecond 20, "b"⟩ otherPod)).run onePod
    let updated := (Session.call (Session.update ⟨.sampleSecond 20, "b"⟩ storedPod)).run onePod
    created.2.db.rows.length = 2 ∧
    created.1.map (fun w => (w.id, w.sentAt)) = .ok ("b", some betweenMicros) ∧
    ((Session.call (Session.get? "b")).run created.2).1.map (·.sentAt) =
      .ok (some (Instant.sampleSecond 10).stamp) ∧
    updated.1.map (fun w => (w.id, w.sentAt)) = .ok ("a", some betweenMicros) ∧
    ((Session.call (Session.get? "a")).run updated.2).1.map (·.sentAt) =
      .ok (some (Instant.sampleSecond 10).stamp) :=
  ⟨.call _ .fresh (by decide), by decide +kernel, by decide +kernel, by decide +kernel,
    by decide +kernel, by decide +kernel, by decide +kernel⟩

end Store

end ClusterOutbox
