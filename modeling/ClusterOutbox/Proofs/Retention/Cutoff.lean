import ClusterOutbox.Proofs.Store.Selection

namespace ClusterOutbox

namespace StoreTime

variable {t : StoreTime} {i : Instant}

theorem stamp_lt_instant : t.stamp < i.stamp ↔ t.micros * 1000 < i.nanos := by
  change (t.micros / 1000000 < i.nanos / 1000000000 ∨
    t.micros / 1000000 = i.nanos / 1000000000 ∧
      (t.micros % 1000000).toNat * 1000 < (i.nanos % 1000000000).toNat) ↔ _
  omega

/-- A time of the store lies before an instant, but not before its microsecond, only where it is the
beginning of that microsecond. -/
theorem micros_lt_iff : t.micros < i.micros ↔ t.stamp < i.stamp ∧ t.micros ≠ i.micros := by
  rw [stamp_lt_instant]
  unfold Instant.micros
  omega

end StoreTime

namespace Record

def times (r : Record) : List Stamp := r.sentAt.toList ++ [r.created, r.updated]

/-- Whether a time of the record lies in the microsecond of an instant. -/
def meets (i : Instant) (r : Record) : Bool := r.times.any fun t => t.micros = i.micros

end Record

theorem Entry.isReclaimable_micros (cutoff : Instant) (e : Entry) :
    e.isReclaimable cutoff.micros =
      (e.record.isReclaimable cutoff.stamp && !e.record.meets cutoff) := by
  cases h : e.sentAt with
  | none => simp [isReclaimable, Record.isReclaimable, record, h]
  | some sent =>
    have hstored : e.isReclaimable cutoff.micros = true ↔
        sent.micros < cutoff.micros ∧ e.created.micros < cutoff.micros ∧
          e.updated.micros < cutoff.micros := by
      simp [isReclaimable, h, and_assoc]
    have hread : e.record.isReclaimable cutoff.stamp = true ↔
        sent.stamp < cutoff.stamp ∧ e.created.stamp < cutoff.stamp ∧
          e.updated.stamp < cutoff.stamp := by
      simp [Record.isReclaimable, record, h, and_assoc]
    have hmeets : e.record.meets cutoff = false ↔
        sent.micros ≠ cutoff.micros ∧ e.created.micros ≠ cutoff.micros ∧
          e.updated.micros ≠ cutoff.micros := by
      simp [Record.meets, Record.times, record, h]
    rw [Bool.eq_iff_iff, Bool.and_eq_true, Bool.not_eq_true', hstored, hread, hmeets]
    simp only [StoreTime.micros_lt_iff]
    tauto

/-- Two selections from a list are equal where they agree on its elements. -/
theorem filter_eq_filter_iff {α : Type} {p q : α → Bool} {l : List α} :
    l.filter p = l.filter q ↔ ∀ a ∈ l, p a = q a := by
  refine ⟨fun h a ha => ?_, List.filter_congr⟩
  have hmem : a ∈ l.filter p ↔ a ∈ l.filter q := by rw [h]
  simpa [ha, ← Bool.eq_iff_iff] using hmem

namespace Store

variable {s : Store}

/-- What is found before a cutoff are the records whose times all lie before it, without those that
have a time in its own microsecond. -/
theorem Visited.reclaimable_exact (hs : s.Visited) (cutoff : Instant) :
    ∃ records, (Session.call (Session.findAll .all)).run s = (.ok records, s) ∧
      (Session.call (Session.findAll (.reclaimable cutoff))).run s =
        (.ok (records.filter fun r => r.isReclaimable cutoff.stamp && !r.meets cutoff), s) ∧
      ((Session.call (Session.findAll (.reclaimable cutoff))).run s =
          (.ok (records.filter fun r => r.isReclaimable cutoff.stamp), s) ↔
        ∀ r ∈ records, r.isReclaimable cutoff.stamp = true → r.meets cutoff = false) := by
  obtain ⟨es, hes⟩ := hs.stands
  have hlists := hes.toShows.lists hes.isOpen
  have hasked : ∀ r ∈ es.map Entry.record, (Query.reclaimable cutoff).asksFor r =
      (r.isReclaimable cutoff.stamp && !r.meets cutoff) := by
    intro r hr
    obtain ⟨e, _, rfl⟩ := List.mem_map.mp hr
    rw [Query.asksFor, Entry.isReclaimable_record, Entry.isReclaimable_micros]
  have hfound : (Session.call (Session.findAll (.reclaimable cutoff))).run s =
      (.ok ((es.map Entry.record).filter fun r => r.isReclaimable cutoff.stamp && !r.meets cutoff),
        s) := by
    rw [hlists.findAll, filter_eq_filter_iff.mpr hasked]
  refine ⟨es.map Entry.record, hlists.all, hfound, ?_⟩
  have hok : ∀ a b : List Record, (((.ok a, s) : Except StoreError (List Record) × Store) =
      (.ok b, s)) ↔ a = b := by simp
  rw [hfound, hok, filter_eq_filter_iff]
  refine forall₂_congr fun r _ => ?_
  simp

/-- The pod confirmed as it was observed, at ten seconds. -/
def deliveredPod : Store := ((Call.markSent ["a"] (Instant.sampleSecond 10).stamp).perform onePod).2

def deliveredRecord : Record :=
  { Record.fresh .pod "web-0" (some "default") with
    id := "a"
    created := (Instant.sampleSecond 10).stamp
    updated := (Instant.sampleSecond 10).stamp
    sentAt := some (Instant.sampleSecond 10).stamp
    size := 12 }

/-- Half a microsecond after ten seconds. -/
def halfMicro : Instant := ⟨10000000500, by decide, by decide⟩

theorem visited_deliveredPod : deliveredPod.Visited :=
  .call _ (.call _ .fresh (by decide)) (by decide)

theorem reclaimable_exact_halfMicro :
    ∃ records, (Session.call (Session.findAll .all)).run deliveredPod = (.ok records, deliveredPod) ∧
      (Session.call (Session.findAll (.reclaimable halfMicro))).run deliveredPod =
        (.ok (records.filter fun r => r.isReclaimable halfMicro.stamp && !r.meets halfMicro),
          deliveredPod) ∧
      ((Session.call (Session.findAll (.reclaimable halfMicro))).run deliveredPod =
          (.ok (records.filter fun r => r.isReclaimable halfMicro.stamp), deliveredPod) ↔
        ∀ r ∈ records, r.isReclaimable halfMicro.stamp = true → r.meets halfMicro = false) :=
  visited_deliveredPod.reclaimable_exact halfMicro

/-- Every time of the record lies before the cutoff, which its query does not see. -/
theorem halfMicro_overlooked :
    deliveredPod.Visited ∧
    ((Session.call (Session.findAll .all)).run deliveredPod).1 = .ok [deliveredRecord] ∧
    deliveredRecord.isReclaimable halfMicro.stamp = true ∧
    ((Session.call (Session.findAll (.reclaimable halfMicro))).run deliveredPod).1 = .ok [] :=
  ⟨visited_deliveredPod, by decide +kernel, by decide, by decide +kernel⟩

end Store

end ClusterOutbox
