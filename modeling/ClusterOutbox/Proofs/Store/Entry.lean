import ClusterOutbox.Proofs.Text.LabelText
import ClusterOutbox.Store.Query
import ClusterOutbox.Store.Session

namespace ClusterOutbox

namespace Cell

theorem text?_eq_ok {c : Cell} {column : Nat} {name s : String}
    (h : c.text? column name = .ok s) : c = .text s := by
  cases c with
  | text s' => exact congrArg text (Except.ok.inj h)
  | null | integer n | real bits | garbled bytes | blob bytes => cases h

theorem integer?_eq_ok {c : Cell} {column : Nat} {name : String} {n : Int}
    (h : c.integer? column name = .ok n) : c = .integer n := by
  cases c with
  | integer n' => exact congrArg integer (Except.ok.inj h)
  | null | real bits | text s | garbled bytes | blob bytes => cases h

end Cell

/-- A time of the store: whole microseconds within the calendar. -/
structure StoreTime where
  micros : Int
  first_le : -8334601228800000000 ≤ micros
  le_last : micros ≤ 8210266876799999999
deriving DecidableEq

namespace StoreTime

def stamp (t : StoreTime) : Stamp :=
  ⟨t.micros / 1000000, (t.micros % 1000000).toNat * 1000,
    by have := t.first_le; omega, by have := t.le_last; omega, by omega, by omega⟩

theorem ofMicros?_micros (t : StoreTime) : Stamp.ofMicros? t.micros = some t.stamp := by
  have hf := t.first_le
  have hl := t.le_last
  unfold Stamp.ofMicros? Stamp.ofParts?
  rw [dif_pos ⟨⟨by omega, by omega⟩, by omega, by omega⟩]
  rfl

@[simp] theorem micros_stamp (t : StoreTime) : t.stamp.micros = t.micros :=
  Stamp.micros_ofMicros? t.ofMicros?_micros

theorem stamp_lt_stamp {a b : StoreTime} : a.stamp < b.stamp ↔ a.micros < b.micros := by
  change (a.micros / 1000000 < b.micros / 1000000 ∨ a.micros / 1000000 = b.micros / 1000000 ∧
    (a.micros % 1000000).toNat * 1000 < (b.micros % 1000000).toNat * 1000) ↔ _
  omega

def later (a b : StoreTime) : StoreTime := if a.micros < b.micros then b else a

theorem micros_later (a b : StoreTime) : (a.later b).micros = max a.micros b.micros := by
  unfold later
  split <;> omega

theorem cell_later (a b : StoreTime) :
    (Cell.integer a.micros).later (.integer b.micros) = .integer (a.later b).micros := by
  unfold Cell.later later
  simp only [Cell.lt, decide_eq_true_eq]
  split <;> rfl

end StoreTime

def Instant.storeTime (t : Instant) : StoreTime :=
  ⟨t.micros, by have := t.first_le; unfold micros; omega, by have := t.le_last; unfold micros; omega⟩

@[simp] theorem Instant.micros_storeTime (t : Instant) : t.storeTime.micros = t.micros := rfl

/-- Instants of examples; they end after a million seconds. -/
def Instant.sampleSecond (n : Nat) : Instant := ⟨min n 1000000 * 1000000000, by omega, by omega⟩

namespace Stamp

/-- The last time of the calendar that lies in no leap second. -/
def last : Stamp := ⟨8210266876799, 999999999, by decide, by decide, by decide, by decide⟩

/-- A time at the precision of the store; what lies in a leap second after the calendar counts as
its last microsecond. -/
def storeTime (t : Stamp) : StoreTime :=
  ⟨min t.micros 8210266876799999999, by have := t.first_le; unfold micros; omega, by omega⟩

theorem micros_storeTime {t : Stamp} (h : ¬ last < t) : t.storeTime.micros = t.micros := by
  have hl := t.le_last
  have hnanos := t.nanos_lt
  have hleap := t.leap_ends_minute
  have hn : ¬ (8210266876799 < t.seconds ∨ 8210266876799 = t.seconds ∧ 999999999 < t.nanos) := h
  change min (t.seconds * 1000000 + t.nanos / 1000) 8210266876799999999 =
    t.seconds * 1000000 + t.nanos / 1000
  omega

end Stamp

/-- A number of microseconds that is no time of the store does not read. -/
theorem Row.stamp?_error {n : Int} (h : ∀ t : StoreTime, t.micros ≠ n) (column : Nat) :
    Row.stamp? column n = .error (.outOfRange column n) := by
  have hnone : Stamp.ofMicros? n = none := by
    unfold Stamp.ofMicros? Stamp.ofParts?
    refine dif_neg ?_
    rintro ⟨⟨hfirst, hlast⟩, -⟩
    exact h ⟨n, by omega, by omega⟩ rfl
  rw [Row.stamp?, hnone]

/-- What identifies a resource: its kind, its name and its namespace, empty where there is none. -/
abbrev Identity := Kind × String × String

def Record.identity (r : Record) : Identity := (r.kind, r.name, r.nsKey)

/-- A row in typed form. -/
structure Entry where
  id : String
  kind : Kind
  name : String
  ns : Option String
  labels : Option LabelMap
  annotations : Option LabelMap
  metricLabels : LabelMap
  created : StoreTime
  updated : StoreTime
  created_le_updated : created.micros ≤ updated.micros
  sentAt : Option StoreTime
deriving DecidableEq

namespace Entry

def identity (e : Entry) : Identity := (e.kind, e.name, e.ns.getD "")

def row (e : Entry) : Row where
  id := .text e.id
  kind := .integer e.kind.code
  name := .text e.name
  ns := .ofText? e.ns
  nsKey := .text (e.ns.getD "")
  metricLabels := Row.labelsCell (some e.metricLabels)
  labels := Row.labelsCell e.labels
  annotations := Row.labelsCell e.annotations
  created := .integer e.created.micros
  updated := .integer e.updated.micros
  sentAt := .ofInteger? (e.sentAt.map (·.micros))

def record (e : Entry) : Record where
  id := e.id
  kind := e.kind
  name := e.name
  ns := e.ns
  labels := e.labels
  annotations := e.annotations
  metricLabels := e.metricLabels
  created := e.created.stamp
  updated := e.updated.stamp
  sentAt := e.sentAt.map (·.stamp)
  size := e.row.size.toUInt64

theorem optional_ofInteger? (column : Nat) (name : String) (n : Option Int) :
    (Cell.ofInteger? n).optional (Cell.integer? column name) = .ok n := by
  cases n <;> rfl

theorem optional_ofText? (column : Nat) (name : String) (s : Option String) :
    (Cell.ofText? s).optional (Cell.text? column name) = .ok s := by
  cases s <;> rfl

theorem optional_labelsCell (column : Nat) (name : String) (m : Option LabelMap) :
    (Row.labelsCell m).optional (Row.labels? column name) = .ok m := by
  cases m with
  | none => rfl
  | some m =>
    change (Row.labels? column name (.text (String.ofList m.toJson))).map some = .ok (some m)
    simp [Row.labels?, Cell.text?, LabelMap.ofJson?_toJson, Except.map, bind, Except.bind]

theorem stamp?_micros (column : Nat) (t : StoreTime) :
    Row.stamp? column t.micros = .ok t.stamp := by
  simp [Row.stamp?, t.ofMicros?_micros]

theorem record?_row (e : Entry) : e.row.record? = .ok e.record := by
  obtain ⟨id, kind, name, ns, labels, annotations, metricLabels, created, updated, _, sentAt⟩ := e
  unfold Row.record?
  simp only [row, optional_ofInteger?, optional_ofText?, optional_labelsCell, Cell.text?,
    Cell.integer?, bind, Except.bind, stamp?_micros, Kind.ofCode_code]
  cases sentAt <;> simp [record, row, stamp?_micros, Except.map, pure, Except.pure]

/-- A row of an entry does not read once its delivery is after the calendar. -/
theorem record?_row_beyond (e : Entry) {m : Int} (h : 8210266876799999999 < m) :
    Row.record? { e.row with sentAt := .integer m } = .error (.outOfRange 9 m) := by
  have hdelivery : Row.stamp? 9 m = .error (.outOfRange 9 m) := by
    refine Row.stamp?_error (fun t ht => ?_) 9
    have hlast := t.le_last
    omega
  have hsent : (Cell.integer m).optional (Cell.integer? 9 "sent_at") = .ok (some m) := rfl
  unfold Row.record?
  simp only [row, hsent, optional_ofText?, optional_labelsCell, Cell.text?, Cell.integer?, bind,
    Except.bind, stamp?_micros, hdelivery, Except.map]

@[simp] theorem micros_created_record (e : Entry) : e.record.created.micros = e.created.micros :=
  e.created.micros_stamp

@[simp] theorem micros_updated_record (e : Entry) : e.record.updated.micros = e.updated.micros :=
  e.updated.micros_stamp

theorem row_id_beq (e : Entry) (id : String) : (e.row.id == .text id) = decide (e.id = id) := by
  simp [row, Bool.beq_eq_decide_eq]

theorem code_inj {a b : Kind} : a.code = b.code ↔ a = b :=
  ⟨fun h => by rw [← Kind.ofCode_code a, h, Kind.ofCode_code], fun h => h ▸ rfl⟩

theorem sameIdentity_row (a b : Entry) :
    a.row.sameIdentity b.row = decide (a.identity = b.identity) := by
  simp [Row.sameIdentity, row, identity, code_inj, Bool.beq_eq_decide_eq, Bool.and_assoc]

def isPending (e : Entry) : Bool :=
  match e.sentAt with
  | none => true
  | some t => t.micros < e.updated.micros

theorem selects_pending_row (e : Entry) : Query.pending.selects e.row = e.isPending := by
  cases h : e.sentAt <;> simp [Query.selects, isPending, row, h, Cell.ofInteger?, Cell.lt]

theorem isPending_record (e : Entry) : e.record.isPending = e.isPending := by
  cases h : e.sentAt <;> simp [Record.isPending, isPending, record, h, StoreTime.stamp_lt_stamp]

def isReclaimable (limit : Int) (e : Entry) : Bool :=
  match e.sentAt with
  | none => false
  | some t => t.micros < limit && e.created.micros < limit && e.updated.micros < limit

theorem selects_reclaimable_row (e : Entry) (cutoff : Instant) :
    (Query.reclaimable cutoff).selects e.row = e.isReclaimable cutoff.micros := by
  cases h : e.sentAt <;>
    simp [Query.selects, isReclaimable, row, h, Cell.ofInteger?, Cell.lt, bne, Bool.beq_eq_decide_eq]

def ofRecord (id : String) (now : StoreTime) (sentAt : Option StoreTime) (r : Record) : Entry where
  id := id
  kind := r.kind
  name := r.name
  ns := r.ns
  labels := r.labels
  annotations := r.annotations
  metricLabels := r.metricLabels
  created := now
  updated := now
  created_le_updated := Int.le_refl _
  sentAt := sentAt

theorem row_ofRecord (id : String) (now : StoreTime) (sentAt : Option StoreTime) (r : Record) :
    (ofRecord id now sentAt r).row =
      Row.ofRecord id now.micros (sentAt.map (·.micros)) r := rfl

/-- An entry with the maps of a record and a delivery, changed at a time. -/
def overwrite (r : Record) (now : StoreTime) (sentAt : Option StoreTime) (e : Entry) : Entry :=
  { e with
    labels := r.labels
    annotations := r.annotations
    metricLabels := r.metricLabels
    updated := now.later e.created
    created_le_updated := by rw [StoreTime.micros_later]; omega
    sentAt := sentAt }

theorem created_overwrite (r : Record) (now : StoreTime) (sentAt : Option StoreTime) (e : Entry) :
    (e.overwrite r now sentAt).created = e.created := rfl

theorem row_overwrite (r : Record) (now : StoreTime) (sentAt : Option StoreTime) (e : Entry) :
    (e.overwrite r now sentAt).row =
      Session.overwrite r now.micros (sentAt.map (·.micros)) e.row := by
  unfold Session.overwrite
  rw [show e.row.created = .integer e.created.micros from rfl, StoreTime.cell_later]
  rfl

def confirm (t : StoreTime) (e : Entry) : Entry := { e with sentAt := some t }

theorem row_confirm (t : StoreTime) (e : Entry) :
    (e.confirm t).row = { e.row with sentAt := .integer t.micros } := rfl

theorem sentAt_row {e : Entry} {n : Int} :
    e.row.sentAt = .integer n ↔ ∃ t, e.sentAt = some t ∧ t.micros = n := by
  cases h : e.sentAt <;> simp [row, h, Cell.ofInteger?]

theorem isPending_confirm (t : StoreTime) (e : Entry) :
    (e.confirm t).isPending = decide (t.micros < e.updated.micros) := rfl

/-- What a change of an entry keeps. -/
structure Continues (old new : Entry) : Prop where
  id : new.id = old.id
  kind : new.kind = old.kind
  name : new.name = old.name
  ns : new.ns = old.ns
  created : new.created = old.created

theorem Continues.refl (e : Entry) : e.Continues e := ⟨rfl, rfl, rfl, rfl, rfl⟩

theorem Continues.trans {a b c : Entry} (h : a.Continues b) (h' : b.Continues c) :
    a.Continues c :=
  ⟨h'.id.trans h.id, h'.kind.trans h.kind, h'.name.trans h.name, h'.ns.trans h.ns,
    h'.created.trans h.created⟩

theorem Continues.identity {a b : Entry} (h : a.Continues b) : b.identity = a.identity := by
  simp only [Entry.identity, h.kind, h.name, h.ns]

theorem continues_overwrite (r : Record) (now : StoreTime) (sentAt : Option StoreTime) (e : Entry) :
    e.Continues (e.overwrite r now sentAt) := ⟨rfl, rfl, rfl, rfl, rfl⟩

end Entry

end ClusterOutbox
