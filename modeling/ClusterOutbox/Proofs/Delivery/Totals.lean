import ClusterOutbox.Proofs.Delivery.Backoff
import ClusterOutbox.Proofs.Delivery.Dispatch
import ClusterOutbox.Proofs.Delivery.Effect
import Mathlib.Algebra.GroupWithZero.Nat

namespace ClusterOutbox

/-- A call of a flush: what it did, and its result unless it broke off. -/
structure FlushCall where
  deeds : List Deed
  result : Option (Except PushError Report)

namespace FlushCall

/-- The call of a flush that runs alone. -/
def alone (c : PusherConfig) (s : Surroundings) (store : Store) : FlushCall :=
  ⟨(Flush.flush c).deeds s ⟨store, [], [], s.signal matches .already⟩, (Flush.alone c s store).1⟩

def selection (call : FlushCall) : Option (Except StoreError (List Record)) :=
  call.deeds.findSome? Deed.selection?

def selected (call : FlushCall) : List Record :=
  match call.selection with
  | some (.ok records) => records
  | _ => []

/-- The bodies of the requests accepted, in order. -/
def accepted (call : FlushCall) : List (List UInt8) := call.deeds.filterMap Deed.accepted?

/-- The batches accepted: the first ones, as many as requests were accepted. -/
def batches (c : PusherConfig) (call : FlushCall) : List (List Record) :=
  (pack c.maxBytes call.selected).take call.accepted.length

def delivered (c : PusherConfig) (call : FlushCall) : List Record := (call.batches c).flatten

theorem length_delivered_le (c : PusherConfig) (call : FlushCall) :
    (call.delivered c).length ≤ call.selected.length := by
  have hflatten := flatten_pack c.maxBytes call.selected
  rw [← List.take_append_drop call.accepted.length (pack c.maxBytes call.selected),
    List.flatten_append] at hflatten
  have hlength := congrArg List.length hflatten
  rw [List.length_append] at hlength
  rw [delivered, batches]
  omega

def attempts (call : FlushCall) : Nat := call.deeds.countP Deed.isAttempt

/-- The number of series that the requests accepted carry. -/
def series (call : FlushCall) : Nat :=
  (call.accepted.map fun body => ((Flush.read? body).getD []).length).sum

def isError {ε α : Type} : Option (Except ε α) → Bool
  | some (.error _) => true
  | _ => false

/-- The call returned an error that is not that of its selection. -/
def failed (call : FlushCall) : Bool := isError call.result && !isError call.selection

def storeFailures (call : FlushCall) : Nat := call.deeds.countP Deed.isStoreFailure

/-- What holds of every call: the requests accepted say the batches accepted, the report agrees with
what was done, and only a delay that is no duration breaks a call off. -/
structure Sound (c : PusherConfig) (call : FlushCall) : Prop where
  bodies : call.accepted.map Flush.read? =
    (call.batches c).map fun batch => some (seriesOf c.stem batch)
  report : ∀ report, call.result = some (.ok report) →
    report.selected = call.selected.length ∧ report.delivered = (call.delivered c).length
  unbounded : call.result = none → ¬ c.retry.Bounded

end FlushCall

namespace Account

/-- What an account comes to by a call. A call that breaks off counts none of its records. -/
def after (c : PusherConfig) (a : Account) (call : FlushCall) : Account where
  processed := a.processed + if call.result.isSome then (call.delivered c).length else 0
  series := a.series + call.series
  responses := a.responses + call.attempts
  pushFailures := a.pushFailures + if call.failed then 1 else 0
  dbFailures := a.dbFailures + call.storeFailures
  backlog :=
    match call.selection with
    | some (.ok records) => some (records.length - (call.delivered c).length)
    | _ => a.backlog

end Account

namespace Flush

variable {c : PusherConfig} {a : Account} {xs : List Deed}

/-- A call that sends batches and confirms them. -/
def sending (pending : List Record) (xs ms : List Deed)
    (result : Option (Except PushError Report)) : FlushCall :=
  ⟨.selected (.ok pending) :: (xs ++ ms), result⟩

section

variable {pending : List Record} {accepted rest : List (List Record)} {ms : List Deed}
  {ids : List String} {start : Instant} {result : Option (Except PushError Report)}

theorem accepted_sending (hms : ∀ d ∈ ms, ∃ outcome, d = .marked ids start outcome) :
    (sending pending xs ms result).accepted = xs.filterMap Deed.accepted? := by
  have hnone : ms.filterMap Deed.accepted? = [] := by
    refine List.filterMap_eq_nil_iff.mpr fun d hd => ?_
    obtain ⟨outcome, rfl⟩ := hms d hd
    rfl
  have hselected : (Deed.selected (.ok pending)).accepted? = none := rfl
  rw [FlushCall.accepted, sending, List.filterMap_cons_none hselected, List.filterMap_append,
    hnone, List.append_nil]

theorem batches_sending (hpack : pack c.maxBytes pending = accepted ++ rest)
    (hxs : Sends c accepted xs) (hms : ∀ d ∈ ms, ∃ outcome, d = .marked ids start outcome) :
    (sending pending xs ms result).batches c = accepted := by
  have hselected : (sending pending xs ms result).selected = pending := rfl
  rw [FlushCall.batches, accepted_sending hms, hxs.length_accepted, hselected, hpack,
    List.take_left']
  rfl

theorem attempts_sending (hxs : Sends c accepted xs)
    (hms : ∀ d ∈ ms, ∃ outcome, d = .marked ids start outcome) :
    (sending pending xs ms result).attempts = xs.length := by
  have hall : xs.countP Deed.isAttempt = xs.length := List.countP_eq_length.mpr hxs.attempts
  have hnone : ms.countP Deed.isAttempt = 0 := by
    refine List.countP_eq_zero.mpr fun d hd => ?_
    obtain ⟨outcome, rfl⟩ := hms d hd
    exact Bool.false_ne_true
  have hselected : ¬ (Deed.selected (.ok pending)).isAttempt = true := Bool.false_ne_true
  rw [FlushCall.attempts, sending, List.countP_cons_of_neg hselected, List.countP_append, hall,
    hnone]
  rfl

theorem storeFailures_sending (hxs : Sends c accepted xs) :
    (sending pending xs ms result).storeFailures = ms.countP Deed.isStoreFailure := by
  have hnone : xs.countP Deed.isStoreFailure = 0 := by
    refine List.countP_eq_zero.mpr fun d hd => ?_
    rw [Deed.not_isStoreFailure (hxs.attempts d hd)]
    exact Bool.false_ne_true
  have hselected : ¬ (Deed.selected (.ok pending)).isStoreFailure = true := Bool.false_ne_true
  rw [FlushCall.storeFailures, sending, List.countP_cons_of_neg hselected, List.countP_append,
    hnone, Nat.zero_add]

theorem length_seriesOf_flatten (stem : String) (batches : List (List Record)) :
    (batches.map fun batch => (seriesOf stem batch).length).sum =
      (seriesOf stem batches.flatten).length := by
  induction batches with
  | nil => rfl
  | cons batch batches ih =>
    rw [List.map_cons, List.sum_cons, ih, List.flatten_cons, seriesOf_append, List.length_append]

theorem series_sending (hxs : Sends c accepted xs)
    (hms : ∀ d ∈ ms, ∃ outcome, d = .marked ids start outcome) :
    (sending pending xs ms result).series = (seriesOf c.stem accepted.flatten).length := by
  have hlengths := congrArg (List.map fun read : Option (List Series) => (read.getD []).length)
    hxs.bodies
  rw [List.map_map, List.map_map] at hlengths
  rw [FlushCall.series, accepted_sending hms, ← length_seriesOf_flatten]
  exact congrArg List.sum hlengths

theorem after_sending (hpack : pack c.maxBytes pending = accepted ++ rest)
    (hxs : Sends c accepted xs) (hms : ∀ d ∈ ms, ∃ outcome, d = .marked ids start outcome) :
    a.after c (sending pending xs ms result) =
      { processed := a.processed + if result.isSome then accepted.flatten.length else 0
        series := a.series + (seriesOf c.stem accepted.flatten).length
        responses := a.responses + xs.length
        pushFailures := a.pushFailures + if FlushCall.isError result then 1 else 0
        dbFailures := a.dbFailures + ms.countP Deed.isStoreFailure
        backlog := some (pending.length - accepted.flatten.length) } := by
  have hselection : (sending pending xs ms result).selection = some (.ok pending) := rfl
  have hfailed : (sending pending xs ms result).failed = FlushCall.isError result :=
    Bool.and_true _
  rw [Account.after, FlushCall.delivered, batches_sending hpack hxs hms, hfailed, hselection,
    series_sending hxs hms, attempts_sending hxs hms, storeFailures_sending hxs]
  rfl

theorem sound_sending (hpack : pack c.maxBytes pending = accepted ++ rest)
    (hxs : Sends c accepted xs) (hms : ∀ d ∈ ms, ∃ outcome, d = .marked ids start outcome)
    (hreport : ∀ report, result = some (.ok report) →
      report.selected = pending.length ∧ report.delivered = accepted.flatten.length)
    (hnone : result = none → ¬ c.retry.Bounded) : (sending pending xs ms result).Sound c where
  bodies := by rw [accepted_sending hms, hxs.bodies, batches_sending hpack hxs hms]
  report := by
    rw [FlushCall.delivered, batches_sending hpack hxs hms]
    exact hreport
  unbounded := hnone

theorem after_unsent (c : PusherConfig) (a : Account) (pending : List Record)
    (result : Option (Except PushError Report)) :
    a.after c (sending pending [] [] result) =
      { a with
        pushFailures := a.pushFailures + if FlushCall.isError result then 1 else 0
        backlog := some pending.length } := by
  have hmarked : ∀ d ∈ ([] : List Deed), ∃ outcome, d = .marked [] default outcome := by simp
  rw [after_sending (List.nil_append _).symm (.none c) hmarked]
  simp [seriesOf]

end

theorem meets_flush (c : PusherConfig) (a : Account) :
    (flush c).Meets c.endpoint
      (fun done result a' => a' = a.after c ⟨done, result⟩ ∧ (⟨done, result⟩ : FlushCall).Sound c)
      [] a := by
  rw [flush]
  intro start found
  cases found with
  | error e =>
    refine ⟨_, fun m hm => Metrics.tally_addDbFailure hm, rfl, rfl, ?_, ?_⟩
    · simp
    · simp
  | ok pending =>
    have hmarked (d : Deed) (hd : d ∈ []) : ∃ outcome, d = .marked [] start outcome := by
      simp at hd
    refine ⟨_, fun m hm => Metrics.tally_setBacklog hm pending.length, ?_⟩
    split
    next hpending =>
      subst hpending
      refine ⟨(after_unsent c a [] (some (.ok ⟨0, 0, 0, 0⟩))).symm, ?_⟩
      refine sound_sending (List.nil_append _).symm (.none c) hmarked ?_ (by simp)
      rintro report ⟨rfl⟩
      exact ⟨rfl, rfl⟩
    next =>
      intro key
      dsimp only
      split
      next =>
        refine ⟨_, fun m hm => Metrics.tally_addPushFailure hm, ?_, ?_⟩
        · exact (after_unsent c a pending (some (.error .missingKey))).symm
        · exact sound_sending (List.nil_append _).symm (.none c) hmarked (by simp) (by simp)
      next =>
        refine Procedure.Meets.andThen (meets_sendBatches key pending.length rfl ?_)
        intro xs accepted rest result failures hpack hxs hhalts
        have hlength : ((⟨[], 0, 0⟩ : Progress).after c.stem accepted).ids.length =
            accepted.flatten.length := by
          rw [Progress.after, List.nil_append, List.length_map]
        rw [hlength]
        cases hhalts with
        | sent hrest =>
          refine Procedure.Meets.andThen (meets_confirm start _ fun ms hms => ⟨?_, ?_⟩)
          · refine Eq.trans ?_ (after_sending hpack hxs hms).symm
            rw [hlength]
            rfl
          · refine sound_sending hpack hxs hms ?_ (by simp)
            rintro report ⟨rfl⟩
            rw [hrest, List.append_nil] at hpack
            rw [← hpack, flatten_pack] at hlength ⊢
            exact ⟨rfl, hlength⟩
        | failed e =>
          refine Procedure.Meets.andThen (meets_confirm start _ fun ms hms => ⟨?_, ?_⟩)
          · refine Eq.trans ?_ (after_sending hpack hxs hms).symm
            rw [hlength]
            rfl
          · exact sound_sending hpack hxs hms (by simp) (by simp)
        | broken hc =>
          have hdone : [] ++ [Deed.selected (.ok pending)] ++ xs =
              .selected (.ok pending) :: (xs ++ []) := by simp
          rw [hdone]
          refine ⟨?_, ?_⟩
          · refine Eq.trans ?_ (after_sending hpack hxs hmarked).symm
            rfl
          · exact sound_sending hpack hxs hmarked (by simp) fun _ => hc

/-- Sends batches as `sendBatches` does, and breaks off where fewer records were selected than have
been sent. -/
def sendBatchesChecked (c : PusherConfig) (key : String) (selected : Nat) (done : Progress) :
    List (List Record) → Procedure (Progress × Option PushError)
  | [] => .finish (done, none)
  | batch :: rest => do
    match ← sendBatch c key batch with
    | .ok series =>
      let done := {
        ids := done.ids ++ batch.map (·.id)
        batches := done.batches + 1
        series := done.series + series }
      if done.ids.length ≤ selected then
        .count (·.setBacklog c.endpoint (selected - done.ids.length).toUInt64)
          (sendBatchesChecked c key selected done rest)
      else .overflow
    | .error e => .count (·.addPushFailure c.endpoint) (.finish (done, some e))

theorem sendBatchesChecked_eq (key : String) {selected : Nat} {done : Progress}
    {batches : List (List Record)} (h : done.ids.length + batches.flatten.length ≤ selected) :
    sendBatchesChecked c key selected done batches = sendBatches c key selected done batches := by
  induction batches generalizing done with
  | nil => rfl
  | cons batch rest ih =>
    rw [sendBatchesChecked, sendBatches]
    congr 1
    funext result
    rcases result with e | series
    · rfl
    · rw [List.flatten_cons, List.length_append] at h
      dsimp only
      rw [if_pos (by rw [List.length_append, List.length_map]; omega),
        ih (by rw [List.length_append, List.length_map]; omega)]

/-- The store after two calls, of which the first delivers one record of two and the second the
other. -/
def twiceFlushed : Store :=
  (alone narrow firstAccepted (alone narrow firstAccepted twoPods).2.store).2.store

end Flush

/-- Calls of one pusher's flush, one after another, and the metrics after them. -/
inductive Flushes (c : PusherConfig) : List FlushCall → Metrics → Prop
  | none : Flushes c [] Metrics.empty
  | call {calls : List FlushCall} {m m' : Metrics} {deeds : List Deed}
      {result : Option (Except PushError Report)} :
    Flushes c calls m → (Flush.flush c).Comes c.endpoint m deeds result m' →
    Flushes c (calls ++ [⟨deeds, result⟩]) m'

namespace Flushes

variable {c : PusherConfig} {calls : List FlushCall} {m : Metrics}

/-- What calls come to, one after another. -/
def account (c : PusherConfig) (calls : List FlushCall) : Account :=
  calls.foldl (Account.after c) .blank

theorem tally_eq (h : Flushes c calls m) :
    m.tally c.endpoint = (account c calls).tally ∧ ∀ call ∈ calls, call.Sound c := by
  induction h with
  | none => exact ⟨Metrics.tally_empty c.endpoint, by simp⟩
  | @call calls m m' deeds result _ hcomes ih =>
    obtain ⟨htally, hsound⟩ := ih
    obtain ⟨a', ⟨rfl, hcall⟩, htally'⟩ := hcomes.meets (Flush.meets_flush c _) htally
    refine ⟨?_, ?_⟩
    · rw [account, List.foldl_append]
      exact htally'
    · intro call hmem
      rcases List.mem_append.mp hmem with hmem | hmem
      · exact hsound call hmem
      · obtain rfl := List.mem_singleton.mp hmem
        exact hcall

theorem foldl_after (c : PusherConfig) (calls : List FlushCall) (a : Account) :
    (calls.foldl (Account.after c) a).processed = a.processed +
        ((calls.filter (·.result.isSome)).map fun call => (call.delivered c).length).sum ∧
      (calls.foldl (Account.after c) a).series = a.series + (calls.map FlushCall.series).sum ∧
      (calls.foldl (Account.after c) a).responses =
        a.responses + (calls.map FlushCall.attempts).sum ∧
      (calls.foldl (Account.after c) a).pushFailures =
        a.pushFailures + calls.countP FlushCall.failed ∧
      (calls.foldl (Account.after c) a).dbFailures =
        a.dbFailures + (calls.map FlushCall.storeFailures).sum := by
  induction calls generalizing a with
  | nil => exact ⟨rfl, rfl, rfl, rfl, rfl⟩
  | cons call calls ih =>
    obtain ⟨hprocessed, hseries, hresponses, hpush, hdb⟩ := ih (a.after c call)
    rw [List.foldl_cons, hprocessed, hseries, hresponses, hpush, hdb]
    refine ⟨?_, ?_, ?_, ?_, ?_⟩
    · rw [Account.after, List.filter_cons]
      split
      · simp [Nat.add_assoc]
      · simp
    · simp [Account.after, Nat.add_assoc]
    · simp [Account.after, Nat.add_assoc]
    · simp only [Account.after, List.countP_cons]
      omega
    · simp [Account.after, Nat.add_assoc]

/-- Records accepted, series accepted, attempts, failed calls and failures of the store are what the
metrics count, whatever the acts of the calls came to. After a call that selected some records the
backlog is what it has not delivered of them, and the difference never falls below zero. A call
breaks off only where a delay is no duration, and then its records are not counted. -/
theorem metrics_add_up (h : Flushes c calls m) :
    Metrics.countOf m.processed [c.endpoint] = .ofNat
        ((calls.filter (·.result.isSome)).map fun call => (call.delivered c).length).sum ∧
      Metrics.countOf m.seriesSent [c.endpoint] = .ofNat (calls.map FlushCall.series).sum ∧
      m.responseTotal c.endpoint = .ofNat (calls.map FlushCall.attempts).sum ∧
      Metrics.countOf m.pushFailures [c.endpoint] = .ofNat (calls.countP FlushCall.failed) ∧
      Metrics.countOf m.dbFailures [c.endpoint] =
        .ofNat (calls.map FlushCall.storeFailures).sum ∧
      (∀ call records, calls.getLast? = some call → call.selection = some (.ok records) →
        (call.delivered c).length ≤ records.length ∧
        m.backlog.get? [c.endpoint] =
          some (.ofInt ((records.length : Int) - (call.delivered c).length))) ∧
      (∀ (key : String) (pending : List Record),
        Flush.sendBatchesChecked c key pending.length ⟨[], 0, 0⟩ (pack c.maxBytes pending) =
          Flush.sendBatches c key pending.length ⟨[], 0, 0⟩ (pack c.maxBytes pending)) ∧
      ∀ call ∈ calls, call.Sound c := by
  obtain ⟨htally, hsound⟩ := h.tally_eq
  have hsums := foldl_after c calls .blank
  simp only [Account.blank, Nat.zero_add] at hsums
  obtain ⟨hprocessed, hseries, hresponses, hpush, hdb⟩ := hsums
  refine ⟨?_, ?_, ?_, ?_, ?_, ?_, ?_, hsound⟩
  · rw [← hprocessed]
    exact congrArg Tally.processed htally
  · rw [← hseries]
    exact congrArg Tally.series htally
  · rw [← hresponses]
    exact congrArg Tally.responses htally
  · rw [← hpush]
    exact congrArg Tally.pushFailures htally
  · rw [← hdb]
    exact congrArg Tally.dbFailures htally
  · intro call records hlast hselection
    have hle := call.length_delivered_le c
    rw [FlushCall.selected, hselection] at hle
    obtain ⟨earlier, rfl⟩ := List.getLast?_eq_some_iff.mp hlast
    have hbacklog := congrArg Tally.backlog htally
    rw [account, List.foldl_append] at hbacklog
    refine ⟨hle, hbacklog.trans ?_⟩
    simp only [List.foldl_cons, List.foldl_nil, Account.tally, Account.after, hselection,
      Option.map_some]
    rw [← Int.ofNat_sub hle, Int64.ofInt_eq_ofNat]
  · intro key pending
    refine Flush.sendBatchesChecked_eq key ?_
    simp only [flatten_pack, List.length_nil, Nat.zero_add, Nat.le_refl]

/-- A flush that runs alone is one more call. -/
theorem alone {store : Store} (h : Flushes c calls store.metrics) (s : Surroundings) :
    Flushes c (calls ++ [.alone c s store]) (Flush.alone c s store).2.store.metrics :=
  h.call (Procedure.comes_run s (Flush.flush c) ⟨store, [], [], s.signal matches .already⟩)

theorem metrics_add_up_twiceFlushed :
    ∃ calls, Flushes Flush.narrow calls Flush.twiceFlushed.metrics ∧ calls.length = 2 ∧
      UInt64.ofNat ((calls.filter (·.result.isSome)).map
        fun call => (call.delivered Flush.narrow).length).sum = 2 ∧
      UInt64.ofNat (calls.map FlushCall.series).sum = 2 ∧
      UInt64.ofNat (calls.map FlushCall.attempts).sum = 4 ∧
      UInt64.ofNat (calls.countP FlushCall.failed) = 1 ∧
      UInt64.ofNat (calls.map FlushCall.storeFailures).sum = 0 := by
  have hfresh : Flushes Flush.narrow [] Flush.twoPods.metrics := .none
  have hsecond := (hfresh.alone Flush.firstAccepted).alone Flush.firstAccepted
  rw [← Flush.twiceFlushed] at hsecond
  obtain ⟨hprocessed, hseries, hresponses, hpush, hdb, -⟩ := metrics_add_up hsecond
  refine ⟨_, hsecond, rfl, ?_, ?_, ?_, ?_, ?_⟩
  · exact hprocessed.symm.trans (by decide +kernel)
  · exact hseries.symm.trans (by decide +kernel)
  · exact hresponses.symm.trans (by decide +kernel)
  · exact hpush.symm.trans (by decide +kernel)
  · exact hdb.symm.trans (by decide +kernel)

/-- The wait between two tries of a batch may be too long to be one. -/
def patient : PusherConfig := { Flush.narrow with retry := .patient }

/-- A call that breaks off in its wait has delivered the first record of two, which nothing counts. -/
theorem broken_call_uncounted :
    let s : Surroundings := { Flush.firstAccepted with drawn := fun _ => 1 }
    let call := FlushCall.alone patient s Flush.twoPods
    let m := (Flush.alone patient s Flush.twoPods).2.store.metrics
    Flushes patient [call] m ∧ call.result.isNone ∧
      ((call.delivered patient).map Record.name = ["web-0"]) ∧
      Metrics.countOf m.seriesSent [patient.endpoint] = 1 ∧
      Metrics.countOf m.processed [patient.endpoint] = 0 := by
  have hfresh : Flushes patient [] Flush.twoPods.metrics := .none
  exact ⟨hfresh.alone _, by decide +kernel, by decide +kernel, by decide +kernel, by decide +kernel⟩

end Flushes

end ClusterOutbox
