import ClusterOutbox.Metrics.Basic
import ClusterOutbox.Proofs.SortedMap

namespace ClusterOutbox

/-- What the metrics say of the deliveries to an endpoint; responses are of any status. -/
structure Tally where
  processed : UInt64
  series : UInt64
  responses : UInt64
  pushFailures : UInt64
  dbFailures : UInt64
  backlog : Option Int64

/-- What a tally stands for, in numbers without a limit. -/
structure Account where
  processed : Nat
  series : Nat
  responses : Nat
  pushFailures : Nat
  dbFailures : Nat
  backlog : Option Nat

namespace Account

def blank : Account := ⟨0, 0, 0, 0, 0, none⟩

def tally (a : Account) : Tally where
  processed := .ofNat a.processed
  series := .ofNat a.series
  responses := .ofNat a.responses
  pushFailures := .ofNat a.pushFailures
  dbFailures := .ofNat a.dbFailures
  backlog := a.backlog.map fun records => .ofNat records

end Account

namespace Metrics

/-- The responses counted for an endpoint, whatever their status. -/
def responseTotal (m : Metrics) (endpoint : String) : UInt64 :=
  m.responses.total fun key => key.head? == some endpoint

def tally (m : Metrics) (endpoint : String) : Tally where
  processed := countOf m.processed [endpoint]
  series := countOf m.seriesSent [endpoint]
  responses := m.responseTotal endpoint
  pushFailures := countOf m.pushFailures [endpoint]
  dbFailures := countOf m.dbFailures [endpoint]
  backlog := m.backlog.get? [endpoint]

theorem tally_empty (endpoint : String) : empty.tally endpoint = Account.blank.tally := rfl

theorem countOf_addTo (counts : SortedMap (List String) UInt64) (key : List String) (n : UInt64) :
    countOf (addTo counts key n) key = countOf counts key + n := by
  rw [countOf, SortedMap.getD, addTo, SortedMap.alter, SortedMap.get?_insert, Option.getD_some,
    countOf]

theorem countOf_addTo_of_ne {key key' : List String} (h : key' ≠ key)
    (counts : SortedMap (List String) UInt64) (n : UInt64) :
    countOf (addTo counts key n) key' = countOf counts key' := by
  rw [countOf, SortedMap.getD, addTo, SortedMap.alter, SortedMap.get?_insert_of_ne h]
  rfl

variable {m : Metrics} {endpoint : String} {a : Account}

theorem tally_observeRequest (h : m.tally endpoint = a.tally) (status : String)
    (elapsed : Duration) : (m.observeRequest endpoint status elapsed).tally endpoint =
      { a with responses := a.responses + 1 }.tally := by
  simp only [tally, Account.tally, Tally.mk.injEq] at h ⊢
  obtain ⟨hprocessed, hseries, hresponses, hrest⟩ := h
  refine ⟨hprocessed, hseries, ?_, hrest⟩
  have htotal := SortedMap.total_alter (p := fun key => key.head? == some endpoint)
    (k := [endpoint, status]) (by simp) m.responses 1
  rw [UInt64.ofNat_add, ← hresponses]
  exact htotal

theorem tally_observeBatch (h : m.tally endpoint = a.tally) (series : Nat) (bytes : UInt64) :
    (m.observeBatch endpoint series.toUInt64 bytes).tally endpoint =
      { a with series := a.series + series }.tally := by
  simp only [tally, Account.tally, Tally.mk.injEq] at h ⊢
  obtain ⟨hprocessed, hseries, hrest⟩ := h
  refine ⟨hprocessed, ?_, hrest⟩
  rw [UInt64.ofNat_add, ← hseries]
  exact countOf_addTo m.seriesSent [endpoint] _

theorem tally_addPushFailure (h : m.tally endpoint = a.tally) :
    (m.addPushFailure endpoint).tally endpoint =
      { a with pushFailures := a.pushFailures + 1 }.tally := by
  simp only [tally, Account.tally, Tally.mk.injEq] at h ⊢
  obtain ⟨hprocessed, hseries, hresponses, hfailures, hrest⟩ := h
  refine ⟨hprocessed, hseries, hresponses, ?_, hrest⟩
  rw [UInt64.ofNat_add, ← hfailures]
  exact countOf_addTo m.pushFailures [endpoint] 1

theorem tally_setBacklog (h : m.tally endpoint = a.tally) (records : Nat) :
    (m.setBacklog endpoint records.toUInt64).tally endpoint =
      { a with backlog := some records }.tally := by
  simp only [tally, Account.tally, Tally.mk.injEq] at h ⊢
  obtain ⟨hprocessed, hseries, hresponses, hfailures, hdbFailures, -⟩ := h
  refine ⟨hprocessed, hseries, hresponses, hfailures, hdbFailures, ?_⟩
  rw [setBacklog, SortedMap.get?_insert, Option.map_some]
  exact congrArg some UInt64.toInt64_ofNat'

theorem tally_addProcessed (h : m.tally endpoint = a.tally) (records : Nat) :
    (m.addProcessed endpoint records.toUInt64).tally endpoint =
      { a with processed := a.processed + records }.tally := by
  simp only [tally, Account.tally, Tally.mk.injEq] at h ⊢
  obtain ⟨hprocessed, hrest⟩ := h
  refine ⟨?_, hrest⟩
  rw [UInt64.ofNat_add, ← hprocessed]
  exact countOf_addTo m.processed [endpoint] _

theorem tally_addDbFailure (h : m.tally endpoint = a.tally) :
    (m.addDbFailure endpoint).tally endpoint =
      { a with dbFailures := a.dbFailures + 1 }.tally := by
  simp only [tally, Account.tally, Tally.mk.injEq] at h ⊢
  obtain ⟨hprocessed, hseries, hresponses, hfailures, hdbFailures, hbacklog⟩ := h
  refine ⟨hprocessed, hseries, hresponses, hfailures, ?_, hbacklog⟩
  rw [UInt64.ofNat_add, ← hdbFailures]
  exact countOf_addTo m.dbFailures [endpoint] 1

end Metrics

end ClusterOutbox
