import ClusterOutbox.Metrics.Histogram
import ClusterOutbox.SortedMap
import ClusterOutbox.Time.Duration

namespace ClusterOutbox

/-- The counters, gauges and histograms of the outbox. The series of a family are keyed by the values
of their labels, in the order of the names of the labels. -/
structure Metrics where
  /-- By action, namespace and kind. -/
  writeFailures : SortedMap (List String) UInt64
  /-- By endpoint, as all families of deliveries. -/
  seriesSent : SortedMap (List String) UInt64
  requestSeconds : SortedMap (List String) Histogram
  /-- By endpoint and status. -/
  responses : SortedMap (List String) UInt64
  payloadBytes : SortedMap (List String) Histogram
  pushFailures : SortedMap (List String) UInt64
  backlog : SortedMap (List String) Int64
  processed : SortedMap (List String) UInt64
  dbFailures : SortedMap (List String) UInt64
  reclaimed : UInt64
  retentionFailures : UInt64

namespace Metrics

def empty : Metrics := ⟨∅, ∅, ∅, ∅, ∅, ∅, ∅, ∅, ∅, 0, 0⟩

/-- The status of an attempt that got no response. -/
def noResponse : String := "no_response"

/-- Bounds of the time of a request, in seconds. -/
def requestBounds : List Float := [0.005, 0.01, 0.025, 0.05, 0.1, 0.25, 0.5, 1, 2.5, 5, 10]

/-- Bounds of the size of a body, in bytes: ten powers of two from 256. -/
def payloadBounds : List Float := [256, 512, 1024, 2048, 4096, 8192, 16384, 32768, 65536, 131072]

/-- Adds to a count, which begins at zero. -/
def addTo (m : SortedMap (List String) UInt64) (key : List String) (n : UInt64) :
    SortedMap (List String) UInt64 :=
  m.alter key 0 (· + n)

/-- The count of a key, zero where it was never touched. -/
def countOf (m : SortedMap (List String) UInt64) (key : List String) : UInt64 := m.getD key 0

def writeFailureKey (kind ns action : String) : List String := [action, ns, kind]

/-- Adds to the failed writes of a kind and namespace; adding zero makes their series exist. -/
def addWriteFailures (m : Metrics) (kind ns action : String) (n : UInt64) : Metrics :=
  { m with writeFailures := addTo m.writeFailures (writeFailureKey kind ns action) n }

def writeFailureCount (m : Metrics) (kind ns action : String) : UInt64 :=
  countOf m.writeFailures (writeFailureKey kind ns action)

/-- Records one attempt to send. -/
def observeRequest (m : Metrics) (endpoint status : String) (elapsed : Duration) : Metrics :=
  { m with
    requestSeconds := m.requestSeconds.alter [endpoint] (.empty requestBounds)
      (·.observe requestBounds elapsed.toSeconds)
    responses := addTo m.responses [endpoint, status] 1 }

def responseCount (m : Metrics) (endpoint status : String) : UInt64 :=
  countOf m.responses [endpoint, status]

/-- Records a batch delivered. -/
def observeBatch (m : Metrics) (endpoint : String) (series bytes : UInt64) : Metrics :=
  { m with
    seriesSent := addTo m.seriesSent [endpoint] series
    payloadBytes := m.payloadBytes.alter [endpoint] (.empty payloadBounds)
      (·.observe payloadBounds bytes.toFloat) }

def addPushFailure (m : Metrics) (endpoint : String) : Metrics :=
  { m with pushFailures := addTo m.pushFailures [endpoint] 1 }

def setBacklog (m : Metrics) (endpoint : String) (records : UInt64) : Metrics :=
  { m with backlog := m.backlog.insert [endpoint] records.toInt64 }

def addProcessed (m : Metrics) (endpoint : String) (records : UInt64) : Metrics :=
  { m with processed := addTo m.processed [endpoint] records }

def addDbFailure (m : Metrics) (endpoint : String) : Metrics :=
  { m with dbFailures := addTo m.dbFailures [endpoint] 1 }

def addReclaimed (m : Metrics) (records : UInt64) : Metrics :=
  { m with reclaimed := m.reclaimed + records }

def addRetentionFailure (m : Metrics) : Metrics :=
  { m with retentionFailures := m.retentionFailures + 1 }

end Metrics

end ClusterOutbox
