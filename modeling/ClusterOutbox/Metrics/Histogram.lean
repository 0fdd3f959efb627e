namespace ClusterOutbox

/-- Observations counted by the first bound that they do not exceed. -/
structure Histogram where
  /-- One count for each bound. -/
  counts : List UInt64
  /-- All observations, those above every bound included. -/
  count : UInt64
  sum : Float

namespace Histogram

def empty (bounds : List Float) : Histogram := ⟨bounds.map fun _ => 0, 0, 0⟩

/-- Counts a value at the first bound that it does not exceed. -/
def countAt (v : Float) : List Float → List UInt64 → List UInt64
  | b :: bounds, n :: counts => if v ≤ b then (n + 1) :: counts else n :: countAt v bounds counts
  | _, counts => counts

def observe (bounds : List Float) (h : Histogram) (v : Float) : Histogram :=
  ⟨countAt v bounds h.counts, h.count + 1, h.sum + v⟩

/-- The running totals of a list of counts. -/
def totals (sofar : UInt64) : List UInt64 → List UInt64
  | [] => []
  | n :: rest => (sofar + n) :: totals (sofar + n) rest

/-- For each bound, the observations that do not exceed it. -/
def cumulative (h : Histogram) : List UInt64 := totals 0 h.counts

end Histogram

end ClusterOutbox
