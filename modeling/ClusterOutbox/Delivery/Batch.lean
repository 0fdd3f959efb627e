import ClusterOutbox.Record.Basic

namespace ClusterOutbox

/-- Goes on packing with a batch begun, whose sizes sum to `bytes`; sums are those of 64-bit
words. -/
def packFrom (budget : UInt64) (current : List Record) (bytes : UInt64) :
    List Record → List (List Record)
  | [] => if current = [] then [] else [current]
  | r :: rest =>
    if current ≠ [] ∧ budget < bytes + r.size then
      current :: packFrom budget [r] r.size rest
    else packFrom budget (current ++ [r]) (bytes + r.size) rest

/-- Splits records into runs, each as long as its sizes stay within the budget; a record above the
budget is alone in its run. -/
def pack (budget : UInt64) (records : List Record) : List (List Record) :=
  packFrom budget [] 0 records

end ClusterOutbox
