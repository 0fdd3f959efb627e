import ClusterOutbox.Store.Error

namespace ClusterOutbox

/-- Why a delivery failed. -/
inductive PushError
  | store (cause : StoreError)
  | missingKey
  /-- A body too long to be compressed. -/
  | compress
  /-- No answer, for another reason than time. -/
  | unreachable
  | timeout
  | status (code : Nat)
  | retriesExhausted (attempts : Nat) (last : PushError)
  | cancelled
deriving DecidableEq

namespace PushError

def kind : PushError → String
  | store _ => "store"
  | missingKey => "missing_api_key"
  | compress => "compress"
  | unreachable => "request"
  | timeout => "timeout"
  | status _ => "status"
  | retriesExhausted _ _ => "retries_exhausted"
  | cancelled => "cancelled"

def message : PushError → String
  | store cause => "storage error: " ++ cause.message
  | missingKey => "no API key available"
  | compress => "failed to compress write request"
  | unreachable => "request failed"
  | timeout => "request timed out"
  | status code => "remote endpoint returned status " ++ intText code
  | retriesExhausted attempts last =>
    "giving up after " ++ intText attempts ++ " attempts: " ++ last.message
  | cancelled => "delivery cancelled"

/-- Whether another attempt could succeed. -/
def isTransient : PushError → Bool
  | unreachable | timeout | status _ => true
  | _ => false

end PushError

end ClusterOutbox
