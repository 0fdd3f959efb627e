import ClusterOutbox.Store.Row

namespace ClusterOutbox

/-- The selections of records that the store offers. -/
inductive Query
  | all
  /-- The record of an identity. -/
  | identity (kind : Kind) (name : String) (ns : Option String)
  /-- Records not confirmed delivered since their last change. -/
  | pending
  /-- Delivered records whose times all lie before a cutoff. -/
  | reclaimable (cutoff : Instant)
deriving DecidableEq

/-- Whether a query selects a row. A cutoff counts at the precision of the store. -/
def Query.selects : Query → Row → Bool
  | all, _ => true
  | identity kind name ns, r =>
    r.kind == .integer kind.code && r.name == .text name && r.nsKey == .text (ns.getD "")
  | pending, r => r.sentAt == .null || r.sentAt.lt r.updated
  | reclaimable cutoff, r =>
    let limit := Cell.integer cutoff.micros
    r.sentAt != .null && r.sentAt.lt limit && r.created.lt limit && r.updated.lt limit

end ClusterOutbox
