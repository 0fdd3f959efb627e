import ClusterOutbox.Url.Form
import ClusterOutbox.Url.Parser

namespace ClusterOutbox.Url

/-- The path below a base address to which deliveries go. -/
def deliveryPath : List Char := "/v1/container-metrics".toList

def dropEndSlashes (cs : List Char) : List Char :=
  (cs.reverse.dropWhile (· = '/')).reverse

/-- Whether a text contains a part. -/
def contains (part : List Char) : List Char → Bool
  | [] => part.isEmpty
  | c :: rest => part.isPrefixOf (c :: rest) || contains part rest

/-- The base address of a host, which is secure unless the host says a scheme. -/
def baseText (host : String) : String :=
  if contains [':', '/', '/'] host.toList then host else "https://" ++ host

/-- The address to which deliveries go: below the base of the host, with a query of the pairs given. -/
def endpoint? (host : String) (pairs : List (String × String)) : Option Url :=
  (parse? (baseText host)).map fun base =>
    { base.withPath (dropEndSlashes base.path.text ++ deliveryPath) with
      query := some (Form.encode pairs) }

/-- The address by which metrics call an endpoint: all but the query. -/
def label (u : Url) : String := u.withoutQuery.text

end ClusterOutbox.Url
