import ClusterOutbox.Delivery.Flush
import ClusterOutbox.Settings.Basic
import ClusterOutbox.Settings.File
import ClusterOutbox.Text.Quoted
import ClusterOutbox.Url.Endpoint

namespace ClusterOutbox

/-- The file that settings are read from. Of the formats that a file may have, TOML and YAML among
them, JSON is the one read here. -/
inductive SettingsFile
  | none
  /-- A JSON text. -/
  | json (text : String)
  /-- A path, and the text there if there is one. The end of the name tells how to read it. -/
  | named (path : String) (text : Option String)

namespace Settings

/-- Whether the name of a file ends in the extension of JSON, the one format read here. -/
def isJsonName (path : String) : Bool :=
  let name := (path.toList.reverse.takeWhile (· != '/')).reverse
  let extension := (name.reverse.takeWhile (· != '.')).reverse
  extension == "json".toList && 5 < name.length

/-- The entries of a file. One that is named as TOML or YAML is left out, and counts as one that
cannot be read. -/
def entries? : SettingsFile → Option (List (String × Setting))
  | .none => some []
  | .json text => Setting.ofFile? text
  | .named path text => if isJsonName path then text.bind Setting.ofFile? else Option.none

/-- Lays the variables of an environment over a file and takes the settings from the whole. -/
def load (file : SettingsFile) (environment : List (String × String)) :
    Except SettingsError Settings := do
  let some entries := entries? file | throw .unreadable
  let some base := Setting.layEntries entries (.table []) | throw .noSuchPlace
  let some whole := Setting.layVariables environment base | throw .noSuchPlace
  let some settings := ofTable? whole | throw .illTyped
  settings.validate

/-- The pairs that name the cluster to the endpoint. -/
def identityPairs (s : Settings) : List (String × String) :=
  [("cluster_name", s.cluster), ("cloud_account_id", s.account), ("region", s.region)]

/-- The address of deliveries, unless the host makes no address. -/
def endpoint? (s : Settings) : Option Url := Url.endpoint? s.delivery.host s.identityPairs

/-- The pusher of these settings, for its endpoint. -/
def pusher (s : Settings) (endpoint : Url) : PusherConfig :=
  { PusherConfig.standard endpoint.label with
    interval := .ofSeconds s.delivery.sendInterval
    timeout := .ofSeconds s.delivery.sendTimeout
    maxBytes := s.delivery.maxBytes
    retry := { RetryPolicy.standard with attempts := s.delivery.retries }
    stem := s.delivery.stem }

/-- What is said of a host that makes no address. -/
def badHostMessage (host : String) : String :=
  "invalid remote write host " ++ quoted host

end Settings

end ClusterOutbox
