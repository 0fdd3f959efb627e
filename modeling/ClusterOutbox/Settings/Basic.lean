import ClusterOutbox.Settings.Value
import ClusterOutbox.Text.Blank

namespace ClusterOutbox

/-- How deliveries are made. -/
structure DeliverySettings where
  /-- The host that takes deliveries, or an address with a scheme. -/
  host : String
  /-- Seconds. -/
  sendInterval : UInt64
  /-- Seconds that one request may take. -/
  sendTimeout : UInt64
  maxBytes : UInt64
  retries : UInt32
  stem : String
deriving DecidableEq

/-- Where records are kept and for how long. -/
structure StorageSettings where
  /-- The directory of the store, which is in memory without one. -/
  directory : Option String
  /-- Seconds. -/
  retention : UInt64
  /-- Seconds between two passes. -/
  cleanupInterval : UInt64
deriving DecidableEq

/-- The settings of the controller. -/
structure Settings where
  cluster : String
  account : String
  region : String
  keyPath : String
  /-- Seconds between two looks at the key. -/
  secretRefresh : UInt64
  delivery : DeliverySettings
  storage : StorageSettings
  port : UInt16
  logLevel : String
deriving DecidableEq

/-- Why there are no settings. -/
inductive SettingsError
  /-- A source cannot be read. -/
  | unreadable
  /-- A setting is not of its type. -/
  | illTyped
  /-- A path leads to a place before a list. -/
  | noSuchPlace
  | noAccount
  | noRegion
  | noCluster
  | noKeyPath
deriving DecidableEq

def SettingsError.message : SettingsError → String
  | unreadable => "failed to read configuration"
  | illTyped => "failed to parse configuration"
  | noSuchPlace => "attempt to subtract with overflow"
  | noAccount => "cloud account ID is empty"
  | noRegion => "region is empty"
  | noCluster => "cluster name is empty"
  | noKeyPath => "API key path is empty"

namespace DeliverySettings

def standard : DeliverySettings := ⟨"api.cloudzero.com", 60, 10, 500000, 3, "cloudzero"⟩

end DeliverySettings

namespace StorageSettings

def standard : StorageSettings := ⟨none, 86400, 10800⟩

end StorageSettings

namespace Settings

def standardSecretRefresh : UInt64 := 60

def standardPort : UInt16 := 8080

/-- A member that may be left out. -/
def field {α : Type} (read : Setting → Option α) (default : α) : Option Setting → Option α
  | none => some default
  | some s => read s

def word64? (s : Setting) : Option UInt64 := (s.number? 18446744073709551616).map (·.toUInt64)

def word32? (s : Setting) : Option UInt32 := (s.number? 4294967296).map (·.toUInt32)

def word16? (s : Setting) : Option UInt16 := (s.number? 65536).map (·.toUInt16)

/-- A text or null. -/
def textOrNull? : Setting → Option (Option String)
  | .null => some none
  | s => s.text?.map some

def delivery? (s : Setting) : Option DeliverySettings := do
  let std := DeliverySettings.standard
  let get ← s.members? ["host", "send_interval_secs", "send_timeout_secs", "max_bytes_per_send",
    "max_retries", "metric_prefix"]
  some {
    host := ← field Setting.text? std.host (get "host")
    sendInterval := ← field word64? std.sendInterval (get "send_interval_secs")
    sendTimeout := ← field word64? std.sendTimeout (get "send_timeout_secs")
    maxBytes := ← field word64? std.maxBytes (get "max_bytes_per_send")
    retries := ← field word32? std.retries (get "max_retries")
    stem := ← field Setting.text? std.stem (get "metric_prefix") }

def storage? (s : Setting) : Option StorageSettings := do
  let std := StorageSettings.standard
  let get ← s.members? ["storage_path", "retention_secs", "cleanup_interval_secs"]
  some {
    directory := ← field textOrNull? std.directory (get "storage_path")
    retention := ← field word64? std.retention (get "retention_secs")
    cleanupInterval := ← field word64? std.cleanupInterval (get "cleanup_interval_secs") }

def port? (s : Setting) : Option UInt16 := do
  field word16? standardPort ((← s.members? ["port"]) "port")

def logLevel? (s : Setting) : Option String := do
  field Setting.text? "info" ((← s.members? ["level"]) "level")

/-- Settings from a table; what is left out has its standard value. -/
def ofTable? (s : Setting) : Option Settings := do
  let get ← s.members? []
  some {
    cluster := ← field Setting.text? "" (get "cluster_name")
    account := ← field Setting.text? "" (get "cloud_account_id")
    region := ← field Setting.text? "" (get "region")
    keyPath := ← field Setting.text? "" (get "api_key_path")
    secretRefresh := ← field word64? standardSecretRefresh (get "secret_refresh_interval_secs")
    delivery := ← field delivery? DeliverySettings.standard (get "remote_write")
    storage := ← field storage? StorageSettings.standard (get "database")
    port := ← field port? standardPort (get "server")
    logLevel := ← field logLevel? "info" (get "logging") }

/-- A value, or its default where it is the empty one. -/
def orDefault {α : Type} [DecidableEq α] (empty default value : α) : α :=
  if value = empty then default else value

namespace Delivery

/-- Trims the host and puts standard values where there are none. -/
def normal (d : DeliverySettings) : DeliverySettings :=
  let std := DeliverySettings.standard
  { host := orDefault "" std.host (trimText d.host)
    sendInterval := orDefault 0 std.sendInterval d.sendInterval
    sendTimeout := orDefault 0 std.sendTimeout d.sendTimeout
    maxBytes := orDefault 0 std.maxBytes d.maxBytes
    retries := orDefault 0 std.retries d.retries
    stem := orDefault "" std.stem d.stem }

end Delivery

namespace Storage

def normal (s : StorageSettings) : StorageSettings :=
  let std := StorageSettings.standard
  { s with
    retention := orDefault 0 std.retention s.retention
    cleanupInterval := orDefault 0 std.cleanupInterval s.cleanupInterval }

end Storage

/-- Requires the account, the region, the cluster and the path of the key, in this order, and puts
standard values in place of zeros and empty texts. -/
def validate (s : Settings) : Except SettingsError Settings :=
  if trimText s.account = "" then .error .noAccount
  else if trimText s.region = "" then .error .noRegion
  else if trimText s.cluster = "" then .error .noCluster
  else if s.keyPath = "" then .error .noKeyPath
  else .ok { s with
    account := trimText s.account
    region := trimText s.region
    cluster := trimText s.cluster
    secretRefresh := orDefault 0 standardSecretRefresh s.secretRefresh
    delivery := Delivery.normal s.delivery
    storage := Storage.normal s.storage
    port := orDefault 0 standardPort s.port }

end Settings

end ClusterOutbox
