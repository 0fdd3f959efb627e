import ClusterOutbox.Metrics.Basic
import ClusterOutbox.Number.Double

namespace ClusterOutbox

/-- What a series of a family shows. -/
inductive Measure
  | number (value : Float)
  | histogram (bounds : List Float) (h : Histogram)

/-- A family of series with one meaning. -/
structure Family where
  name : String
  help : String
  type : String
  labels : List String
  series : List (List String × Measure)

namespace Family

def counter (name help : String) (labels : List String) (m : SortedMap (List String) UInt64) :
    Family :=
  ⟨name, help, "counter", labels, m.entries.map fun (k, n) => (k, .number n.toFloat)⟩

def plainCounter (name help : String) (n : UInt64) : Family :=
  ⟨name, help, "counter", [], [([], .number n.toFloat)]⟩

def gauge (name help : String) (labels : List String) (m : SortedMap (List String) Int64) : Family :=
  ⟨name, help, "gauge", labels, m.entries.map fun (k, n) => (k, .number (Float.ofInt n.toInt))⟩

def histogram (name help : String) (labels : List String) (bounds : List Float)
    (m : SortedMap (List String) Histogram) : Family :=
  ⟨name, help, "histogram", labels, m.entries.map fun (k, h) => (k, .histogram bounds h)⟩

/-- A label value within quotes. -/
def escapeChar (c : Char) : List Char :=
  if c = '\\' then ['\\', '\\']
  else if c = '"' then ['\\', '"']
  else if c = '\n' then ['\\', 'n']
  else [c]

def labelText (label : String × String) : List Char :=
  label.1.toList ++ '=' :: '"' :: (label.2.toList.flatMap escapeChar ++ ['"'])

/-- The labels of a series in braces, nothing where there are none. -/
def labelsText : List (String × String) → List Char
  | [] => []
  | label :: rest =>
    '\x7b' :: (labelText label ++ rest.flatMap (fun l => ',' :: labelText l) ++ ['\x7d'])

/-- One line: a name, labels and a number. -/
def line (name : String) (labels : List (String × String)) (value : Float) : List Char :=
  name.toList ++ labelsText labels ++ ' ' :: ((Double.text value.toBits).toList ++ ['\n'])

def seriesText (name : String) (labels : List (String × String)) : Measure → List Char
  | .number value => line name labels value
  | .histogram bounds h =>
    let bucket := fun (bound : String) (n : UInt64) =>
      line (name ++ "_bucket") (labels ++ [("le", bound)]) n.toFloat
    ((bounds.zip h.cumulative).flatMap fun (b, n) => bucket (Double.text b.toBits) n) ++
      bucket "+Inf" h.count ++ line (name ++ "_sum") labels h.sum ++
      line (name ++ "_count") labels h.count.toFloat

/-- A family as text; one without series is left out. -/
def text (f : Family) : List Char :=
  if f.series.isEmpty then []
  else
    ("# HELP " ++ f.name ++ " " ++ f.help ++ "\n# TYPE " ++ f.name ++ " " ++ f.type ++ "\n").toList ++
      f.series.flatMap fun (values, m) => seriesText f.name (f.labels.zip values) m

end Family

namespace Metrics

/-- All families, by name. -/
def families (m : Metrics) : List Family := [
  .plainCounter "housekeeper_failures_total" "Total number of failed retention passes"
    m.retentionFailures,
  .plainCounter "housekeeper_records_deleted_total"
    "Total number of delivered records reclaimed by retention" m.reclaimed,
  .gauge "remote_write_backlog_records" "Records selected for delivery and not yet sent"
    ["endpoint"] m.backlog,
  .counter "remote_write_db_failures_total"
    "Store failures while selecting or acknowledging records" ["endpoint"] m.dbFailures,
  .counter "remote_write_failures_total" "Total number of failed remote write flushes"
    ["endpoint"] m.pushFailures,
  .histogram "remote_write_payload_size_bytes" "Compressed size of remote write payloads"
    ["endpoint"] payloadBounds m.payloadBytes,
  .counter "remote_write_records_processed_total" "Total number of records confirmed delivered"
    ["endpoint"] m.processed,
  .histogram "remote_write_request_duration_seconds" "Duration of remote write requests"
    ["endpoint"] requestBounds m.requestSeconds,
  .counter "remote_write_response_codes_total" "Remote write responses by status code"
    ["endpoint", "status_code"] m.responses,
  .counter "remote_write_timeseries_total"
    "Total number of time series sent to the remote endpoint" ["endpoint"] m.seriesSent,
  .counter "storage_write_failure_total" "Total number of failed resource record writes"
    ["action", "namespace", "resource_type"] m.writeFailures]

/-- Adds the names of all families to those registered, unless one of them is. -/
def register? (names : List String) : Option (List String) :=
  let own := empty.families.map (·.name)
  if own.any names.contains then none else some (names ++ own)

/-- All families as text. -/
def text (m : Metrics) : String := String.ofList (m.families.flatMap Family.text)

end Metrics

end ClusterOutbox
