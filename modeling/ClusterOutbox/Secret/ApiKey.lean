import ClusterOutbox.Probe.Health
import ClusterOutbox.Text.Blank
import ClusterOutbox.Text.Utf8
import ClusterOutbox.Time.Duration

namespace ClusterOutbox

/-- The file of the key. -/
inductive KeyFile
  | missing
  | content (bytes : List UInt8)

/-- Why a file does not read as text. -/
inductive ReadError
  | noFile
  | notText
deriving DecidableEq

def ReadError.message : ReadError → String
  | noFile => "No such file or directory (os error 2)"
  | notText => "stream did not contain valid UTF-8"

/-- The key of a file: its text without the blanks around it. -/
def KeyFile.key? : KeyFile → Except ReadError String
  | missing => .error .noFile
  | content bytes =>
    match ofUtf8? bytes with
    | some s => .ok (trimText s)
    | none => .error .notText

/-- A secret as logs show it: its first two characters, or nothing of a short one. -/
def redact (secret : String) : String :=
  match secret.toList with
  | a :: b :: _ :: _ => String.ofList [a, b, '*', '*', '*']
  | _ => "*****"

/-- The key in use, and the one that the monitor saw last. -/
structure Secret where
  key : String
  seen : String
deriving DecidableEq

namespace Secret

/-- The name of the component in the health report. -/
def component : String := "secrets"

/-- The name of the job that looks at the file. -/
def jobName : String := "secret-monitor"

/-- The time between two looks at the file. -/
def interval : Duration := .ofSeconds 60

/-- Watches a key from now on. -/
def watch (key : String) : Secret := ⟨key, key⟩

/-- Reads the file again, and keeps the key where it does not read. The result says whether the key
is not the one seen last. -/
def refresh (s : Secret) (file : KeyFile) : Except ReadError Bool × Secret :=
  match file.key? with
  | .error e => (.error e, s)
  | .ok key => (.ok (key != s.seen), ⟨key, key⟩)

/-- What a failed look at the file says. -/
def complaint (path : String) : String := "failed to read API key from " ++ path

/-- The health of the component after a look at the file. -/
def health (path : String) (result : Except ReadError Bool) : ComponentHealth :=
  match result with
  | .ok _ => .healthy
  | .error _ => .degraded (complaint path)

end Secret

end ClusterOutbox
