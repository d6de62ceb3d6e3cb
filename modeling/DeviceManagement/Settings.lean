import DeviceManagement.Address
import DeviceManagement.Json.Form
import DeviceManagement.Json.Printer
import DeviceManagement.Text.File

/-!
# Settings

The settings of a client. Every setting has a default, so that a text only has to give what
differs. `validate` refuses the values that no client can work with; `ofText` and `ofFile`
read settings and validate them.
-/

namespace DeviceManagement

/-- The encodings of packages. -/
inductive Encoding where
  /-- The JSON text itself. -/
  | json
  /-- The JSON text in base64. -/
  | base64
  deriving DecidableEq, Repr

namespace Encoding

/-- The name of an encoding. -/
def name : Encoding → String
  | json => "json"
  | base64 => "base64"

/-- The encoding with the given name. -/
def ofName? (name : String) : Option Encoding :=
  [json, base64].find? fun encoding => encoding.name == name

end Encoding

/-- How often a fetch is attempted while the connection fails. -/
structure RetryPolicy where
  /-- The number of attempts; one means that no attempt is repeated. -/
  maxAttempts : UInt32
  /-- The wait after each attempt is this many milliseconds longer than the one before. -/
  backoff : UInt64
  deriving DecidableEq, Repr

/-- The wait in milliseconds after the given attempt, at most what 64 bits can hold. -/
def RetryPolicy.wait (p : RetryPolicy) (attempt : Nat) : Nat :=
  min (p.backoff.toNat * attempt) (UInt64.size - 1)

/-- The policy that repeats no attempt. -/
def RetryPolicy.once : RetryPolicy :=
  ⟨1, 0⟩

/-- The settings of a client. -/
structure Settings where
  /-- The address that packages are sent to. -/
  serverUrl : String
  deviceId : String
  /-- The whole tree is reported when a session starts. -/
  dumpTree : Bool
  /-- The time a request to the server may take, in milliseconds. -/
  timeout : UInt64
  encoding : Encoding
  /-- An unknown command is answered instead of dropped. -/
  reportUnknownCommands : Bool
  /-- A fetch that fails is answered instead of passed over. -/
  reportFailedFetches : Bool
  retry : RetryPolicy
  deriving DecidableEq, Repr

namespace Settings

/-- The time a request may take if none is set, in milliseconds. -/
def defaultTimeout : UInt64 := 30000

/-- The settings that are valid where nothing else is given. -/
def default : Settings where
  serverUrl := "http://localhost:9988/path"
  deviceId := "omadm-device"
  dumpTree := false
  timeout := defaultTimeout
  encoding := .json
  reportUnknownCommands := false
  reportFailedFetches := false
  retry := .once

/-- The time a request may take, in milliseconds; a request that may take none would always
fail, so it may take the default. -/
def effectiveTimeout (s : Settings) : UInt64 :=
  if s.timeout = 0 then defaultTimeout else s.timeout

/-- What no client can work with. -/
inductive Defect where
  | serverUrl (fault : Fault)
  | zeroTimeout
  | zeroAttempts
  deriving DecidableEq, Repr

/-- The wording of a defect. -/
def Defect.message : Defect → String
  | serverUrl fault => "server_url: " ++ fault.message
  | zeroTimeout => "timeout_ms must be positive"
  | zeroAttempts => "fetch_retry.max_attempts must be at least 1"

/-- The first defect of some settings, if they have one. -/
def defect? (s : Settings) : Option Defect :=
  match Address.parse s.serverUrl with
  | .error fault => some (.serverUrl fault)
  | .ok _ =>
    if s.timeout = 0 then some .zeroTimeout
    else if s.retry.maxAttempts = 0 then some .zeroAttempts
    else none

/-- Refuses settings with a defect. -/
def validate (s : Settings) : Except Fault Unit :=
  match s.defect? with
  | some defect => .error (.settings defect.message)
  | none => .ok ()

/-! ### Writing -/

/-- A retry policy as a JSON value. -/
def ofRetry (p : RetryPolicy) : Json.Value :=
  .object [("max_attempts", .ofNat p.maxAttempts.toNat), ("backoff_ms", .ofNat p.backoff.toNat)]

/-- Settings as a JSON value. -/
def toJson (s : Settings) : Json.Value :=
  .object [("server_url", .string s.serverUrl), ("device_id", .string s.deviceId),
    ("dump_tree", .bool s.dumpTree), ("timeout_ms", .ofNat s.timeout.toNat),
    ("payload_encoding", .string s.encoding.name),
    ("report_unknown_commands", .bool s.reportUnknownCommands),
    ("report_failed_fetches", .bool s.reportFailedFetches), ("fetch_retry", ofRetry s.retry)]

/-- Settings as text. -/
def text (s : Settings) : String :=
  s.toJson.text

/-! ### Reading -/

/-- The encoding that a form stands for: its name, or an object whose only member is named
like it and is `null`. -/
def readEncoding? : Json.Form → Option Encoding
  | .string (some name) => Encoding.ofName? name
  | .object [(some name, .null)] => Encoding.ofName? name
  | _ => none

open Json.Form in
/-- The retry policy that a form stands for. -/
def readRetry? (form : Json.Form) : Option RetryPolicy := do
  let [maxAttempts, backoff] ← form.fields? ["max_attempts", "backoff_ms"] | none
  let maxAttempts ←
    orDefault? RetryPolicy.once.maxAttempts.toNat (natural? (UInt32.size - 1)) maxAttempts
  let backoff ← orDefault? RetryPolicy.once.backoff.toNat (natural? (UInt64.size - 1)) backoff
  return ⟨UInt32.ofNat maxAttempts, UInt64.ofNat backoff⟩

/-- The names of the settings, in order. -/
def fieldNames : List String :=
  ["server_url", "device_id", "dump_tree", "timeout_ms", "payload_encoding",
    "report_unknown_commands", "report_failed_fetches", "fetch_retry"]

open Json.Form in
/-- The settings that a form stands for. -/
def ofForm? (form : Json.Form) : Option Settings := do
  let [serverUrl, deviceId, dumpTree, timeout, encoding, unknown, failed, retry] ←
    form.fields? fieldNames | none
  let timeout ← orDefault? default.timeout.toNat (natural? (UInt64.size - 1)) timeout
  return {
    serverUrl := ← orDefault? default.serverUrl text? serverUrl
    deviceId := ← orDefault? default.deviceId text? deviceId
    dumpTree := ← orDefault? default.dumpTree bool? dumpTree
    timeout := UInt64.ofNat timeout
    encoding := ← orDefault? default.encoding readEncoding? encoding
    reportUnknownCommands := ← orDefault? default.reportUnknownCommands bool? unknown
    reportFailedFetches := ← orDefault? default.reportFailedFetches bool? failed
    retry := ← orDefault? default.retry readRetry? retry
  }

/-- The settings that a text stands for, defects or not. -/
def read? (text : String) : Option Settings := do
  let form ← Json.Form.ofText? text
  ofForm? form

/-- The text of a fault for settings that cannot be read. -/
def unreadable : String := "not a JSON document with settings"

/-- The settings with the given text, unless they cannot be read or have a defect, where
`detail` is the text of the fault for settings that cannot be read. -/
def check (detail : String) : Option Settings → Except Fault Settings
  | none => .error (.settings detail)
  | some s => (validate s).map fun () => s

/-- The valid settings that a text stands for. -/
def ofText (text : String) : Except Fault Settings :=
  check unreadable (read? text)

/-- The valid settings that the text in a file stands for. -/
def ofFile (path : String) (file : Option (List UInt8)) : Except Fault Settings :=
  match Text.readFile file with
  | .ok text => check (path ++ ": " ++ unreadable) (read? text)
  | .error fault => .error (.settings (path ++ ": " ++ fault.message))

end Settings

end DeviceManagement
