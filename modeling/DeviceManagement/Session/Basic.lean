import DeviceManagement.Command.Queue
import DeviceManagement.Package.Initiation
import DeviceManagement.Package.Request
import DeviceManagement.Package.Response
import DeviceManagement.Session.Phase
import DeviceManagement.Text.Base64
import DeviceManagement.Text.Blank

/-!
# Sessions

The exchange of packages with one server. `send` posts a package and reads the reply in the
encoding of the session. `receive` reads a request: its commands and the statuses of unknown
ones go into the queue, and it tells how the session goes on.
-/

namespace DeviceManagement

/-- What the server answers to a package, or why there is no answer. -/
abbrev Reply : Type := Except Fault String

namespace Encoding

/-- A text as it is sent. -/
def encode (text : String) : Encoding → String
  | json => text
  | base64 => String.ofList (Text.Base64.encode (Text.utf8 text))

/-- The text that a reply stands for. White space around base64 does not matter. -/
def decode (reply : String) : Encoding → Except Fault String
  | json => .ok reply
  | base64 =>
    match Text.Base64.decode? (Text.trim reply.toList) with
    | none => .error (.decode "reply is not base64: not a canonical base64 text")
    | some bytes =>
      match Text.ofUtf8 bytes with
      | .ok text => .ok text
      | .error fault => .error (.decode ("reply is not UTF-8: " ++ fault.message))

end Encoding

/-- The exchange of packages with a server. -/
structure Session where
  serverUrl : String
  deviceId : String
  encoding : Encoding
  /-- Unknown commands are answered with a status. -/
  reportUnknownCommands : Bool
  phase : Phase
  deriving Repr

namespace Session

/-- The session that some settings ask for. -/
def ofSettings (s : Settings) : Session :=
  ⟨s.serverUrl, s.deviceId, s.encoding, s.reportUnknownCommands, .idle⟩

/-- The session in which no package is exchanged any more. -/
def finish (s : Session) : Session :=
  { s with phase := .idle }

/-! ### Sending -/

/-- The name of the header that tells the device. -/
def deviceHeader : String := "OMADM-DevID"

/-- The headers of a package. -/
def headers (s : Session) (mediaType : String) : List (String × String) :=
  [(deviceHeader, s.deviceId), ("Accept", Request.mediaType), ("Content-Type", mediaType)]

/-- The text that a reply stands for. -/
def readReply (s : Session) (reply : Reply) : Except Fault String :=
  reply.bind fun text => s.encoding.decode text

variable {N : Type}

/-- Posts a package, to which `reply` is the answer, and yields the text of the answer. A
failure is logged as the given event. -/
def send (s : Session) (mediaType package : String) (reply : Reply) (failure : Fault → Event) :
    Activity N (Except Fault String) := do
  Activity.act (.post s.serverUrl (s.headers mediaType) (s.encoding.encode package))
  match s.readReply reply with
  | .ok text => return .ok text
  | .error fault => do
    Activity.log (failure fault)
    return .error fault

/-- Posts the first package of a session. -/
def sendInitiation (s : Session) (package : String) (reply : Reply) :
    Activity N (Except Fault String × Session) := do
  let answer ← s.send Initiation.mediaType package reply .initiationFailed
  return (answer, { s with phase := .initiating })

/-- Posts a response. -/
def sendResponse (s : Session) (package : String) (reply : Reply) :
    Activity N (Except Fault String) :=
  s.send Response.mediaType package reply .responseFailed

/-! ### Receiving -/

/-- What an entry of a request is to a session. -/
inductive Entry where
  /-- The entry is no command. -/
  | malformed (value : Json.Value)
  /-- The entry ends the session. -/
  | ending
  /-- The entry is a command to execute. -/
  | command (c : Command)
  /-- The entry is a command with an unknown name. -/
  | unknown (name : String)

namespace Entry

/-- What a JSON value is as an entry of a request. -/
def ofJson (value : Json.Value) : Entry :=
  match RawCommand.ofEntry? value with
  | none => malformed value
  | some raw =>
    match CommandKind.ofName? raw.name with
    | some .endSession => ending
    | some kind => command ⟨kind, raw.parameters⟩
    | none => unknown raw.name

/-- Whether an entry ends the session. -/
def isEnding : Entry → Bool
  | ending => true
  | _ => false

/-- The command of an entry. -/
def command? : Entry → Option Command
  | command c => some c
  | _ => none

/-- The status that an entry has at once, where unknown commands are answered or not. -/
def status? (report : Bool) : Entry → Option Status
  | unknown _ => if report then some (.ofCode .notImplemented) else none
  | _ => none

/-- The event of an entry, where unknown commands are answered or not. -/
def event? (report : Bool) : Entry → Option Event
  | malformed value => some (.malformedCommand value)
  | ending => some .endReceived
  | unknown name => some (.unknownCommand name report)
  | command _ => none

end Entry

/-- What reading a request leads to. -/
structure Reception where
  outcome : Outcome
  session : Session
  queue : CommandQueue

/-- Reads a request. Its entries count in order, also those after one that ends the session;
a text that is no request leaves the queue as it is. -/
def receive (s : Session) (queue : CommandQueue) (text : String) : Logged Reception :=
  match Request.ofText text with
  | .error fault =>
    ⟨⟨.unreadable, { s with phase := .ended }, queue⟩, [.requestUnreadable fault]⟩
  | .ok request =>
    let entries := request.entries.map Entry.ofJson
    let report := s.reportUnknownCommands
    let queue := (queue.addCommands (entries.filterMap Entry.command?)).addStatuses
      (entries.filterMap (Entry.status? report))
    let events := entries.filterMap (Entry.event? report)
    if entries.any Entry.isEnding then
      ⟨⟨.ended, { s with phase := .ended }, queue⟩, events⟩
    else
      ⟨⟨.continue, { s with phase := .responding }, queue⟩, events⟩

/-- Reads a request, and tells whether the session goes on, with the session and the queue
after it. -/
def receiveContinues (s : Session) (queue : CommandQueue) (text : String) :
    Logged (Bool × Session × CommandQueue) := do
  let reception ← s.receive queue text
  return (reception.outcome == .continue, reception.session, reception.queue)

end Session

end DeviceManagement
