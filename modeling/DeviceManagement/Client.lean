import DeviceManagement.Alert
import DeviceManagement.Session.Basic

/-!
# Clients

A client has a catalog of types, a command queue, a session and an alert queue. `start` runs
a complete session: it sends the first package, and then answers request by request until
the server ends the session or sends something that is no request. The answers of the server
are given as a list; when it is used up, the connection is refused.
-/

namespace DeviceManagement

/-- What is known of a session after its end. -/
structure SessionReport where
  /-- The number of responses that have been sent. -/
  responses : Nat
  reason : SessionEnd
  deriving DecidableEq, Repr

/-- A client for device management. -/
structure Client where
  catalog : Catalog
  queue : CommandQueue
  session : Session
  alerts : AlertQueue
  /-- The whole tree is reported when a session starts. -/
  dumpTree : Bool

namespace Client

/-- The client with the given settings. Settings with a defect are used all the same. -/
def ofSettings (s : Settings) : Logged Client :=
  ⟨{
      catalog := .empty
      queue := .empty (.ofSettings s)
      session := .ofSettings s
      alerts := .empty
      dumpTree := s.dumpTree },
    match s.validate with
    | .ok () => []
    | .error fault => [.invalidSettings fault]⟩

/-- The answer to a package when the server has no more answers. -/
def refused : Reply :=
  .error (.transport "connection refused")

/-! ### Requests and responses -/

/-- What a client does about a request. -/
inductive Turn where
  /-- The session is over. -/
  | over (reason : SessionEnd)
  /-- A response is due. -/
  | respond (response : Response)

variable {N : Type} [Network N]

/-- Reads a request and executes its commands. The statuses go into the response, or nowhere
if the request ends the session. -/
def takeTurn (catalog : Catalog) (session : Session) (queue : CommandQueue) (text : String) :
    Activity N (Turn × Session × CommandQueue) := do
  let reception ← Activity.ofLogged (session.receive queue text)
  match reception.outcome with
  | .unreadable => return (.over .decodeFailure, reception.session, reception.queue)
  | .ended => do
    let (dropped, queue) := (← reception.queue.drain catalog).takeStatuses
    if !dropped.isEmpty then
      Activity.log (.statusesDropped (dropped.map Status.code))
    return (.over .endCommand, reception.session, queue)
  | .continue => do
    let (statuses, queue) := (← reception.queue.drain catalog).takeStatuses
    return (.respond ⟨statuses⟩, reception.session, queue)

/-- What an exchange leaves behind. -/
structure Conclusion where
  report : SessionReport
  session : Session
  queue : CommandQueue
  /-- The answers of the server that have not been asked for. -/
  replies : List Reply

/-- The exchange that starts with the request `text` after `sent` responses, where `replies`
are the further answers of the server. A package without an answer counts as answered by the
empty text, which is no request. -/
def converse (catalog : Catalog) : (replies : List Reply) → Session → CommandQueue →
    (text : String) → (sent : Nat) → Activity N Conclusion
  | [], session, queue, text, sent => do
    match ← takeTurn catalog session queue text with
    | (.over reason, session, queue) => return ⟨⟨sent, reason⟩, session, queue, []⟩
    | (.respond response, session, queue) => do
      let _ ← session.sendResponse response.text refused
      let reception ← Activity.ofLogged (session.receive queue "")
      return ⟨⟨sent + 1, .decodeFailure⟩, reception.session, reception.queue, []⟩
  | reply :: replies, session, queue, text, sent => do
    match ← takeTurn catalog session queue text with
    | (.over reason, session, queue) => return ⟨⟨sent, reason⟩, session, queue, reply :: replies⟩
    | (.respond response, session, queue) => do
      let answer ← session.sendResponse response.text reply
      converse catalog replies session queue (answer.toOption.getD "") (sent + 1)

/-! ### Whole sessions -/

/-- The first package of a client, with the URNs of the alerts that it takes along. -/
def initiation {M : Type} [ManagedObject M] (c : Client) (store : Store M)
    (alerts : List String) : Initiation where
  types := c.catalog.summaries store
  alerts := alerts
  tree := if c.dumpTree then some (c.catalog.reports store) else none

/-- Runs a complete session, where `replies` are the answers of the server, and yields its
report, the client afterwards, and the answers that have not been asked for. -/
def start {M : Type} [ManagedObject M] (c : Client) (store : Store M) (serverInitiated : Bool)
    (replies : List Reply) : Activity N (SessionReport × Client × List Reply) := do
  Activity.log (.sessionStarting serverInitiated)
  let (urns, alerts) := (c.alerts.add (.ofType (.ofSession serverInitiated))).flush
  let package := c.initiation store urns
  let (answer, session) ←
    c.session.sendInitiation package.text (replies.headD refused)
  let conclusion ←
    converse c.catalog replies.tail session c.queue (answer.toOption.getD "") 0
  Activity.log (.sessionFinished conclusion.report.responses conclusion.report.reason)
  return (conclusion.report,
    { c with
      queue := conclusion.queue
      session := conclusion.session.finish
      alerts := alerts },
    conclusion.replies)

/-- The store after every object has been told that the client shuts down. -/
def shutdown {M : Type} [ManagedObject M] (c : Client) (store : Store M) : Logged (Store M) :=
  ⟨c.catalog.close store, [.closing]⟩

end Client

end DeviceManagement
