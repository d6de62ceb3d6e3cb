import DeviceManagement.Catalog
import DeviceManagement.Command.Basic
import DeviceManagement.Network
import DeviceManagement.Settings

/-!
# The command queue

The commands that wait for execution, and the statuses that wait for the next response, each
in order. Executing a command may add a status. Only a fetch does something so far: it gets a
resource and writes it to a node; any other command is answered as not implemented.
-/

namespace DeviceManagement

/-- How commands are executed. -/
structure ExecutionPolicy where
  /-- A fetch that fails is answered with a status. -/
  reportFailedFetches : Bool
  retry : RetryPolicy
  deriving DecidableEq, Repr

/-- The policy that some settings ask for. -/
def ExecutionPolicy.ofSettings (s : Settings) : ExecutionPolicy :=
  ⟨s.reportFailedFetches, s.retry⟩

/-- The commands and statuses that wait. -/
structure CommandQueue where
  policy : ExecutionPolicy
  commands : List Command
  statuses : List Status
  deriving Repr

namespace CommandQueue

/-- The queue in which nothing waits. -/
def empty (policy : ExecutionPolicy) : CommandQueue :=
  ⟨policy, [], []⟩

/-- The queue with more commands at its end. -/
def addCommands (q : CommandQueue) (commands : List Command) : CommandQueue :=
  { q with commands := q.commands ++ commands }

/-- The queue with more statuses at its end. -/
def addStatuses (q : CommandQueue) (statuses : List Status) : CommandQueue :=
  { q with statuses := q.statuses ++ statuses }

/-- The statuses that wait, and the queue without them. -/
def takeStatuses (q : CommandQueue) : List Status × CommandQueue :=
  (q.statuses, { q with statuses := [] })

end CommandQueue

namespace Command

variable {N : Type} [Network N]

/-- Fetches a resource. While the connection fails, up to `more` further attempts follow the
one with the number `attempt`, each after a wait. -/
def fetch (retry : RetryPolicy) (address : Address) : (more attempt : Nat) →
    Activity N (Except Fault String)
  | 0, _ => Activity.get address
  | more + 1, attempt => do
    match ← Activity.get address with
    | .ok body => return .ok body
    | .error fault =>
      if fault.transient then do
        Activity.log (.fetchRetried address attempt retry.maxAttempts.toNat fault)
        Activity.act (.wait (retry.wait attempt))
        fetch retry address more (attempt + 1)
      else
        return .error fault

/-- The resource that a fetch command names, and the node it is meant for. -/
def fetchTarget (c : Command) : Except Fault (Address × String) := do
  let url ← c.parameter 0
  let clientUri ← c.parameter 1
  let address ← Address.parse url
  return (address, clientUri)

/-- Writes a fetched body to a node; that no node can be written is no failure of the fetch. -/
def storeBody (catalog : Catalog) (clientUri body : String) : Logged Unit := do
  let stored ← catalog.writeLogged clientUri (.string body)
  if !stored then
    Logged.emit (.contentNotStored clientUri)

/-- Fetches the resource that a fetch command names and writes it to its node. -/
def executeFetch (retry : RetryPolicy) (catalog : Catalog) (c : Command) :
    Activity N (Except Fault Unit) :=
  match c.fetchTarget with
  | .error fault => return .error fault
  | .ok (address, clientUri) => do
    Activity.log (.fetching address clientUri)
    match ← fetch retry address (retry.maxAttempts.toNat - 1) 1 with
    | .error fault => return .error fault
    | .ok body => do
      Activity.ofLogged (storeBody catalog clientUri body)
      return .ok ()

/-- Executes a command and yields its statuses, of which there is at most one. -/
def execute (policy : ExecutionPolicy) (catalog : Catalog) (c : Command) :
    Activity N (List Status) :=
  match c.kind with
  | .hget => do
    match ← c.executeFetch policy.retry catalog with
    | .ok () => return [.ofCode .ok]
    | .error fault => do
      Activity.log (.fetchFailed fault)
      return if policy.reportFailedFetches then [.ofCode fault.status] else []
  | _ => return [.ofCode .notImplemented]

/-- Executes commands one after the other and yields their statuses. -/
def executeAll (policy : ExecutionPolicy) (catalog : Catalog) : List Command →
    Activity N (List Status)
  | [] => return []
  | c :: commands => do
    let first ← c.execute policy catalog
    let rest ← executeAll policy catalog commands
    return first ++ rest

end Command

/-- Executes the commands of a queue and yields the queue with their statuses at its end. -/
def CommandQueue.drain {N : Type} [Network N] (q : CommandQueue) (catalog : Catalog) :
    Activity N CommandQueue := do
  let statuses ← Command.executeAll q.policy catalog q.commands
  return { q with commands := [] }.addStatuses statuses

end DeviceManagement
