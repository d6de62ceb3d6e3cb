import DeviceManagement.Address
import DeviceManagement.Fault
import DeviceManagement.Json.Printer
import DeviceManagement.Session.Phase

/-!
# Events

What the operations of this library write into a log. Every event has a level and a text.
-/

namespace DeviceManagement

/-- The levels of events. -/
inductive Level where
  | info
  | warn
  | error
  deriving DecidableEq, Repr

/-- The name of a level. -/
def Level.name : Level → String
  | info => "INFO"
  | warn => "WARN"
  | error => "ERROR"

/-- What can be written into a log. -/
inductive Event where
  | registeringFile (path typeId : String)
  | registeringText (typeId : String)
  | registrationFailed (typeId : String) (fault : Fault)
  | typeNameDiffers (declared typeId : String)
  | instanceAdded (instanceId typeId : String)
  | attachmentFailed (fault : Fault)
  | missingNode (path : String)
  | typeWriteFailed (fault : Fault)
  | writeFailed (uri : String) (fault : Fault)
  | fetching (address : Address) (clientUri : String)
  | fetchRetried (address : Address) (attempt maxAttempts : Nat) (fault : Fault)
  | contentNotStored (clientUri : String)
  | fetchFailed (fault : Fault)
  | initiationFailed (fault : Fault)
  | responseFailed (fault : Fault)
  | requestUnreadable (fault : Fault)
  | malformedCommand (entry : Json.Value)
  | endReceived
  | unknownCommand (name : String) (answered : Bool)
  | invalidSettings (fault : Fault)
  | sessionStarting (serverInitiated : Bool)
  | statusesDropped (codes : List StatusCode)
  | sessionFinished (responses : Nat) (reason : SessionEnd)
  | closing

namespace Event

/-- The level of an event. -/
def level : Event → Level
  | registeringFile _ _ | registeringText _ | instanceAdded _ _ | fetching _ _ | endReceived
  | sessionStarting _ | sessionFinished _ _ | closing => .info
  | typeNameDiffers _ _ | missingNode _ | typeWriteFailed _ | writeFailed _ _
  | fetchRetried _ _ _ _ | contentNotStored _ | malformedCommand _ | unknownCommand _ _
  | invalidSettings _ | statusesDropped _ => .warn
  | registrationFailed _ _ | attachmentFailed _ | fetchFailed _ | initiationFailed _
  | responseFailed _ | requestUnreadable _ => .error

/-- The text of an event. -/
def text : Event → String
  | registeringFile path typeId => "Registering DDF file " ++ path ++ " for " ++ typeId
  | registeringText typeId => "Registering in-memory DDF for " ++ typeId
  | registrationFailed typeId fault =>
    "Failed to register MO type " ++ typeId ++ ": " ++ fault.message
  | typeNameDiffers declared typeId =>
    "DDF declares type " ++ declared ++ " but is registered as " ++ typeId
  | instanceAdded instanceId typeId =>
    "Added instance " ++ instanceId ++ " to MO type " ++ typeId
  | attachmentFailed fault => "Failed to add MO instance: " ++ fault.message
  | missingNode path => "Trying to set non-existing node " ++ path
  | typeWriteFailed fault => "node_set failed: " ++ fault.message
  | writeFailed uri fault => "node_set " ++ uri ++ " failed: " ++ fault.message
  | fetching address clientUri => "HGET " ++ address.display ++ " -> " ++ clientUri
  | fetchRetried address attempt maxAttempts fault =>
    "GET " ++ address.display ++ " failed (attempt " ++ attempt.repr ++ "/" ++ maxAttempts.repr
      ++ "): " ++ fault.message
  | contentNotStored clientUri => "HGET content not stored at " ++ clientUri
  | fetchFailed fault => "HGET failed: " ++ fault.message
  | initiationFailed fault => "Sending P1 failed: " ++ fault.message
  | responseFailed fault => "Sending P3 failed: " ++ fault.message
  | requestUnreadable fault => "Failed to decode P2, ending session: " ++ fault.message
  | malformedCommand entry => "Ignoring malformed P2 command " ++ entry.text
  | endReceived => "Received END command"
  | unknownCommand name answered =>
    "Received unknown command " ++ name ++ (if answered then ", answering 501" else ", ignoring")
  | invalidSettings fault => "Using invalid client configuration: " ++ fault.message
  | sessionStarting serverInitiated =>
    (if serverInitiated then "Starting server initiated session"
      else "Starting client initiated session")
  | statusesDropped codes =>
    "Dropping " ++ codes.length.repr ++ " status(es) produced after END: ["
      ++ ", ".intercalate (codes.map fun code => code.toNat.repr) ++ "]"
  | sessionFinished responses reason =>
    "Session finished after " ++ responses.repr ++ " P3 package(s): " ++ reason.name
  | closing => "Shutting down, closing all MO instances"

end Event

/-- A value together with the events on the way to it, in order. -/
structure Logged (α : Type) where
  value : α
  events : List Event

namespace Logged

instance : Monad Logged where
  pure value := ⟨value, []⟩
  bind x f := ⟨(f x.value).value, x.events ++ (f x.value).events⟩

/-- The event `event`. -/
def emit (event : Event) : Logged Unit :=
  ⟨(), [event]⟩

@[simp]
theorem value_pure {α : Type} (a : α) :
  (pure a : Logged α).value = a
  := rfl

@[simp]
theorem events_pure {α : Type} (a : α) :
  (pure a : Logged α).events = []
  := rfl

@[simp]
theorem value_bind {α β : Type} (x : Logged α) (f : α → Logged β) :
  (x >>= f).value = (f x.value).value
  := rfl

@[simp]
theorem events_bind {α β : Type} (x : Logged α) (f : α → Logged β) :
  (x >>= f).events = x.events ++ (f x.value).events
  := rfl

@[simp]
theorem events_emit (event : Event) :
  (emit event).events = [event]
  := rfl

/-- The events of a sequence do not depend on how its parts are grouped. -/
instance : LawfulMonad Logged :=
  LawfulMonad.mk' Logged
    (fun x => by simp [Functor.map])
    (fun a f => by simp [bind, pure])
    (fun x f g => by simp [bind])

end Logged

end DeviceManagement
