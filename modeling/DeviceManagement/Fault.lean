import DeviceManagement.Command.Kind

/-!
# Faults

What can go wrong in device management, as one type. Every fault has a text, a status code
for the server, and is either worth another attempt or not.
-/

namespace DeviceManagement

/-- What can go wrong in device management. -/
inductive Fault where
  /-- A device description could not be read from its file. -/
  | schemaFile (detail : String)
  /-- A device description is malformed or lacks its root. -/
  | schema (detail : String)
  /-- No type is registered under this id. -/
  | unknownType (typeId : String)
  /-- The type has no instance with this id. -/
  | unknownInstance (typeId instanceId : String)
  /-- The type's schema has no node at this path. -/
  | unknownNode (typeId path : String)
  /-- The requested instance id is taken. -/
  | duplicateInstance (typeId instanceId : String)
  /-- The managed object does not serve this type. -/
  | incompatible (typeId : String)
  /-- The node exists, but writing it is not available. -/
  | writeUnavailable (node : String)
  /-- A server address could not be read. -/
  | address (detail : String)
  /-- A command lacks a positional parameter. -/
  | missingParameter (command : CommandKind) (index : Nat)
  /-- The connection failed. -/
  | transport (detail : String)
  /-- A package is malformed. -/
  | decode (detail : String)
  /-- A setting is invalid or could not be read. -/
  | settings (detail : String)
  /-- A file could not be accessed. -/
  | file (detail : String)
  /-- A text is not the JSON document it should be. -/
  | json (detail : String)
  deriving DecidableEq, Repr

/-- A status code as reported to the server. -/
abbrev StatusCode : Type := UInt16

namespace StatusCode

/-- The command has been carried out. -/
def ok : StatusCode := 200

/-- The command cannot be understood. -/
def badRequest : StatusCode := 400

/-- There is no such node. -/
def notFound : StatusCode := 404

/-- An object cannot serve the type. -/
def notAcceptable : StatusCode := 406

/-- The command contradicts what is there already. -/
def conflict : StatusCode := 409

/-- The client has failed. -/
def internalError : StatusCode := 500

/-- The client does not know the command. -/
def notImplemented : StatusCode := 501

/-- The resource cannot be reached. -/
def serviceUnavailable : StatusCode := 503

end StatusCode

namespace Fault

/-- The text of a fault. -/
def message : Fault → String
  | schemaFile detail => "DDF file error: " ++ detail
  | schema detail => "DDF schema error: " ++ detail
  | unknownType typeId => "No DDF registered for MO type " ++ typeId
  | unknownInstance typeId instanceId =>
    "MO type " ++ typeId ++ " has no instance " ++ instanceId
  | unknownNode typeId path => "Node " ++ path ++ " does not exist in MO type " ++ typeId
  | duplicateInstance typeId instanceId =>
    "MO type " ++ typeId ++ " already has an instance " ++ instanceId
  | incompatible typeId => "MO object declares not compatible with " ++ typeId
  | writeUnavailable node => "Writing node " ++ node ++ " is not implemented"
  | address detail => "Invalid URL: " ++ detail
  | missingParameter command index =>
    command.name ++ " command is missing parameter " ++ index.repr
  | transport detail => "Transport error: " ++ detail
  | decode detail => "Decode error: " ++ detail
  | settings detail => "Configuration error: " ++ detail
  | file detail => "IO error: " ++ detail
  | json detail => "JSON error: " ++ detail

/-- The status code that tells the server about a fault. -/
def status : Fault → StatusCode
  | unknownType _ | unknownInstance _ _ | unknownNode _ _ => .notFound
  | duplicateInstance _ _ => .conflict
  | incompatible _ => .notAcceptable
  | writeUnavailable _ => .notImplemented
  | address _ | missingParameter _ _ | decode _ => .badRequest
  | transport _ => .serviceUnavailable
  | schemaFile _ | schema _ | settings _ | file _ | json _ => .internalError

/-- A fault is transient if another attempt may succeed. -/
def transient : Fault → Bool
  | transport _ => true
  | _ => false

end Fault

end DeviceManagement
