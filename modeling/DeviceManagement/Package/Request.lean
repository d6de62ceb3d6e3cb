import DeviceManagement.Fault
import DeviceManagement.Json.Form

/-!
# Requests

The package by which a server sends commands. Its entries stay JSON values until they are
taken as commands one by one.
-/

namespace DeviceManagement

/-- A package with commands from the server. -/
structure Request where
  entries : List Json.Value

namespace Request

/-- The media type of the package. -/
def mediaType : String := "application/vnd.oma.dm.request+json"

/-- Why a text is no request. -/
inductive ReadFault where
  | notJson
  | notObject
  | commandsNotArray
  | noCommands
  deriving DecidableEq, Repr

/-- The wording of a fault. -/
def ReadFault.message : ReadFault → String
  | notJson => "P2 is not valid JSON: not a JSON document"
  | notObject => "P2 is not a JSON object"
  | commandsNotArray => "P2 CMD is not an array"
  | noCommands => "P2 has no CMD member"

/-- The request that a JSON value stands for. -/
def ofJson : Json.Value → Except ReadFault Request
  | .object members =>
    match Json.lookup "CMD" members with
    | some (.array entries) => .ok ⟨entries⟩
    | some _ => .error .commandsNotArray
    | none => .error .noCommands
  | _ => .error .notObject

/-- The request that a text stands for. -/
def read (text : String) : Except ReadFault Request :=
  match Json.Value.ofText? text with
  | some value => ofJson value
  | none => .error .notJson

/-- The request that a text stands for. -/
def ofText (text : String) : Except Fault Request :=
  (read text).mapError fun fault => .decode fault.message

end Request

end DeviceManagement
