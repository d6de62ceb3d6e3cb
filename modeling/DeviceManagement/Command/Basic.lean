import DeviceManagement.Fault
import DeviceManagement.Json.Printer

/-!
# Commands and statuses

A command is a kind with its parameters, as a request gives it, and a status is what the
server is told about a command. `RawCommand` is an entry of a request before its name has
been recognized.
-/

namespace DeviceManagement

/-- A command with its parameters. -/
structure Command where
  kind : CommandKind
  parameters : List String
  deriving DecidableEq, Repr

/-- The parameter of a command with the given number, counted from zero. -/
def Command.parameter (c : Command) (index : Nat) : Except Fault String :=
  match c.parameters[index]? with
  | some parameter => .ok parameter
  | none => .error (.missingParameter c.kind index)

/-- What the server is told about a command. -/
structure Status where
  code : StatusCode
  uris : List String
  deriving DecidableEq, Repr

/-- The status that consists of a code. -/
def Status.ofCode (code : StatusCode) : Status :=
  ⟨code, []⟩

/-- An entry of a request, with a name that need not belong to a command. -/
structure RawCommand where
  name : String
  parameters : List String
  deriving DecidableEq, Repr

namespace RawCommand

/-- A parameter is a string; any other value is taken as its JSON text. -/
def parameterText : Json.Value → String
  | .string s => s
  | value => value.text

/-- The command that an entry stands for: an array of a name and parameters. -/
def ofEntry? : Json.Value → Option RawCommand
  | .array (.string name :: parameters) => some ⟨name, parameters.map parameterText⟩
  | _ => none

end RawCommand

end DeviceManagement
