/-!
# Command kinds

The commands a management server may send, each with the name it has in a request.
-/

namespace DeviceManagement

/-- The kinds of command a server may send. -/
inductive CommandKind where
  | endSession
  | cont
  | hget
  | hput
  | hpost
  | delete
  | exec
  | get
  | showNode
  | default
  | sub
  | unsub
  deriving DecidableEq, Repr

namespace CommandKind

/-- The name of a kind in a request. -/
def name : CommandKind → String
  | endSession => "END"
  | cont => "CONT"
  | hget => "HGET"
  | hput => "HPUT"
  | hpost => "HPOST"
  | delete => "DELETE"
  | exec => "EXEC"
  | get => "GET"
  | showNode => "SHOW"
  | default => "DEFAULT"
  | sub => "SUB"
  | unsub => "UNSUB"

/-- Every kind of command. -/
def all : List CommandKind :=
  [endSession, cont, hget, hput, hpost, delete, exec, get, showNode, default, sub, unsub]

/-- The kind with the given name; names are told apart by case. -/
def ofName? (name : String) : Option CommandKind :=
  all.find? fun kind => kind.name == name

/-- The list of all kinds leaves none out. -/
theorem mem_all (kind : CommandKind) :
  kind ∈ all
  := by
  cases kind <;> decide

/-- A kind is found under its own name. -/
theorem ofName?_name (kind : CommandKind) :
  ofName? kind.name = some kind
  := by
  cases kind <;> decide

/-- A name found belongs to the kind it is found for. -/
theorem name_eq_of_ofName? {name : String} {kind : CommandKind} (h : ofName? name = some kind) :
  kind.name = name
  := by
  simpa using List.find?_some h

end CommandKind

end DeviceManagement
