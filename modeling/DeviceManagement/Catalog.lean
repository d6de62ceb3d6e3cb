import DeviceManagement.ManagedType.Basic

/-!
# The catalog of types

The managed types a client knows, in the order of registration. Registering a type again
changes nothing. A node is addressed by its type, its instance and its path, with one `/`
more in front if the sender likes, and the catalog finds the type of an address.
-/

namespace DeviceManagement

/-- The managed types a client knows, in the order of registration. -/
structure Catalog where
  types : List ManagedType
  deriving Repr

namespace Catalog

/-- The catalog without types. -/
def empty : Catalog :=
  ⟨[]⟩

/-- The type with the given id. -/
def type? (c : Catalog) (typeId : String) : Option ManagedType :=
  c.types.find? fun t => t.typeId == typeId

/-- The ids of the types, in the order of registration. -/
def typeIds (c : Catalog) : List String :=
  c.types.map ManagedType.typeId

/-! ### Registering -/

/-- The catalog with a type of the given schema at its end. -/
def add (c : Catalog) (typeId : String) (schemaUrl : Option String) :
    Except Fault Schema → Logged (Bool × Catalog)
  | .ok schema => do
    let type ← ManagedType.create typeId schema schemaUrl
    return (true, ⟨c.types ++ [type]⟩)
  | .error fault => ⟨(false, c), [.registrationFailed typeId fault]⟩

/-- The catalog with the type that a device description gives, and whether the type is
registered in it. -/
def registerXml (c : Catalog) (typeId xml : String) (schemaUrl : Option String) :
    Logged (Bool × Catalog) :=
  if (c.type? typeId).isSome then
    pure (true, c)
  else do
    Logged.emit (.registeringText typeId)
    c.add typeId schemaUrl (Schema.ofXml xml typeId)

/-- The catalog with the type that the device description in a file gives, and whether the
type is registered in it. -/
def registerFile (c : Catalog) (typeId path : String) (file : Option (List UInt8))
    (schemaUrl : Option String) : Logged (Bool × Catalog) :=
  if (c.type? typeId).isSome then
    pure (true, c)
  else do
    Logged.emit (.registeringFile path typeId)
    c.add typeId schemaUrl (Schema.ofFile path file typeId)

/-! ### Attaching -/

/-- The catalog in which the type with the id of `type` has been replaced by it. -/
def replace (c : Catalog) (type : ManagedType) : Catalog :=
  ⟨c.types.map fun t => if t.typeId = type.typeId then type else t⟩

/-- The catalog with an object attached to a type as an instance. -/
def attach {M : Type} [ManagedObject M] (c : Catalog) (store : Store M) (typeId : String)
    (handle : Handle) (requested : Option String) :
    Logged (Except Fault (Attachment Catalog M)) :=
  match c.type? typeId with
  | none => pure (.error (.unknownType typeId))
  | some type => do
    let attached ← type.attach store handle requested
    return attached.map fun a => ⟨a.instanceId, c.replace a.target, a.store⟩

/-- The catalog and the store after an object has been attached to a type, if that was
possible, which is told too. -/
def attachLogged {M : Type} [ManagedObject M] (c : Catalog) (store : Store M) (typeId : String)
    (handle : Handle) (requested : Option String) : Logged (Bool × Catalog × Store M) := do
  match ← c.attach store typeId handle requested with
  | .ok a => return (true, a.target, a.store)
  | .error fault =>
    Logged.emit (.attachmentFailed fault)
    return (false, c, store)

/-- The store after every instance of every type has been told that the client shuts down. -/
def close {M : Type} [ManagedObject M] (c : Catalog) (store : Store M) : Store M :=
  c.types.foldl (fun store type => type.close store) store

/-! ### Reporting -/

/-- What the server is told about the types. -/
def summaries {M : Type} [ManagedObject M] (c : Catalog) (store : Store M) : List TypeSummary :=
  c.types.map fun type => type.summary store

/-- The reports of all instances of all types. -/
def reports {M : Type} [ManagedObject M] (c : Catalog) (store : Store M) : List InstanceReport :=
  c.types.flatMap fun type => type.reports store

/-! ### Writing -/

/-- Writes a value to the node at an address. -/
def write (c : Catalog) (uri : String) (value : Json.Value) : Except Fault Unit :=
  let (typeId, path) := NodePath.splitFirst uri
  match c.type? typeId with
  | none => .error (.unknownType typeId)
  | some type => type.write path value

/-- Writes a value to the node at an address and tells whether that was possible. -/
def writeLogged (c : Catalog) (uri : String) (value : Json.Value) : Logged Bool :=
  match c.write uri value with
  | .ok () => pure true
  | .error fault => ⟨false, [.writeFailed uri fault]⟩

end Catalog

end DeviceManagement
