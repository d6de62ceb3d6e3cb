import DeviceManagement.Event
import DeviceManagement.ManagedObject.Basic
import DeviceManagement.NodePath
import DeviceManagement.Schema.Description

/-!
# Managed types

A managed type is a schema with a type id, and the objects that are attached to it as its
instances. Every instance has an id: the one asked for, or the least positive number that is
not taken. An instance is reported by reading the leaves of the schema from its object, and
the nodes of an instance are addressed by its id and a path in the schema.
-/

namespace DeviceManagement

/-- A type of managed objects with its instances. -/
structure ManagedType where
  typeId : String
  /-- The address of the device description, if it is known. -/
  schemaUrl : Option String
  schema : Schema.Node
  /-- The instance ids with their objects, in the order of attachment. -/
  instances : List (String × Handle)
  deriving Repr

/-- What a client tells the server about a type: its instances by the ids they report for
themselves. -/
structure TypeSummary where
  schemaUrl : Option String
  typeId : String
  instanceIds : List String
  deriving DecidableEq, Repr

/-- The content of an instance with the address of the instance. -/
structure InstanceReport where
  clientUri : String
  tree : Json.Value

/-- The result of attaching an object: the id of the new instance, the type or the types
afterwards, and the store, in which the object has been told. -/
structure Attachment (T M : Type) where
  instanceId : String
  target : T
  store : Store M

namespace ManagedType

/-- The type with the given schema and without instances. -/
def create (typeId : String) (schema : Schema) (schemaUrl : Option String) :
    Logged ManagedType :=
  let type := ⟨typeId, schemaUrl, schema.root, []⟩
  match schema.declaredName with
  | some declared =>
    if declared = typeId then pure type else ⟨type, [.typeNameDiffers declared typeId]⟩
  | none => pure type

/-- The name that a schema declares is told if it differs, and plays no part otherwise. -/
theorem value_create (typeId : String) (schema : Schema) (schemaUrl : Option String) :
  (create typeId schema schemaUrl).value = ⟨typeId, schemaUrl, schema.root, []⟩
  := by
  unfold create
  cases schema.declaredName with
  | none => rfl
  | some declared =>
      dsimp only
      split <;> rfl

/-- The type that a device description gives. -/
def ofXml (typeId xml : String) (schemaUrl : Option String) : Except Fault (Logged ManagedType) :=
  (Schema.ofXml xml typeId).map fun schema => create typeId schema schemaUrl

/-- The type that the device description in a file gives. -/
def ofFile (typeId path : String) (file : Option (List UInt8)) (schemaUrl : Option String) :
    Except Fault (Logged ManagedType) :=
  (Schema.ofFile path file typeId).map fun schema => create typeId schema schemaUrl

/-- The ids of the instances, in the order of attachment. -/
def instanceIds (t : ManagedType) : List String :=
  t.instances.map Prod.fst

/-- The object of the instance with the given id. -/
def instance? (t : ManagedType) (instanceId : String) : Option Handle :=
  t.instances.lookup instanceId

/-! ### Attaching -/

/-- The least positive number whose decimal form is not among the given ids. Of one more
number than there are ids, one is not taken. -/
def freshId (ids : List String) : String :=
  (((List.range (ids.length + 1)).map fun n => (n + 1).repr).find? fun id => !ids.contains id).getD
    ""

/-- The id for a new instance: the requested one, unless it is taken, or a fresh one. -/
def chooseId (t : ManagedType) : (requested : Option String) → Except Fault String
  | none => .ok (freshId t.instanceIds)
  | some id =>
    if t.instanceIds.contains id then .error (.duplicateInstance t.typeId id) else .ok id

/-- The type with an object attached as an instance. The id is settled before the object is
asked whether it serves the type. -/
def attach {M : Type} [ManagedObject M] (t : ManagedType) (store : Store M) (handle : Handle)
    (requested : Option String) : Logged (Except Fault (Attachment ManagedType M)) :=
  match t.chooseId requested with
  | .error fault => pure (.error fault)
  | .ok id =>
    if ManagedObject.serves (store handle) t.typeId then
      ⟨.ok {
          instanceId := id
          target := { t with instances := t.instances ++ [(id, handle)] }
          store := store.modify handle ManagedObject.onAttach },
        [.instanceAdded id t.typeId]⟩
    else
      pure (.error (.incompatible t.typeId))

/-- The store after every instance has been told that the client shuts down. -/
def close {M : Type} [ManagedObject M] (t : ManagedType) (store : Store M) : Store M :=
  t.instances.foldl (fun store (_, handle) => store.modify handle ManagedObject.onClose) store

/-! ### Reporting -/

/-- What the server is told about a type. -/
def summary {M : Type} [ManagedObject M] (t : ManagedType) (store : Store M) : TypeSummary :=
  { schemaUrl := t.schemaUrl
    typeId := t.typeId
    instanceIds := t.instances.map fun (_, handle) => ManagedObject.instanceId (store handle) }

mutual

/-- What is reported of a schema node below the names `above`: the data of a leaf if it can
be reported, and the members of an interior node if there are any. -/
def reportNode (read : String → Reading) (above : List String) :
    Schema.Node → Option Json.Value
  | ⟨name, true, _, _⟩ =>
    let reading := read (NodePath.ofSegments (above ++ [name]))
    if reading.isReportable then some (.string reading.data) else none
  | ⟨name, false, _, children⟩ =>
    match reportNodes read (above ++ [name]) children with
    | [] => none
    | member :: members => some (.object (Json.insertAll (member :: members)))

/-- The members that are reported of some schema nodes below the names `above`. -/
def reportNodes (read : String → Reading) (above : List String) :
    List Schema.Node → List (String × Json.Value)
  | [] => []
  | node :: nodes =>
    match reportNode read above node with
    | some value => (node.name, value) :: reportNodes read above nodes
    | none => reportNodes read above nodes

end

/-- The content of an object as far as the schema of a type can report it. -/
def report {M : Type} [ManagedObject M] (t : ManagedType) (object : M) : Json.Value :=
  .object [(t.schema.name,
    .object (Json.insertAll (reportNodes (ManagedObject.read object) [] t.schema.children)))]

/-- The address of an instance. -/
def clientUri (t : ManagedType) (instanceId : String) : String :=
  t.typeId ++ "/" ++ instanceId ++ "/"

/-- The reports of all instances, in the order of attachment. -/
def reports {M : Type} [ManagedObject M] (t : ManagedType) (store : Store M) :
    List InstanceReport :=
  t.instances.map fun (id, handle) => ⟨t.clientUri id, t.report (store handle)⟩

/-! ### Writing -/

/-- Writes a value to a node, given by an instance id and the path of the node. The instance
and then the node are looked up, and no node can be written yet. -/
def write (t : ManagedType) (path : String) (_value : Json.Value) : Except Fault Unit :=
  let (instanceId, nodePath) := NodePath.splitFirst path
  if (t.instance? instanceId).isNone then
    .error (.unknownInstance t.typeId instanceId)
  else if (t.schema.find? (NodePath.segments nodePath)).isNone then
    .error (.unknownNode t.typeId nodePath)
  else
    .error (.writeUnavailable (t.typeId ++ "/" ++ path))

/-- Writes a value to a node and tells whether that was possible. -/
def writeLogged (t : ManagedType) (path : String) (value : Json.Value) : Logged Bool :=
  match t.write path value with
  | .ok () => pure true
  | .error fault => ⟨false, [.typeWriteFailed fault]⟩

end ManagedType

end DeviceManagement
