import DeviceManagement.Event
import DeviceManagement.ManagedObject.Basic
import DeviceManagement.NodePath
import DeviceManagement.Schema.Description

/-!
# Objects in memory

A managed object that keeps its whole tree in memory. The tree starts with the nodes of a
schema, or empty, and every write with `addMissing` creates the nodes that are missing on its
way. A created node is a leaf until it gets a child. The tree has no check against a schema.
-/

namespace DeviceManagement

namespace Schema.Node

/-- The tree in which the node at the given names has the value `data`. A name stands for the
first child with it; where there is none, one is created if `addMissing` allows it. -/
def write? (data : String) (addMissing : Bool) : (names : List String) → Node → Option Node
  | [], node => some { node with value := data }
  | name :: names, node =>
    let before := node.children.takeWhile fun child => child.name != name
    match node.children.dropWhile fun child => child.name != name with
    | child :: after => do
      let child ← write? data addMissing names child
      return { node with children := before ++ child :: after }
    | [] =>
      if addMissing then do
        let child ← write? data addMissing names (.leaf name "")
        return { node with isLeaf := false, children := node.children ++ [child] }
      else
        none

end Schema.Node

/-- A managed object that keeps its tree in memory. -/
structure MemoryObject where
  /-- The tree, whose root is named like the object. -/
  root : Schema.Node
  /-- The instance id that the object reports for itself. -/
  instanceId : String
  initialized : Bool
  closed : Bool
  deriving Repr, Inhabited

namespace MemoryObject

/-- The instance id an object reports unless it is given another. -/
def defaultInstanceId : String := "miid1"

/-- The object with the given tree, neither initialized nor closed. -/
def ofRoot (root : Schema.Node) : MemoryObject :=
  ⟨root, defaultInstanceId, false, false⟩

/-- The object with an empty tree. -/
def empty (name : String) : MemoryObject :=
  ofRoot (.interior name)

/-- The object that starts with the nodes of a schema. -/
def ofSchema (name : String) (schema : Schema) : MemoryObject :=
  ofRoot { schema.root with name := name, isLeaf := false }

/-- The object that starts with the nodes of a device description. -/
def ofXml (name xml : String) : Except Fault MemoryObject :=
  (Schema.ofXml xml "").map (ofSchema name)

/-- The object that starts with the nodes of the device description in a file. -/
def ofFile (name path : String) (file : Option (List UInt8)) : Except Fault MemoryObject :=
  (Schema.ofFile path file "").map (ofSchema name)

/-- The object that reports the given instance id for itself. -/
def withInstanceId (o : MemoryObject) (instanceId : String) : MemoryObject :=
  { o with instanceId := instanceId }

/-- The value of the node at a path, if there is one. -/
def get? (o : MemoryObject) (path : String) : Option String :=
  (o.root.find? (NodePath.segments path)).map Schema.Node.value

/-- The object in which the node at a path has the value `data`. If a node on the way is
missing, it is created if `addMissing` allows it; otherwise the object stays as it is. -/
def set (o : MemoryObject) (path data : String) (addMissing : Bool) : Logged MemoryObject :=
  match o.root.write? data addMissing (NodePath.segments path) with
  | some root => pure { o with root := root }
  | none => ⟨o, [.missingNode path]⟩

/-- The reading of the node at a path. -/
def read (o : MemoryObject) (path : String) : Reading :=
  match o.get? path with
  | some data => .present data
  | none => .missing

instance : ManagedObject MemoryObject where
  read := read
  write o path data := (true, (o.set path data true).value)
  remove o _ := (false, o)
  execute o _ := (false, o)
  serves _ _ := true
  onAttach o := { o with initialized := true }
  onClose o := { o with closed := true }
  content o := o.root.toJson
  instanceId := MemoryObject.instanceId

end MemoryObject

end DeviceManagement
