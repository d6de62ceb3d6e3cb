import DeviceManagement.Json.Value

/-!
# Schemas

A schema is the tree of nodes that the managed objects of one type have. A node is a leaf,
which holds a value, or an interior node. Lookups follow the names of children, of which the
first with a name counts. The content of a node as a JSON value is the value of a leaf, and
the object of the contents of its children for an interior node.
-/

namespace DeviceManagement

namespace Schema

/-- A node of a schema, or of the tree of an object that follows one. -/
structure Node where
  name : String
  isLeaf : Bool
  /-- The value a leaf starts with; interior nodes of a schema have the empty one. -/
  value : String
  children : List Node
  deriving Repr, BEq, Inhabited

namespace Node

/-- The interior node without children. -/
def interior (name : String) : Node :=
  ⟨name, false, "", []⟩

/-- The leaf with the given value. -/
def leaf (name value : String) : Node :=
  ⟨name, true, value, []⟩

/-- The first child with the given name. -/
def child? (node : Node) (name : String) : Option Node :=
  node.children.find? fun child => child.name == name

/-- The node reached from a node along the given names. -/
def find? (node : Node) (names : List String) : Option Node :=
  names.foldlM child? node

mutual

/-- The content of a node. -/
def content : Node → Json.Value
  | ⟨_, true, value, _⟩ => .string value
  | ⟨_, false, _, children⟩ => .object (Json.insertAll (memberContents children))

/-- The names of some nodes with their contents. -/
def memberContents : List Node → List (String × Json.Value)
  | [] => []
  | node :: nodes => (node.name, node.content) :: memberContents nodes

end

/-- The object of the contents of the children of a node, be it a leaf or not. -/
def childrenContent (node : Node) : Json.Value :=
  .object (Json.insertAll (memberContents node.children))

/-- The object whose only member is named like a node and holds the contents of its
children. -/
def toJson (node : Node) : Json.Value :=
  .object [(node.name, node.childrenContent)]

mutual

/-- The nodes of a tree from the root down, each before its children, with their distance
from a root at `depth`. -/
def preorder (depth : Nat) : Node → List (Nat × Node)
  | ⟨name, isLeaf, value, children⟩ =>
    (depth, ⟨name, isLeaf, value, children⟩) :: preorderAll (depth + 1) children

/-- The nodes of some trees, tree by tree. -/
def preorderAll (depth : Nat) : List Node → List (Nat × Node)
  | [] => []
  | node :: nodes => node.preorder depth ++ preorderAll depth nodes

end

end Node

end Schema

/-- The schema of a type of managed objects. -/
structure Schema where
  root : Schema.Node
  /-- The name the description of the type declares for it. -/
  declaredName : Option String
  deriving Repr, BEq, Inhabited

namespace Schema

/-- The schema with the given tree, which declares no name. -/
def ofRoot (root : Node) : Schema :=
  ⟨root, none⟩

end Schema

end DeviceManagement
