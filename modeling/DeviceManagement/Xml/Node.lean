/-!
# XML trees

The tree of an XML document, as far as device descriptions look at it: elements with the
local part of their name, and character data. An aside is a comment or a processing
instruction; it only keeps the texts around it apart.
-/

namespace DeviceManagement.Xml

/-- A node of the tree of a document. -/
inductive Node where
  | element (name : String) (children : List Node)
  | text (content : String)
  | aside
  deriving Repr, BEq, Inhabited

namespace Node

/-- The children of an element. -/
def children : Node → List Node
  | element _ children => children
  | _ => []

/-- Whether a node is an element. -/
def isElement : Node → Bool
  | element _ _ => true
  | _ => false

/-- Whether a node is an element with the given name. -/
def isNamed (name : String) : Node → Bool
  | element n _ => n == name
  | _ => false

/-- The first child element with the given name. -/
def child? (node : Node) (name : String) : Option Node :=
  node.children.find? (isNamed name)

/-- The element reached from a node through first child elements with the given names. -/
def descend? (node : Node) (names : List String) : Option Node :=
  names.foldlM child? node

/-- The text of an element is its first child, if that is a text that is not empty. -/
def text? (node : Node) : Option String :=
  match node.children with
  | text content :: _ => if content.isEmpty then none else some content
  | _ => none

/-- The text of the first child element with the given name. -/
def childText? (node : Node) (name : String) : Option String :=
  (node.child? name).bind text?

end Node

end DeviceManagement.Xml
