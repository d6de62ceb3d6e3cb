import DeviceManagement.Fault
import DeviceManagement.Schema.Basic
import DeviceManagement.Text.Cut
import DeviceManagement.Text.File
import DeviceManagement.Xml.Document

/-!
# Device descriptions

A device description is an XML document with the root `MgmtTree`, whose first `Node` child
describes the tree of a type of managed objects. `Schema.ofXml` reads it as a schema. The
elements `Node` inside each other are the nodes of the tree, in document order, and each
gives its name in `NodeName`. A node is an interior node if its `DFFormat` says so by a child
`node`; without a `DFFormat` it is one if it has `Node` children. What stands below a leaf is
dropped. The root is a leaf only if it has no children.
-/

namespace DeviceManagement.Schema

/-- The name of a node whose description gives none. -/
def wildcard : String := "*"

/-- Why a text describes no schema. -/
inductive DescriptionFault where
  | malformed
  | wrongRoot (name : String)
  | noNode
  deriving DecidableEq, Repr

/-- The wording of a fault. -/
def DescriptionFault.message : DescriptionFault → String
  | malformed => "Failed parsing DDF document: not well-formed"
  | wrongRoot name => "expected <MgmtTree> root element, found <" ++ name ++ ">"
  | noNode => "missing <MgmtTree><Node>"

/-- Whether the node that an element describes is a leaf. -/
def describesLeaf (element : Xml.Node) : Bool :=
  match element.descend? ["DFProperties", "DFFormat"] with
  | some format => (format.child? "node").isNone
  | none => (element.child? "Node").isNone

/-- The name of the node that an element describes. -/
def describedName (element : Xml.Node) : String :=
  (element.childText? "NodeName").getD wildcard

/-- The value of the leaf that an element describes. -/
def describedValue (element : Xml.Node) : String :=
  (element.childText? "Value").getD ""

mutual

/-- The node that an element describes. -/
def describedNode : Xml.Node → Node
  | .element tag children =>
    let element := .element tag children
    if describesLeaf element then
      .leaf (describedName element) (describedValue element)
    else
      ⟨describedName element, false, "", describedNodes children⟩
  | _ => .leaf wildcard ""

/-- The nodes that the `Node` elements among some children describe. -/
def describedNodes : List Xml.Node → List Node
  | [] => []
  | child :: children =>
    if child.isNamed "Node" then
      describedNode child :: describedNodes children
    else
      describedNodes children

end

/-- The beginning of the type ids that name their root. -/
def urnStart : List Char := "urn:oma:mo:".toList

/-- The beginning of a name in a type id that is not part of the name of the root. -/
def vendorStart : List Char := "oma-".toList

/-- The name of a root that gives none, according to the id of its type:
`urn:oma:mo:oma-dm-devinfo:1.2` names it `dm-devinfo`. -/
def rootName (typeId : String) : String :=
  match Text.afterStart? urnStart typeId.toList with
  | none => wildcard
  | some rest =>
    let name := ((Text.afterStart? vendorStart rest).getD rest).takeWhile (· != ':')
    if name.isEmpty then wildcard else String.ofList name

/-- The name of the type that the element of a root declares. -/
def typeName? (element : Xml.Node) : Option String :=
  match element.descend? ["DFProperties", "DFType", "DDFName"] with
  | some declaration => declaration.text?
  | none => (element.descend? ["RTProperties", "Type", "DDFName"]).bind Xml.Node.text?

/-- The schema that the element of a root describes for a type. -/
def ofElement (element : Xml.Node) (typeId : String) : Schema :=
  let children := describedNodes element.children
  { root := {
      name := (element.childText? "NodeName").getD (rootName typeId)
      isLeaf := children.isEmpty
      value := ""
      children := children }
    declaredName := typeName? element }

/-- The element of the root in a document that describes a schema. -/
def rootElement (document : Xml.Node) : Except DescriptionFault Xml.Node :=
  match document with
  | .element name _ =>
    if name = "MgmtTree" then
      match document.child? "Node" with
      | some element => .ok element
      | none => .error .noNode
    else
      .error (.wrongRoot name)
  | _ => .error .malformed

/-- The schema that a device description gives for a type. -/
def describe (xml typeId : String) : Except DescriptionFault Schema :=
  match Xml.rootOf? xml with
  | some document => (rootElement document).map fun element => ofElement element typeId
  | none => .error .malformed

/-- The schema that a device description gives for a type. -/
def ofXml (xml typeId : String) : Except Fault Schema :=
  (describe xml typeId).mapError fun fault => .schema fault.message

/-- The schema that the device description in a file gives for a type. -/
def ofFile (path : String) (file : Option (List UInt8)) (typeId : String) :
    Except Fault Schema :=
  match Text.readFile file with
  | .ok xml => ofXml xml typeId
  | .error fault => .error (.schemaFile (path ++ ": " ++ fault.message))

end DeviceManagement.Schema
