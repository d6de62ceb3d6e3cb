import DeviceManagement.Xml.Node
import DeviceManagement.Xml.Reference
import DeviceManagement.Xml.Token

/-!
# Building trees

A tree is built from tokens one by one. The entities of a document are expanded on the way:
the text of an entity is content in its turn, so it may hold elements, and a closing tag in
it may close an element outside of it once the entity has opened one of its own. At most
`maxNesting` entities may be expanded inside each other, and inside one that stands in the
document itself at most `maxReferences` more.

A line break in character data is a line feed, however it is written, unless it is written
as a character reference.

The attributes of a tag are settled at its end, where the qualifiers in scope are known. The
attributes of a tag whose end is missing are left to the end of the next tag of any kind,
and the qualifiers it declares are those of the element that this tag opens, if it does.
-/

namespace DeviceManagement.Xml

/-- The entities that a document declares, each with its text, the first declaration of a
name being the valid one. -/
abbrev Entities : Type := List (List Char × List Char)

/-- The number of entities that may be expanded inside each other. -/
def maxNesting : Nat := 10

/-- The number of references inside an entity that stands in the document itself. -/
def maxReferences : Nat := 255

/-- The namespace of the qualifier `xml`. -/
def xmlNamespace : List Char := "http://www.w3.org/XML/1998/namespace".toList

/-- The namespace of the qualifier that declares namespaces. -/
def xmlnsNamespace : List Char := "http://www.w3.org/2000/xmlns/".toList

/-- The qualifier that belongs to `xmlNamespace`. -/
def xmlQualifier : List Char := "xml".toList

/-- The qualifier, or the name, that declares a namespace. -/
def xmlnsQualifier : List Char := "xmlns".toList

/-- The namespaces of the qualifiers in scope, the innermost first. -/
abbrev Scope : Type := List (List Char × List Char)

/-- An element that is open: its name, the qualifiers in scope in it, and the nodes before it
in its parent, the last one first. -/
structure Frame where
  name : QName
  scope : Scope
  before : List Node

/-- A tree under construction. -/
structure Builder where
  /-- The nodes read so far in the innermost open element, the last one first. -/
  children : List Node
  /-- The open elements, the innermost first. -/
  frames : List Frame
  /-- Whether a tag has been opened in the text that is being read. -/
  opened : Bool
  /-- Whether the next text is kept apart from a text before it. -/
  apart : Bool
  /-- The qualifiers declared since the last end of a tag. -/
  declared : Scope
  /-- The other attributes read since the last end of a tag. -/
  attributes : List QName
  /-- The references counted against `maxReferences`. -/
  references : Nat

namespace Builder

/-- The tree before the first token. -/
def empty : Builder :=
  ⟨[], [], false, false, [], [], 0⟩

/-- The qualifiers in scope. -/
def scope (b : Builder) : Scope :=
  match b.frames with
  | [] => []
  | frame :: _ => frame.scope

/-- The tree with one more node. -/
def addNode (b : Builder) (node : Node) : Builder :=
  { b with children := node :: b.children }

/-- The tree with some character data, which is joined to the text before it unless it is to
be kept apart. -/
def addText (b : Builder) (cs : List Char) : Builder :=
  match b.apart, b.children with
  | false, .text content :: children =>
    { b with children := .text (content ++ String.ofList cs) :: children }
  | _, _ => { b.addNode (.text (String.ofList cs)) with apart := false }

/-- The tree with the given characters, the last one first, if there are any. -/
def flush (b : Builder) (buffer : List Char) : Builder :=
  if buffer.isEmpty then b else b.addText buffer.reverse

end Builder

/-! ### Character data -/

/-- The characters read so far, the last one first, with one more, where a carriage return
with the line feed after it, or a carriage return alone, becomes a line feed. A carriage
return is settled by the next character, or at once if it is the last one. -/
def pushNormal (buffer : List Char) (c : Char) (isLast : Bool) : List Char :=
  let c' := if isLast ∧ c = '\r' then '\n' else c
  match buffer with
  | '\r' :: rest => if c = '\n' then '\n' :: rest else c' :: '\n' :: rest
  | _ => c' :: buffer

/-- Character data with its line breaks normalized. -/
def normalizeLines : (buffer : List Char) → List Char → List Char
  | buffer, [] => buffer.reverse
  | buffer, c :: cs => normalizeLines (pushNormal buffer c cs.isEmpty) cs

/-- The tree with the given pieces of character data, where `expand` adds the content of an
entity. Characters collect in `buffer`. In the document itself, where nothing is `nested`, a
character reference is kept as it is, and so is the plain character behind it, which `kept`
tells. -/
def addPieces (entities : Entities) (expand : List Char → Builder → Option Builder)
    (nested : Bool) : List Piece → (buffer : List Char) → (kept : Bool) → Builder → Option Builder
  | [], buffer, _, b => some (b.flush buffer)
  | .plain c :: pieces, buffer, kept, b =>
    let buffer := if kept then c :: buffer else pushNormal buffer c pieces.isEmpty
    addPieces entities expand nested pieces buffer false b
  | .char c :: pieces, buffer, kept, b =>
    if nested then
      addPieces entities expand nested pieces (pushNormal buffer c pieces.isEmpty) kept b
    else
      addPieces entities expand nested pieces (c :: buffer) true b
  | .entity name :: pieces, buffer, _, b => do
    let text ← entities.lookup name
    let b ← expand text (b.flush buffer)
    addPieces entities expand nested pieces [] false b

/-- The number of references after one more, which is counted only if it is `nested`. -/
def countReference? (nested : Bool) (references : Nat) : Option Nat :=
  if nested then
    if references < maxReferences then some (references + 1) else none
  else
    some references

/-- The number of references after the end of an entity, which starts anew in the document
itself. -/
def settleReferences (nested : Bool) (references : Nat) : Nat :=
  if nested then references else 0

/-! ### Attributes -/

/-- The value that pieces of an attribute stand for, behind the value read so far, and the
number of references. White space becomes a blank, and `expand` gives the value of the text
of an entity. -/
def valueOfPieces (entities : Entities) (expand : List Char → Nat → Option (List Char × Nat))
    (nested : Bool) : List Piece → (references : Nat) → Option (List Char × Nat)
  | [], references => some ([], references)
  | .plain c :: pieces, references => do
    let (value, references) ← valueOfPieces entities expand nested pieces references
    if c = '\r' ∧ pieces.head? = some (.plain '\n') then
      return (value, references)
    else
      return ((if isBlank c then ' ' else c) :: value, references)
  | .char c :: pieces, references => do
    let (value, references) ← valueOfPieces entities expand nested pieces references
    if nested then
      if c = '<' then none else return ((if isBlank c then ' ' else c) :: value, references)
    else
      return (c :: value, references)
  | .entity name :: pieces, references => do
    let text ← entities.lookup name
    let references ← countReference? nested references
    let (inner, references) ← expand text references
    let (value, references) ←
      valueOfPieces entities expand nested pieces (settleReferences nested references)
    return (inner ++ value, references)

/-- The value of the text of an entity in an attribute, in which `nesting` more entities may
be expanded inside each other. -/
def entityValue? (entities : Entities) : (nesting : Nat) → List Char → Nat →
    Option (List Char × Nat)
  | 0, _, _ => none
  | nesting + 1, text, references => do
    let pieces ← pieces? text
    valueOfPieces entities (entityValue? entities nesting) true pieces references

/-- The attributes of a tag with their values. -/
def attributeValues? (entities : Entities) (nesting : Nat) (nested : Bool) :
    List Attribute → (references : Nat) → Option (List (QName × List Char) × Nat)
  | [], references => some ([], references)
  | first :: others, references => do
    let pieces ← pieces? first.text
    let (value, references) ←
      valueOfPieces entities (entityValue? entities nesting) nested pieces references
    let (values, references) ← attributeValues? entities nesting nested others references
    return ((first.name, value) :: values, references)

/-- Whether an attribute declares the namespace of a qualifier. -/
def declaresQualifier (name : QName) : Bool :=
  name.qualifier == xmlnsQualifier

/-- Whether an attribute declares the namespace of unqualified elements. -/
def declaresDefault (name : QName) : Bool :=
  name.qualifier != xmlnsQualifier && name.localName == xmlnsQualifier

/-- Whether a declaration is allowed: the two namespaces of XML itself belong to no other
qualifier, and `xml` to no other namespace. -/
def isValidDeclaration (name : QName) (value : List Char) : Bool :=
  value != xmlnsNamespace &&
    (if declaresQualifier name && name.localName == xmlQualifier then value == xmlNamespace
      else value != xmlNamespace)

/-- Whether an attribute declares a namespace. -/
def isDeclaration (name : QName) : Bool :=
  declaresQualifier name || declaresDefault name

/-- The qualifiers that the attributes of a tag declare, each with its namespace. The
declaration of `xml` changes nothing and is left out. -/
def declaredScope (attributes : List (QName × List Char)) : Scope :=
  (attributes.filter fun (name, value) => declaresQualifier name && value != xmlNamespace).map
    fun (name, value) => (name.localName, value)

/-- The name of an attribute with its namespace, if it has one. -/
def expandedName? (scope : Scope) (name : QName) : Option (Option (List Char) × List Char) :=
  if name.qualifier = [] then
    some (none, name.localName)
  else if name.qualifier = xmlQualifier then
    some (some xmlNamespace, name.localName)
  else
    (scope.lookup name.qualifier).map fun ns => (some ns, name.localName)

namespace Builder

/-- The tree with the attributes of a tag whose end is still to come, unless a declaration is
not allowed or its qualifier has been declared since the last end of a tag. -/
def addAttributes? (b : Builder) (attributes : List (QName × List Char)) : Option Builder :=
  let declared := declaredScope attributes ++ b.declared
  let others := (attributes.map Prod.fst).filter fun name => !isDeclaration name
  if (attributes.all fun (name, value) => !isDeclaration name || isValidDeclaration name value)
      && decide (declared.map Prod.fst).Nodup then
    some { b with declared := declared, attributes := b.attributes ++ others }
  else
    none

/-- The scope at the end of a tag, and the tree in which no attribute is left to be settled,
unless the qualifier of one is not declared or two have the same name in the same
namespace. -/
def settle? (b : Builder) : Option (Scope × Builder) := do
  let scope := b.declared ++ b.scope
  let names ← b.attributes.mapM (expandedName? scope)
  if names.Nodup then
    return (scope, { b with declared := [], attributes := [] })
  else
    none

end Builder

/-! ### Tokens -/

/-- The tree with the element that a tag opens once it has ended, where `scope` is that of
the element. The qualifier of its name must be declared. -/
def addElement? (name : QName) (isEmpty : Bool) (scope : Scope) (b : Builder) :
    Option Builder :=
  if name.qualifier ≠ [] ∧ scope.lookup name.qualifier = none then
    none
  else if isEmpty then
    some (b.addNode (.element (String.ofList name.localName) []))
  else
    some { b with children := [], frames := ⟨name, scope, b.children⟩ :: b.frames }

/-- The tree with an opening tag. -/
def openElement? (entities : Entities) (nesting : Nat) (nested : Bool) (name : QName)
    (attributes : List Attribute) (tagEnd : TagEnd) (b : Builder) : Option Builder := do
  let (values, references) ← attributeValues? entities nesting nested attributes b.references
  let b := { b with opened := true, apart := true, references := references }
  let b ← b.addAttributes? values
  if name.qualifier = xmlnsQualifier then
    none
  else if tagEnd = .missing then
    return b
  else do
    let (scope, b) ← b.settle?
    addElement? name (tagEnd = .empty) scope b

/-- The tree in which a tag has closed the innermost open element. -/
def closeElement? (name : QName) (b : Builder) : Option Builder := do
  let (_, b) ← b.settle?
  match b.frames with
  | [] => none
  | frame :: frames =>
    if b.opened ∧ frame.name = name then
      let element := .element (String.ofList name.localName) b.children.reverse
      some { b with children := element :: frame.before, frames := frames }
    else
      none

/-- The tree with one more token, where `nesting` entities may be expanded inside each other,
and `expand` adds the content of an entity. -/
def addToken? (entities : Entities) (expand : List Char → Builder → Option Builder)
    (nesting : Nat) (nested : Bool) (b : Builder) : Token → Option Builder
  | .aside => some (b.addNode .aside)
  | .cdata cs => some (b.addText (normalizeLines [] cs))
  | .text cs => do
    let pieces ← pieces? cs
    let expandCounted text b := do
      let references ← countReference? nested b.references
      let b ← expand text { b with references := references }
      return { b with references := settleReferences nested b.references }
    addPieces entities expandCounted nested pieces [] false b
  | .openTag name attributes tagEnd =>
    openElement? entities nesting nested name attributes tagEnd b
  | .closeTag name => closeElement? name b

/-- The tree with the content of an entity, in which `nesting` entities may be expanded
inside each other, this one included. -/
def addEntity? (entities : Entities) : (nesting : Nat) → List Char → Builder → Option Builder
  | 0, _, _ => none
  | nesting + 1, text, b => do
    let (tokens, _) ← scanContent text
    let inner ← tokens.foldlM (addToken? entities (addEntity? entities nesting) nesting true)
      { b with opened := false }
    return { inner with opened := b.opened }

/-- The nodes that the tokens of a document make. -/
def nodesOf? (entities : Entities) (tokens : List Token) : Option (List Node) := do
  let b ← tokens.foldlM
    (addToken? entities (addEntity? entities maxNesting) maxNesting false) .empty
  if b.frames.isEmpty then some b.children.reverse else none

end DeviceManagement.Xml
