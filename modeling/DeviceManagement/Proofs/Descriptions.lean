import DeviceManagement.Proofs.Trees
import DeviceManagement.Schema.Description

/-!
# What descriptions describe

The tree that a device description gives for a type depends on the type only in the name of its
root. All other nodes are named by their elements, and never by the empty name. `TakesIn` says which
elements these are, as what stands inside the element of a leaf describes no node, and
`Unambiguous` that the elements of siblings give distinct names. Siblings of the tree have distinct
names if and only if this is so.
-/

namespace DeviceManagement

/-- The text of an element is not empty. -/
theorem Xml.Node.ne_empty_of_childText? {node : Xml.Node} {name text : String}
    (h : node.childText? name = some text) :
  text ≠ ""
  := by
  obtain ⟨child, -, hchild⟩ := Option.bind_eq_some_iff.mp h
  unfold text? at hchild
  split at hchild
  · next content _ _ =>
      split at hchild
      · cases hchild
      · next hempty =>
          cases hchild
          rintro rfl
          apply hempty rfl
  · cases hchild

namespace Schema

theorem describedName_ne_empty (element : Xml.Node) :
  describedName element ≠ ""
  := by
  unfold describedName
  cases hname : element.childText? "NodeName" with
  | some name => apply Xml.Node.ne_empty_of_childText? hname
  | none =>
      rw [Option.getD_none, wildcard]
      decide

/-! ### Elements and the nodes they describe -/

/-- The elements that describe the children of the node which an element describes. -/
def nodeElements (element : Xml.Node) : List Xml.Node :=
  element.children.filter (Xml.Node.isNamed "Node")

theorem describedNodes_eq_map (children : List Xml.Node) :
  describedNodes children = (children.filter (Xml.Node.isNamed "Node")).map describedNode
  := by
  induction children with
  | nil => rfl
  | cons child children ih =>
      rw [describedNodes]
      split
      · next h => rw [List.filter_cons_of_pos h, List.map_cons, ih]
      · next h => rw [List.filter_cons_of_neg h, ih]

theorem describedNode_of_leaf {element : Xml.Node} (h : describesLeaf element = true) :
  describedNode element = .leaf (describedName element) (describedValue element)
  := by
  cases element with
  | element tag children => rw [describedNode, if_pos h]
  | text content => rfl
  | aside => rfl

theorem describedNode_of_interior {element : Xml.Node} (h : describesLeaf element = false) :
  describedNode element
    = ⟨describedName element, false, "", (nodeElements element).map describedNode⟩
  := by
  cases element with
  | element tag children =>
      rw [describedNode, if_neg (Bool.eq_false_iff.mp h), describedNodes_eq_map]
      rfl
  | text content => cases h
  | aside => cases h

@[simp]
theorem name_describedNode (element : Xml.Node) :
  (describedNode element).name = describedName element
  := by
  cases h : describesLeaf element with
  | true => rw [describedNode_of_leaf h, Node.leaf]
  | false => rw [describedNode_of_interior h]

@[simp]
theorem isLeaf_describedNode (element : Xml.Node) :
  (describedNode element).isLeaf = describesLeaf element
  := by
  cases h : describesLeaf element with
  | true => rw [describedNode_of_leaf h, Node.leaf]
  | false => rw [describedNode_of_interior h]

/-- The reading of an element as a tree takes in the element, and unless the element describes a
leaf also what the reading of its children takes in. -/
inductive TakesIn : Xml.Node → Xml.Node → Prop
  | self (element : Xml.Node) : TakesIn element element
  | through {element child inner : Xml.Node} (hinterior : describesLeaf element = false)
      (hchild : child ∈ nodeElements element) (h : TakesIn child inner) : TakesIn element inner

/-- The nodes of the tree that an element describes are those that the elements describe which the
reading takes in. -/
theorem mem_nodes_describedNode_iff {element : Xml.Node} {node : Node} :
  node ∈ (describedNode element).nodes ↔ ∃ inner, TakesIn element inner ∧ describedNode inner = node
  := by
  constructor
  · intro hnode
    induction htree : describedNode element using Node.induction generalizing element with
    | step tree ih =>
        rw [htree, Node.nodes_eq] at hnode
        obtain rfl | hnode := List.mem_cons.mp hnode
        · exact ⟨element, .self element, htree⟩
        obtain ⟨child, hchild, hnode⟩ := List.mem_flatMap.mp hnode
        cases hleaf : describesLeaf element with
        | true =>
            rw [describedNode_of_leaf hleaf] at htree
            subst htree
            cases hchild
        | false =>
            rw [describedNode_of_interior hleaf] at htree
            subst htree
            obtain ⟨childElement, hmem, rfl⟩ := List.mem_map.mp hchild
            obtain ⟨inner, hinner, rfl⟩ := ih _ hchild hnode rfl
            exact ⟨inner, .through hleaf hmem hinner, rfl⟩
  · rintro ⟨inner, hinner, rfl⟩
    induction hinner with
    | self element => apply Node.self_mem_nodes _
    | through hleaf hmem _ ih =>
        rw [describedNode_of_interior hleaf]
        apply Node.nodes_subset_nodes (List.mem_map_of_mem hmem) ih

/-! ### Names of siblings -/

/-- The children of the node which an element describes have distinct names. -/
def DistinctNames (element : Xml.Node) : Prop :=
  ((nodeElements element).map describedName).Nodup

/-- The elements of siblings give distinct names: those in the element of the root, and those in
each element that the reading takes in and that describes an interior node. -/
structure Unambiguous (element : Xml.Node) : Prop where
  root : DistinctNames element
  interior : ∀ child ∈ nodeElements element, ∀ inner, TakesIn child inner →
    describesLeaf inner = false → DistinctNames inner

theorem children_ofElement (element : Xml.Node) (typeId : String) :
  (ofElement element typeId).root.children = (nodeElements element).map describedNode
  := describedNodes_eq_map element.children

theorem mem_descendants_ofElement_iff {element : Xml.Node} {typeId : String} {node : Node} :
  node ∈ (ofElement element typeId).root.descendants
    ↔ ∃ child ∈ nodeElements element, ∃ inner, TakesIn child inner ∧ describedNode inner = node
  := by
  rw [Node.descendants, children_ofElement, List.flatMap_map, List.mem_flatMap]
  simp only [mem_nodes_describedNode_iff]

theorem nodup_children_describedNode_iff (element : Xml.Node) :
  ((describedNode element).children.map Node.name).Nodup
    ↔ (describesLeaf element = false → DistinctNames element)
  := by
  cases h : describesLeaf element with
  | true => simp [describedNode_of_leaf h, Node.leaf]
  | false => simp [describedNode_of_interior h, DistinctNames, Function.comp_def]

/-- Siblings of the tree have distinct names if and only if their elements give such. -/
theorem distinctSiblings_ofElement_iff (element : Xml.Node) (typeId : String) :
  (ofElement element typeId).root.DistinctSiblings ↔ Unambiguous element
  := by
  have hroot : ((ofElement element typeId).root.children.map Node.name).Nodup
      ↔ DistinctNames element := by
    simp [children_ofElement, DistinctNames, Function.comp_def]
  have hinterior :
      (∀ node ∈ (ofElement element typeId).root.descendants, (node.children.map Node.name).Nodup)
        ↔ ∀ child ∈ nodeElements element, ∀ inner, TakesIn child inner →
            describesLeaf inner = false → DistinctNames inner := by
    simp only [mem_descendants_ofElement_iff, ← nodup_children_describedNode_iff]
    grind
  rw [Node.DistinctSiblings, Node.nodes_eq, List.forall_mem_cons, hroot, hinterior]
  constructor
  · rintro ⟨hroot, hinterior⟩
    exact ⟨hroot, hinterior⟩
  · rintro ⟨hroot, hinterior⟩
    exact ⟨hroot, hinterior⟩

/-! ### Texts -/

variable {xml typeId : String} {schema : Schema}

/-- A text describes a schema if it is a document whose root element has an element for the root
of the tree, and the schema is the one that this element describes. -/
theorem ofXml_eq_ok_iff :
  ofXml xml typeId = .ok schema ↔
    ∃ document element, Xml.rootOf? xml = some document ∧ rootElement document = .ok element ∧
      ofElement element typeId = schema
  := by
  unfold ofXml describe
  cases hdocument : Xml.rootOf? xml with
  | none => simp [Except.mapError]
  | some document =>
      cases helement : rootElement document <;> simp [helement, Except.mapError, Except.map]

/-- A text that describes a schema for one type does so for all, with the same root element. -/
theorem exists_element_of_ofXml (h : ofXml xml typeId = .ok schema) :
  ∃ element, schema = ofElement element typeId ∧
    ∀ other, ofXml xml other = .ok (ofElement element other)
  := by
  obtain ⟨document, element, hdocument, helement, rfl⟩ := ofXml_eq_ok_iff.mp h
  use element, rfl
  intro other
  apply ofXml_eq_ok_iff.mpr ⟨document, element, hdocument, helement, rfl⟩

/-- No node below the root of a schema has the empty name, if a description gives the schema. -/
theorem name_ne_empty_of_mem_descendants (h : ofXml xml typeId = .ok schema) :
  ∀ node ∈ schema.root.descendants, node.name ≠ ""
  := by
  obtain ⟨element, rfl, -⟩ := exists_element_of_ofXml h
  intro node hnode
  obtain ⟨-, -, inner, -, rfl⟩ := mem_descendants_ofElement_iff.mp hnode
  rw [name_describedNode]
  apply describedName_ne_empty inner

end Schema

end DeviceManagement
