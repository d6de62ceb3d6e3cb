import DeviceManagement.ManagedType.Basic
import DeviceManagement.Proofs.Contents
import DeviceManagement.Proofs.Descriptions

/-!
# Two forms of the content of an object

An object in memory gives its whole content, node by node. A type reports an object by walking
its own schema and reading every leaf by a path. When both come from one description, and the
application only stores values at nodes that exist, the report is the content without its empty
objects (`Json.prune`). What makes the two walks meet is the `outline` of a tree, which is the
tree without its values: a report depends on the schema through it alone, and storing a value at
a node that exists does not change it.
-/

namespace DeviceManagement

/-! ### Pruning -/

namespace Json

/-- A value, unless it is the empty object. -/
def unlessEmpty : Value → Option Value
  | .object [] => none
  | value => some value

mutual

/-- A value without the empty objects below it, which go from the inside out. -/
def prune : Value → Value
  | .object members => .object (pruneMembers members)
  | value => value

/-- Members that are pruned, without those that are empty objects then. -/
def pruneMembers : List (String × Value) → List (String × Value)
  | [] => []
  | (name, value) :: members =>
    match unlessEmpty (prune value) with
    | some pruned => (name, pruned) :: pruneMembers members
    | none => pruneMembers members

end

/-- Pruning keeps the order of members. -/
theorem map_fst_pruneMembers_sublist (members : List (String × Value)) :
  ((pruneMembers members).map Prod.fst).Sublist (members.map Prod.fst)
  := by
  induction members with
  | nil => exact .slnil
  | cons member members ih =>
      obtain ⟨name, value⟩ := member
      rw [pruneMembers, List.map_cons]
      split
      · exact ih.cons_cons name
      · exact ih.cons name

/-- Members with different names make an object that is pruned member by member. -/
theorem insertAll_pruneMembers
    {members : List (String × Value)} (h : (members.map Prod.fst).Nodup) :
  insertAll (pruneMembers members) = pruneMembers members
  := insertAll_of_nodup (h.sublist (map_fst_pruneMembers_sublist members))

end Json

/-! ### Outlines -/

namespace Schema.Node

mutual

/-- A tree without its values. -/
def outline : Node → Node
  | ⟨name, isLeaf, _, children⟩ => ⟨name, isLeaf, "", outlineAll children⟩

/-- Trees without their values. -/
def outlineAll : List Node → List Node
  | [] => []
  | node :: nodes => node.outline :: outlineAll nodes

end

theorem outlineAll_eq_map (nodes : List Node) :
  outlineAll nodes = nodes.map outline
  := by
  induction nodes with
  | nil => rfl
  | cons node nodes ih => rw [outlineAll, ih, List.map_cons]

@[simp]
theorem name_outline (node : Node) :
  node.outline.name = node.name
  := by
  cases node
  rfl

@[simp]
theorem children_outline (node : Node) :
  node.outline.children = node.children.map outline
  := by
  cases node
  apply outlineAll_eq_map

theorem nodes_outline (node : Node) :
  node.outline.nodes = node.nodes.map outline
  := by
  induction node using Node.induction with
  | step node ih =>
      rw [nodes_eq, nodes_eq, List.map_cons, descendants, descendants, children_outline,
        List.flatMap_map, List.map_flatMap]
      congr 1
      exact List.flatMap_congr ih

theorem descendants_outline (node : Node) :
  node.outline.descendants = node.descendants.map outline
  := by
  have hnodes := node.nodes_outline
  rw [nodes_eq, nodes_eq, List.map_cons] at hnodes
  exact (List.cons.inj hnodes).2

/-- Values play no part in whether a tree is addressable. -/
theorem addressable_outline_iff (node : Node) :
  node.outline.Addressable ↔ node.Addressable
  := by
  have hnames : ∀ inner : Node,
      inner.outline.children.map Node.name = inner.children.map Node.name := by
    intro inner
    simp
  have hdistinct : node.outline.DistinctSiblings ↔ node.DistinctSiblings := by
    unfold DistinctSiblings
    simp only [nodes_outline, List.forall_mem_map, hnames]
  have hnamed : (∀ inner ∈ node.outline.descendants, NodePath.IsName inner.name)
      ↔ ∀ inner ∈ node.descendants, NodePath.IsName inner.name := by
    simp only [descendants_outline, List.forall_mem_map, name_outline]
  constructor
  · intro h
    exact ⟨hdistinct.mp h.distinct, hnamed.mp h.named⟩
  · intro h
    exact ⟨hdistinct.mpr h.distinct, hnamed.mpr h.named⟩

/-- A write that creates no nodes keeps the outline of a tree. -/
theorem Written.outline_eq
    {data : String} {names : List String} {node node' : Node}
    (h : Written data false names node node') :
  node'.outline = node.outline
  := by
  induction h with
  | value node =>
      cases node
      rfl
  | @child _ _ node _ _ _ _ hsplit _ _ _ ih =>
      cases node
      cases hsplit
      simp [outline, outlineAll_eq_map, ih]
  | newChild hadd => cases hadd

end Schema.Node

/-- Setting a value at a node that has to exist keeps the outline of the tree of an object. -/
theorem MemoryObject.outline_set (o : MemoryObject) (path data : String) :
  (o.set path data false).value.root.outline = o.root.outline
  := by
  rw [set]
  cases hroot : o.root.write? data false (NodePath.segments path) with
  | some root => apply (Schema.Node.written_of_write? hroot).outline_eq
  | none => rfl

/-! ### Reports -/

namespace ManagedType

open Schema (Node)

section

variable {read : String → Reading} {above : List String} {nodes : List Node}

theorem reportNodes_outlineAll_of_forall
    (h : ∀ node ∈ nodes, reportNode read above node.outline = reportNode read above node) :
  reportNodes read above (Node.outlineAll nodes) = reportNodes read above nodes
  := by
  induction nodes with
  | nil => rfl
  | cons node nodes ih =>
      rw [List.forall_mem_cons] at h
      rw [Node.outlineAll, reportNodes, reportNodes, h.1, ih h.2, Node.name_outline]

/-- A report depends on a schema through its outline alone. -/
theorem reportNode_outline (read : String → Reading) (above : List String) (node : Node) :
  reportNode read above node.outline = reportNode read above node
  := by
  induction node using Node.induction generalizing above with
  | step node ih =>
      obtain ⟨name, isLeaf, value, children⟩ := node
      cases isLeaf with
      | true => rfl
      | false =>
          rw [Node.outline, reportNode, reportNode,
            reportNodes_outlineAll_of_forall fun child hchild => ih child hchild _]

theorem reportNodes_eq_of_outlineAll_eq
    {nodes' : List Node} (h : Node.outlineAll nodes' = Node.outlineAll nodes) :
  reportNodes read above nodes' = reportNodes read above nodes
  := by
  rw [← reportNodes_outlineAll_of_forall fun node _ => reportNode_outline read above node, h,
    reportNodes_outlineAll_of_forall fun node _ => reportNode_outline read above node]

/-- Nodes that are reported as what is left of their contents are so together. -/
theorem reportNodes_eq_pruneMembers_of_forall
    (h : ∀ node ∈ nodes, reportNode read above node = Json.unlessEmpty (Json.prune node.content)) :
  reportNodes read above nodes = Json.pruneMembers (Node.memberContents nodes)
  := by
  induction nodes with
  | nil => rfl
  | cons node nodes ih =>
      obtain ⟨hnode, hnodes⟩ := List.forall_mem_cons.mp h
      cases hpruned : Json.unlessEmpty (Json.prune node.content) <;>
        simp only [reportNodes, Node.memberContents, Json.pruneMembers, hnode.trans hpruned,
          hpruned, ih hnodes]

end

/-- An object whose tree is addressable, reported along its own tree, reports below every node
what is left of the contents below it. -/
theorem reportNodes_read_eq_pruneMembers
    {o : MemoryObject} (ho : o.root.Addressable) {above : List String} {node : Node}
    (hnode : o.root.find? above = some node) :
  reportNodes (ManagedObject.read o) above node.children
    = Json.pruneMembers (Node.memberContents node.children)
  := by
  induction node using Node.induction generalizing above with
  | step node ih =>
      apply reportNodes_eq_pruneMembers_of_forall
      intro child hchild
      have hnode' := (ho.of_find?_eq_some hnode).1
      have hfind : o.root.find? (above ++ [child.name]) = some child := by
        rw [Node.find?_append, hnode, Option.bind_some, Node.find?_cons,
          Node.child?_of_mem hnode'.nodup hchild]
        rfl
      have hread : ManagedObject.read o (NodePath.ofSegments (above ++ [child.name]))
          = .present child.value := by
        rw [MemoryObject.read_eq_contents, ho.segments_ofSegments hfind, MemoryObject.contents,
          Node.valueAt?, hfind]
        rfl
      have hrest := ih child hchild hfind
      have hnodup := (hnode'.of_mem hchild).nodup
      rw [← Node.map_fst_memberContents] at hnodup
      obtain ⟨name, isLeaf, value, children⟩ := child
      cases isLeaf with
      | true =>
          rw [reportNode, hread]
          rfl
      | false =>
          rw [reportNode, hrest, Node.content, Json.insertAll_of_nodup hnodup, Json.prune]
          have hpruned := Json.insertAll_pruneMembers hnodup
          cases hmembers : Json.pruneMembers (Node.memberContents children) with
          | nil => rfl
          | cons member members =>
              rw [hmembers] at hpruned
              dsimp only
              rw [hpruned]
              rfl

/-- A type reports an object that goes by the outline of its schema as what is left of the content
of the object. -/
theorem report_eq_prune_content
    {t : ManagedType} {o : MemoryObject} (ho : o.root.Addressable)
    (h : Node.outlineAll o.root.children = Node.outlineAll t.schema.children) :
  ∃ members, ManagedObject.content o = .object [(o.root.name, .object members)] ∧
    t.report o = .object [(t.schema.name, .object (Json.pruneMembers members))]
  := by
  have hnodup := ho.nodup
  rw [← Node.map_fst_memberContents] at hnodup
  refine ⟨Node.memberContents o.root.children, ?_, ?_⟩
  · change o.root.toJson = _
    rw [Node.toJson, Node.childrenContent, Json.insertAll_of_nodup hnodup]
  · rw [report, ← reportNodes_eq_of_outlineAll_eq h,
      reportNodes_read_eq_pruneMembers ho (Node.find?_nil _), Json.insertAll_pruneMembers hnodup]

end ManagedType

/-- Setting values at nodes that have to exist keeps the outline of the tree of an object. -/
theorem MemoryObject.outline_foldl_set (o : MemoryObject) (writes : List (String × String)) :
  (writes.foldl (fun o (path, data) => (o.set path data false).value) o).root.outline
    = o.root.outline
  := by
  induction writes generalizing o with
  | nil => rfl
  | cons write writes ih => rw [List.foldl_cons, ih, outline_set]

open Schema (Node) in
/-- A description gives a type, and an object in memory that starts with its nodes. If siblings
have distinct names without a separator inside, then whatever values the application has set at
nodes of the object that exist, the type reports, in the same order, what the object has for its
content, without the objects in it that are empty or become so. -/
theorem ManagedType.report_ofXml_eq_prune_content
    {xml typeId : String} {schema : Schema} (h : Schema.ofXml xml typeId = .ok schema)
    (hdistinct : schema.root.DistinctSiblings)
    (hnames : ∀ node ∈ schema.root.descendants, NodePath.separator ∉ node.name.toList)
    (name : String) (schemaUrl : Option String) :
  ∃ t o, ofXml typeId xml schemaUrl = .ok t ∧ MemoryObject.ofXml name xml = .ok o ∧
    ∀ writes : List (String × String),
      let o' := writes.foldl (fun o (path, data) => (o.set path data false).value) o
      ∃ members, ManagedObject.content o' = .object [(name, .object members)] ∧
        t.value.report o' = .object [(schema.root.name, .object (Json.pruneMembers members))]
  := by
  have hnonempty := Schema.name_ne_empty_of_mem_descendants h
  have haddressable : schema.root.Addressable :=
    ⟨hdistinct, fun node hnode => ⟨hnonempty node hnode, hnames node hnode⟩⟩
  obtain ⟨element, rfl, hofXml⟩ := Schema.exists_element_of_ofXml h
  refine ⟨create typeId (Schema.ofElement element typeId) schemaUrl,
    .ofSchema name (Schema.ofElement element ""), ?_, ?_, ?_⟩
  · rw [ofXml, hofXml]
    rfl
  · rw [MemoryObject.ofXml, hofXml]
    rfl
  · intro writes o'
    have houtline := MemoryObject.outline_foldl_set
      (.ofSchema name (Schema.ofElement element "")) writes
    have ho : o'.root.Addressable := by
      rw [← Node.addressable_outline_iff, houtline, Node.addressable_outline_iff]
      exact haddressable.of_children_eq rfl
    have hname : o'.root.name = name := by
      rw [← Node.name_outline, houtline]
      rfl
    have hchildren : Node.outlineAll o'.root.children
        = Node.outlineAll (Schema.ofElement element typeId).root.children := by
      rw [Node.outlineAll_eq_map, ← Node.children_outline, houtline, Node.children_outline,
        ← Node.outlineAll_eq_map]
      rfl
    rw [value_create, ← hname]
    exact report_eq_prune_content ho hchildren

/-- An interior node that gets a value keeps its children, and one without children is left out
of the report. -/
theorem ManagedType.report_ofXml_eq_prune_content_empty_interior :
  let xml := "<MgmtTree><Node><Node><NodeName>A</NodeName><Node/></Node><Node><DFProperties>"
    ++ "<DFFormat><node/></DFFormat></DFProperties></Node></Node></MgmtTree>"
  let tree : Schema.Node :=
    ⟨"*", false, "", [⟨"A", false, "", [.leaf "*" ""]⟩, .interior "*"]⟩
  Schema.ofXml xml "t" = .ok ⟨tree, none⟩ ∧
    ∃ t o, ofXml "t" xml none = .ok t ∧ MemoryObject.ofXml "m" xml = .ok o ∧
      let o' := ((o.set "A" "x" false).value.set "A/*" "y" false).value
      ∃ members, ManagedObject.content o' = .object [("m", .object members)] ∧
        t.value.report o' = .object [("*", .object (Json.pruneMembers members))]
  := by
  intro xml tree
  have hxml : Schema.ofXml xml "t" = .ok ⟨tree, none⟩ := by
    decide +kernel
  have hdistinct : tree.DistinctSiblings := by
    decide +kernel
  have hnames : ∀ node ∈ tree.descendants, NodePath.separator ∉ node.name.toList := by
    decide +kernel
  obtain ⟨t, o, ht, ho, hreports⟩ := report_ofXml_eq_prune_content hxml hdistinct hnames "m" none
  exact ⟨hxml, t, o, ht, ho, hreports [("A", "x"), ("A/*", "y")]⟩

end DeviceManagement
