import DeviceManagement.Proofs.Ingestion

/-!
# Trees recovered from their dumps

A dump shows the values of leaves and the names of all nodes, but neither which nodes are leaves nor
the values of interior nodes. For the tree of a description these can be recovered, because a node
of it has no children if it is a leaf and no value otherwise, and the root is a leaf exactly if it
has no children. `ofContent` reads a node off its content, and `ofDump` a whole tree off its dump.
If siblings have distinct names, then this gives back the tree that was dumped.
-/

namespace DeviceManagement.Schema

namespace Node

mutual

/-- The node of the given name whose content is a value, as far as a node can have it. -/
def ofContent (name : String) : Json.Value → Node
  | .string s => .leaf name s
  | .object members => ⟨name, false, "", ofMembers members⟩
  | _ => .interior name

/-- The nodes whose contents are the values of some members. -/
def ofMembers : List (String × Json.Value) → List Node
  | [] => []
  | (name, value) :: members => ofContent name value :: ofMembers members

end

/-- The tree whose dump is a value: it is named by the only member, and its root is a leaf if there
is nothing below it. -/
def ofDump : Json.Value → Node
  | .object [(name, .object members)] => ⟨name, (ofMembers members).isEmpty, "", ofMembers members⟩
  | _ => .interior wildcard

/-- Nodes that are each recovered from their content are recovered together. -/
theorem ofMembers_memberContents
    {nodes : List Node} (h : ∀ node ∈ nodes, ofContent node.name node.content = node) :
  ofMembers (memberContents nodes) = nodes
  := by
  induction nodes with
  | nil => rfl
  | cons node nodes ih =>
      rw [List.forall_mem_cons] at h
      rw [memberContents, ofMembers, h.1, ih h.2]

variable {node : Node}

/-- A well-formed node with children of distinct names is recovered from its content if its children
are from theirs. -/
theorem ofContent_of_children
    (hwf : node.WellFormed) (hnodup : (node.children.map Node.name).Nodup)
    (h : ofMembers (memberContents node.children) = node.children) :
  ofContent node.name node.content = node
  := by
  rw [← map_fst_memberContents] at hnodup
  cases hleaf : node.isLeaf with
  | true =>
      have hbare := hwf.children_eq_nil hleaf
      obtain ⟨name, isLeaf, value, children⟩ := node
      cases hleaf
      cases hbare
      rfl
  | false =>
      have hvalue := hwf.value_eq_empty hleaf
      rw [content_of_interior hleaf, childrenContent, Json.insertAll_of_nodup hnodup, ofContent, h]
      obtain ⟨name, isLeaf, value, children⟩ := node
      cases hleaf
      cases hvalue
      rfl

/-- A well-formed tree in which siblings have distinct names is recovered from its content. -/
theorem ofContent_content
    (hwf : ∀ inner ∈ node.nodes, inner.WellFormed) (hdistinct : node.DistinctSiblings) :
  ofContent node.name node.content = node
  := by
  induction node using Node.induction with
  | step node ih =>
      apply ofContent_of_children (hwf node node.self_mem_nodes) hdistinct.nodup
      apply ofMembers_memberContents
      intro child hchild
      apply ih child hchild _ (hdistinct.of_mem hchild)
      intro inner hinner
      apply hwf inner (nodes_subset_nodes hchild hinner)

end Node

/-- The tree of a description in which siblings have distinct names is recovered from its dump. -/
theorem ofDump_toJson
    {xml typeId : String} {schema : Schema} (h : ofXml xml typeId = .ok schema)
    (hdistinct : schema.root.DistinctSiblings) :
  Node.ofDump schema.root.toJson = schema.root
  := by
  obtain ⟨element, rfl, -⟩ := exists_element_of_ofXml h
  have hnodup := hdistinct.nodup
  rw [← Node.map_fst_memberContents] at hnodup
  have hchildren : Node.ofMembers (Node.memberContents (ofElement element typeId).root.children)
      = (ofElement element typeId).root.children := by
    apply Node.ofMembers_memberContents
    intro child hchild
    apply Node.ofContent_content _ (hdistinct.of_mem hchild)
    intro inner hinner
    apply wellFormed_of_mem_nodes_ofElement element typeId
    apply Node.nodes_subset_nodes hchild hinner
  rw [Node.toJson, Node.childrenContent, Json.insertAll_of_nodup hnodup, Node.ofDump, hchildren]
  rfl

/-- Descriptions with equal dumps describe equal trees, if siblings have distinct names in both. -/
theorem ofXml_root_eq_of_toJson_eq
    {xml xml' typeId typeId' : String} {schema schema' : Schema}
    (h : ofXml xml typeId = .ok schema) (h' : ofXml xml' typeId' = .ok schema')
    (hdistinct : schema.root.DistinctSiblings) (hdistinct' : schema'.root.DistinctSiblings)
    (hdump : schema.root.toJson = schema'.root.toJson) :
  schema.root = schema'.root
  := by
  calc
    schema.root = Node.ofDump schema.root.toJson := (ofDump_toJson h hdistinct).symm
    _ = Node.ofDump schema'.root.toJson := by rw [hdump]
    _ = schema'.root := ofDump_toJson h' hdistinct'

/-- It makes no difference where the name of the root comes from, nor whether the element of an
interior node has a value. -/
theorem ofXml_root_eq_of_toJson_eq_named_by_type :
  let xml := "<MgmtTree><Node><Node><NodeName>A</NodeName><Node/></Node></Node></MgmtTree>"
  let xml' := "<MgmtTree><Node><NodeName>fumo</NodeName><Node><Value>x</Value><NodeName>A</NodeName>"
    ++ "<Node/></Node></Node></MgmtTree>"
  ∃ schema schema', ofXml xml "urn:oma:mo:oma-fumo:1.0" = .ok schema ∧ ofXml xml' "t" = .ok schema'
    ∧ schema.root.DistinctSiblings ∧ schema'.root.DistinctSiblings
    ∧ schema.root.toJson = schema'.root.toJson ∧ schema.root = schema'.root
  := by
  intro xml xml'
  let tree : Node := ⟨"fumo", false, "", [⟨"A", false, "", [.leaf "*" ""]⟩]⟩
  have hxml : ofXml xml "urn:oma:mo:oma-fumo:1.0" = .ok ⟨tree, none⟩ := by
    decide +kernel
  have hxml' : ofXml xml' "t" = .ok ⟨tree, none⟩ := by
    decide +kernel
  have hdistinct : tree.DistinctSiblings := by
    decide +kernel
  have hroot := ofXml_root_eq_of_toJson_eq hxml hxml' hdistinct hdistinct rfl
  exact ⟨⟨tree, none⟩, ⟨tree, none⟩, hxml, hxml', hdistinct, hdistinct, rfl, hroot⟩

end DeviceManagement.Schema
