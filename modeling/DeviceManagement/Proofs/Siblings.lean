import DeviceManagement.Proofs.Descriptions
import DeviceManagement.Proofs.Dumps
import DeviceManagement.Proofs.Places

/-!
# Siblings with the same name

A description may give siblings the same name, be it written twice or the one of nodes without a
name, and the tree it describes has them all. Names do not tell the nodes of such a tree apart: a
lookup stays with the first sibling of a name, and a dump shows only one of them. Three things come
together: the elements of siblings have distinct names, lookups arrive at every node, and the dump
shows every node below the root.
-/

namespace DeviceManagement.Schema

theorem bareLeaves_ofElement (element : Xml.Node) (typeId : String) :
  (ofElement element typeId).root.BareLeaves
  := by
  intro node hnode hleaf
  obtain ⟨-, -, inner, -, rfl⟩ := mem_descendants_ofElement_iff.mp hnode
  rw [isLeaf_describedNode] at hleaf
  rw [describedNode_of_leaf hleaf, Node.leaf]

namespace Node

variable {node : Node}

/-- Siblings have distinct names if and only if a lookup along the names on the way to a node always
arrives at its place, and so gives the node. -/
theorem distinctSiblings_iff_find? :
  node.DistinctSiblings
    ↔ ∀ place names inner, node.StandsAt place names inner →
        node.placeOf? names = some place ∧ node.find? names = some inner
  := by
  rw [distinctSiblings_iff_placeOf?]
  constructor
  · intro h place names inner hstands
    have hplace := h place names inner hstands
    exact ⟨hplace, find?_eq_some_iff_standsAt.mpr ⟨place, hplace, hstands⟩⟩
  · intro h place names inner hstands
    exact (h place names inner hstands).1

/-- Siblings have distinct names if and only if the members of the dump are the nodes below the root
with their contents. -/
theorem distinctSiblings_iff_toJson (hbare : node.BareLeaves) :
  node.DistinctSiblings
    ↔ ∃ members, node.toJson = .object [(node.name, .object members)]
        ∧ Json.memberEntries members = node.entries.map (Prod.map id content)
  := by
  rw [distinctSiblings_iff_entries hbare, toJson]
  constructor
  · intro h
    exact ⟨_, rfl, h⟩
  · rintro ⟨members, hmembers, h⟩
    rw [childrenContent] at hmembers ⊢
    cases hmembers
    apply h

end Node

/-- A description that gives a schema is read as the tree of its elements, whatever names they have.
Siblings of the tree have distinct names if and only if the elements of siblings have; if and only
if the lookup along the names on the way to a node always gives this very node; and if and only if
the dump shows every node below the root. -/
theorem ofXml_distinctSiblings_iff
    {xml typeId : String} {schema : Schema} (h : ofXml xml typeId = .ok schema) :
  ∃ document element, Xml.rootOf? xml = some document ∧ rootElement document = .ok element
    ∧ schema = ofElement element typeId
    ∧ (schema.root.DistinctSiblings ↔ Unambiguous element)
    ∧ (∀ names inner, schema.root.find? names = some inner
        ↔ ∃ place, schema.root.placeOf? names = some place
            ∧ schema.root.StandsAt place names inner)
    ∧ (schema.root.DistinctSiblings
        ↔ ∀ place names inner, schema.root.StandsAt place names inner →
            schema.root.placeOf? names = some place ∧ schema.root.find? names = some inner)
    ∧ (schema.root.DistinctSiblings
        ↔ ∃ members, schema.root.toJson = .object [(schema.root.name, .object members)]
            ∧ Json.memberEntries members = schema.root.entries.map (Prod.map id Node.content))
  := by
  obtain ⟨document, element, hdocument, helement, rfl⟩ := ofXml_eq_ok_iff.mp h
  use document, element, hdocument, helement, rfl
  refine ⟨?elements, ?lookup, ?found, ?shown⟩
  case elements =>
    apply distinctSiblings_ofElement_iff element typeId
  case lookup =>
    intro names inner
    apply Node.find?_eq_some_iff_standsAt
  case found =>
    apply Node.distinctSiblings_iff_find?
  case shown =>
    apply Node.distinctSiblings_iff_toJson (bareLeaves_ofElement element typeId)

/-- A name may repeat at another depth. -/
theorem ofXml_distinctSiblings_iff_nested :
  let xml := "<MgmtTree><Node><NodeName>T</NodeName><Node><NodeName>A</NodeName><Node>"
    ++ "<NodeName>A</NodeName><Value>x</Value></Node></Node><Node/></Node></MgmtTree>"
  let tree : Node :=
    ⟨"T", false, "", [⟨"A", false, "", [.leaf "A" "x"]⟩, .leaf "*" ""]⟩
  ofXml xml "t" = .ok ⟨tree, none⟩
    ∧ ∀ place names inner, tree.StandsAt place names inner →
        tree.placeOf? names = some place ∧ tree.find? names = some inner
  := by
  intro xml tree
  have hxml : ofXml xml "t" = .ok ⟨tree, none⟩ := by
    decide +kernel
  have hdistinct : tree.DistinctSiblings := by
    decide +kernel
  obtain ⟨-, -, -, -, -, -, -, hfind, -⟩ := ofXml_distinctSiblings_iff hxml
  exact ⟨hxml, hfind.mp hdistinct⟩

/-- Two nodes without a name are siblings with the same name. The second one is not found, and the
dump does not show the first one. -/
theorem ofXml_accepts_equal_siblings :
  let xml := "<MgmtTree><Node><NodeName>T</NodeName><Node><Value>a</Value></Node>"
    ++ "<Node><Value>b</Value></Node></Node></MgmtTree>"
  let tree : Node :=
    ⟨"T", false, "", [.leaf "*" "a", .leaf "*" "b"]⟩
  ofXml xml "t" = .ok ⟨tree, none⟩
    ∧ ¬ tree.DistinctSiblings
    ∧ tree.StandsAt [1] ["*"] (.leaf "*" "b")
    ∧ tree.find? ["*"] = some (.leaf "*" "a")
    ∧ tree.toJson = .object [("T", .object [("*", .string "b")])]
  := by
  intro xml tree
  refine ⟨?_, ?_, ?_, ?_, ?_⟩
  · decide +kernel
  · decide +kernel
  · apply Node.standsAt_cons_iff.mpr ⟨.leaf "*" "b", [], rfl, .root _, rfl⟩
  · decide +kernel
  · rfl

end DeviceManagement.Schema
