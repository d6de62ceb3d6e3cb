import DeviceManagement.Proofs.Contents
import DeviceManagement.Proofs.Reports
import DeviceManagement.Proofs.Siblings

/-!
# How trees in memory grow

A write to an object in memory grows its tree. Nodes are created as leaves and become interior nodes
when something is put below them, whether they were there before or not. A tree in which siblings
have distinct names and nothing stands below a leaf (`Regular`) stays one, and every node keeps its
place and its name (`Grows`). For such a tree the content has a member wherever there is a node: a
string for a leaf, and an object for an interior node.
-/

namespace DeviceManagement

namespace Schema.Node

variable {node node' child : Node} {data name : String} {names : List String} {addMissing : Bool}

/-! ### Regular trees -/

/-- Siblings have distinct names, and nothing stands below a leaf. -/
structure Regular (node : Node) : Prop where
  distinct : node.DistinctSiblings
  bare : ∀ inner ∈ node.nodes, inner.isLeaf = true → inner.children = []

theorem regular_iff_children :
  node.Regular
    ↔ (node.children.map Node.name).Nodup ∧ (node.isLeaf = true → node.children = [])
      ∧ ∀ child ∈ node.children, child.Regular
  := by
  constructor
  · intro h
    use h.distinct.nodup, h.bare node node.self_mem_nodes
    intro child hchild
    constructor
    · apply h.distinct.of_mem hchild
    · intro inner hinner
      apply h.bare inner (nodes_subset_nodes hchild hinner)
  · rintro ⟨hnodup, hbare, hchildren⟩
    constructor
    · apply distinctSiblings_iff_children.mpr
      use hnodup
      intro child hchild
      apply (hchildren child hchild).distinct
    · rw [nodes_eq, List.forall_mem_cons]
      use hbare
      intro inner hinner
      obtain ⟨child, hchild, hinner⟩ := List.mem_flatMap.mp hinner
      apply (hchildren child hchild).bare inner hinner

theorem regular_leaf (name value : String) :
  (leaf name value).Regular
  := by
  apply regular_iff_children.mpr
  use List.nodup_nil, fun _ => rfl
  intro child hchild
  cases hchild

/-- A write makes no leaf of an interior node. -/
theorem Written.isLeaf_eq_false
    (h : Written data addMissing names node node') (hinterior : node.isLeaf = false) :
  node'.isLeaf = false
  := by
  cases h with
  | value => apply hinterior
  | child => apply hinterior
  | newChild => rfl

/-- A write keeps a tree regular, although it puts nodes below leaves. -/
theorem Written.regular (h : Written data addMissing names node node') (hregular : node.Regular) :
  node'.Regular
  := by
  induction h with
  | value node =>
      apply regular_iff_children.mpr
      apply regular_iff_children.mp hregular
  | @child _ _ node child child' before after hsplit _ _ hchild ih =>
      obtain ⟨hnodup, hbare, hchildren⟩ := regular_iff_children.mp hregular
      rw [hsplit] at hnodup hbare hchildren
      rw [List.forall_mem_append, List.forall_mem_cons] at hchildren
      obtain ⟨hbefore, hold, hafter⟩ := hchildren
      apply regular_iff_children.mpr
      refine ⟨?names, ?bare, ?children⟩
      case names =>
        simpa [hchild.name_eq] using hnodup
      case bare =>
        intro hleaf
        simpa using hbare hleaf
      case children =>
        rw [List.forall_mem_append, List.forall_mem_cons]
        use hbefore, ih hold
  | @newChild name _ node child' _ hnew hchild ih =>
      obtain ⟨hnodup, -, hchildren⟩ := regular_iff_children.mp hregular
      have hname : child'.name = name := hchild.name_eq
      apply regular_iff_children.mpr
      refine ⟨?names, nofun, ?children⟩
      case names =>
        rw [List.map_append, List.map_singleton, hname]
        apply List.nodup_append.mpr
        use hnodup, List.nodup_singleton name
        intro other hother _ hsame
        obtain ⟨sibling, hsibling, rfl⟩ := List.mem_map.mp hother
        rw [List.mem_singleton.mp hsame]
        apply hnew sibling hsibling
      case children =>
        rw [List.forall_mem_append, List.forall_mem_singleton]
        use hchildren
        apply ih (regular_leaf name "")

/-! ### Growing -/

/-- Every node of a tree has its place in another one, where it has the same name, as have the nodes
on the way to it. -/
def Grows (node node' : Node) : Prop :=
  ∀ place names inner, node.StandsAt place names inner →
    ∃ inner', node'.StandsAt place names inner' ∧ inner'.name = inner.name

theorem Grows.refl (node : Node) :
  node.Grows node
  := by
  intro place names inner hinner
  use inner

theorem Grows.trans {node'' : Node} (h : node.Grows node') (h' : node'.Grows node'') :
  node.Grows node''
  := by
  intro place names inner hinner
  obtain ⟨inner', hinner', hname⟩ := h place names inner hinner
  obtain ⟨inner'', hinner'', hname'⟩ := h' place names inner' hinner'
  use inner'', hinner''
  apply hname'.trans hname

theorem Grows.name_eq (h : node.Grows node') :
  node'.name = node.name
  := by
  obtain ⟨inner, hinner, hname⟩ := h [] [] node (.root node)
  rw [(standsAt_root_iff.mp hinner).2] at hname
  apply hname

/-- A tree grows if its children do, each in its place. -/
theorem grows_of_children
    (hname : node'.name = node.name)
    (h : ∀ (i : Nat) child, node.children[i]? = some child →
      ∃ child', node'.children[i]? = some child' ∧ child.Grows child') :
  node.Grows node'
  := by
  intro place names inner hinner
  cases hinner with
  | root => use node', .root node', hname
  | step hchild hbelow =>
      obtain ⟨child', hchild', hgrows⟩ := h _ _ hchild
      obtain ⟨inner', hinner', hname'⟩ := hgrows _ _ _ hbelow
      use inner'
      rw [← hgrows.name_eq]
      use .step hchild' hinner'

/-- A tree grows by a write. -/
theorem Written.grows (h : Written data addMissing names node node') :
  node.Grows node'
  := by
  have hname := h.name_eq
  induction h with
  | value node =>
      apply grows_of_children hname
      intro i child hchild
      use child, hchild
      apply Grows.refl
  | @child _ _ node child child' before after hsplit _ _ hchild ih =>
      apply grows_of_children hname
      intro i sibling hsibling
      rw [hsplit] at hsibling
      rcases Nat.lt_trichotomy i before.length with hlt | rfl | hgt
      · rw [List.getElem?_append_left hlt] at hsibling ⊢
        use sibling, hsibling
        apply Grows.refl
      · rw [List.getElem?_append_right (Nat.le_refl _), Nat.sub_self] at hsibling ⊢
        cases hsibling
        use child', rfl
        apply ih hchild.name_eq
      · obtain ⟨j, hj⟩ : ∃ j, i - before.length = j + 1 := ⟨i - before.length - 1, by omega⟩
        rw [List.getElem?_append_right hgt.le, hj] at hsibling ⊢
        use sibling, hsibling
        apply Grows.refl
  | newChild =>
      apply grows_of_children hname
      intro i sibling hsibling
      obtain ⟨hi, -⟩ := List.getElem?_eq_some_iff.mp hsibling
      use sibling, (List.getElem?_append_left hi).trans hsibling
      apply Grows.refl

/-! ### Contents of regular trees -/

theorem content_eq_string_iff {s : String} :
  node.content = .string s ↔ node.isLeaf = true ∧ node.value = s
  := by
  obtain ⟨name, isLeaf, value, children⟩ := node
  cases isLeaf <;> simp [content]

theorem content_eq_object_iff {members : List (String × Json.Value)} :
  node.content = .object members
    ↔ node.isLeaf = false ∧ Json.insertAll (memberContents node.children) = members
  := by
  obtain ⟨name, isLeaf, value, children⟩ := node
  cases isLeaf <;> simp [content]

theorem lookup_memberContents (name : String) (nodes : List Node) :
  Json.lookup name (memberContents nodes)
    = (nodes.find? fun node => node.name == name).map content
  := by
  induction nodes with
  | nil => rfl
  | cons node nodes ih =>
      by_cases hname : node.name = name
      · simp [memberContents, Json.lookup, hname]
      · rw [memberContents, List.find?_cons_of_neg (by simpa using hname), ← ih]
        simp [Json.lookup, hname]

/-- Along names, the content of a regular tree has the content of the node that is found along
them. -/
theorem Regular.at?_childrenContent (h : node.Regular) (hnames : names ≠ []) :
  node.childrenContent.at? names = (node.find? names).map content
  := by
  induction names generalizing node with
  | nil => apply absurd rfl hnames
  | cons name names ih =>
      obtain ⟨hnodup, -, hchildren⟩ := regular_iff_children.mp h
      have hmember : node.childrenContent.member? name = (node.child? name).map content := by
        rw [childrenContent, Json.Value.member?, Json.insertAll_of_nodup, lookup_memberContents,
          child?]
        rw [map_fst_memberContents]
        apply hnodup
      rw [Json.Value.at?_cons, hmember, find?_cons]
      cases hchild : node.child? name with
      | none => rfl
      | some child =>
          have hregular := hchildren child (mem_of_child?_eq_some hchild).1
          rw [Option.map_some, Option.bind_some, Option.bind_some]
          cases names with
          | nil => rfl
          | cons next names =>
              cases hleaf : child.isLeaf with
              | false =>
                  rw [content_of_interior hleaf]
                  apply ih hregular (List.cons_ne_nil next names)
              | true =>
                  have hbare := (regular_iff_children.mp hregular).2.1 hleaf
                  obtain ⟨childName, isLeaf, value, children⟩ := child
                  cases hleaf
                  cases hbare
                  rfl

end Schema.Node

/-! ### Objects in memory -/

namespace MemoryObject

open Schema (Node)

/-- An object as it is before any change to its tree: it has an empty tree, or the nodes of a
description in which siblings have distinct names. -/
inductive Fresh : MemoryObject → Prop
  | empty (name : String) : Fresh (.empty name)
  | ofXml {name xml : String} {schema : Schema} {o : MemoryObject}
      (hschema : Schema.ofXml xml "" = .ok schema) (hdistinct : schema.root.DistinctSiblings)
      (h : ofXml name xml = .ok o) : Fresh o
  | ofFile {name path : String} {file : Option (List UInt8)} {schema : Schema} {o : MemoryObject}
      (hschema : Schema.ofFile path file "" = .ok schema)
      (hdistinct : schema.root.DistinctSiblings) (h : ofFile name path file = .ok o) : Fresh o
  | withInstanceId {o : MemoryObject} (h : Fresh o) (instanceId : String) :
      Fresh (o.withInstanceId instanceId)

/-- The nodes of a description make a regular tree if siblings have distinct names. -/
theorem regular_ofSchema
    {xml : String} {schema : Schema} (h : Schema.ofXml xml "" = .ok schema)
    (hdistinct : schema.root.DistinctSiblings) (name : String) :
  (ofSchema name schema).root.Regular
  := by
  obtain ⟨element, rfl, -⟩ := Schema.exists_element_of_ofXml h
  have hbare := Schema.bareLeaves_ofElement element ""
  apply Node.regular_iff_children.mpr
  use hdistinct.nodup, nofun
  intro child hchild
  use hdistinct.of_mem hchild
  intro inner hinner
  apply hbare inner (Node.nodes_subset_descendants hchild hinner)

/-- The tree of a fresh object is regular, and its root is no leaf. -/
theorem Fresh.regular {o : MemoryObject} (h : Fresh o) :
  o.root.Regular ∧ o.root.isLeaf = false
  := by
  induction h with
  | empty name =>
      use Node.regular_iff_children.mpr ⟨List.nodup_nil, nofun, fun _ => nofun⟩
      rfl
  | @ofXml name xml schema o hschema hdistinct h =>
      rw [MemoryObject.ofXml, hschema] at h
      cases h
      use regular_ofSchema hschema hdistinct name
      rfl
  | @ofFile name path file schema o hschema hdistinct h =>
      rw [MemoryObject.ofFile, hschema] at h
      cases h
      rw [Schema.ofFile] at hschema
      split at hschema
      · use regular_ofSchema hschema hdistinct name
        rfl
      · cases hschema
  | withInstanceId h instanceId ih => apply ih

theorem root_perform (o : MemoryObject) (change : Change) :
  (o.perform change).root = o.root
    ∨ o.root.Written change.data change.addMissing change.names (o.perform change).root
  := by
  rw [perform_eq, set]
  cases hroot : o.root.write? change.data change.addMissing (NodePath.segments change.path) with
  | some root =>
      right
      apply Node.written_of_write? hroot
  | none =>
      left
      rfl

/-- Changes keep the tree of an object regular and its root an interior node, and let it grow. -/
theorem regular_foldl_perform
    {o : MemoryObject} (h : o.root.Regular) (hinterior : o.root.isLeaf = false)
    (changes : List Change) :
  (changes.foldl perform o).root.Regular ∧ (changes.foldl perform o).root.isLeaf = false
    ∧ o.root.Grows (changes.foldl perform o).root
  := by
  induction changes generalizing o with
  | nil => use h, hinterior, .refl o.root
  | cons change changes ih =>
      rw [List.foldl_cons]
      rcases root_perform o change with hsame | hwritten
      · rw [← hsame] at h hinterior ⊢
        apply ih h hinterior
      · obtain ⟨hregular, hroot, hmore⟩ :=
          ih (hwritten.regular h) (hwritten.isLeaf_eq_false hinterior)
        use hregular, hroot, hwritten.grows.trans hmore

/-- Whatever is set in an object in memory, siblings keep distinct names, nothing stands below a
leaf, and the root is no leaf. Every node that there is at some time stays at its place under its
name. So the content of the object has a member wherever its tree has a node: for a leaf the string
that reading the node gives, and for an interior node an object. -/
theorem content_follows_tree {o : MemoryObject} (h : Fresh o) (changes : List Change) :
  let o' := changes.foldl perform o
  (o'.root.DistinctSiblings ∧ (∀ node ∈ o'.root.nodes, node.isLeaf = true → node.children = [])
      ∧ o'.root.isLeaf = false)
    ∧ (∀ (more : List Change) place names node, o'.root.StandsAt place names node →
        ∃ node', (more.foldl perform o').root.StandsAt place names node' ∧ node'.name = node.name)
    ∧ ∃ members, ManagedObject.content o' = .object [(o.root.name, .object members)]
      ∧ ∀ names ≠ [],
          let found := (Json.Value.object members).at? names
          (found.isSome ↔ (o'.root.find? names).isSome)
          ∧ ((∃ s, found = some (.string s))
              ↔ ∃ leaf, o'.root.find? names = some leaf ∧ leaf.isLeaf = true)
          ∧ (∀ s, found = some (.string s) → o'.contents names = some s
              ∧ (∀ path, NodePath.segments path = names → ManagedObject.read o' path = .present s)
              ∧ ((∀ name ∈ names, NodePath.separator ∉ name.toList) →
                  ∃ path, NodePath.segments path = names))
          ∧ ((∃ inside, found = some (.object inside))
              ↔ ∃ inner, o'.root.find? names = some inner ∧ inner.isLeaf = false)
  := by
  intro o'
  obtain ⟨hregular, hinterior⟩ := h.regular
  obtain ⟨hregular', hinterior', hgrows⟩ := regular_foldl_perform hregular hinterior changes
  refine ⟨⟨hregular'.distinct, hregular'.bare, hinterior'⟩, ?keep, ?content⟩
  case keep =>
    intro more
    apply (regular_foldl_perform hregular' hinterior' more).2.2
  case content =>
    use Json.insertAll (Node.memberContents o'.root.children)
    constructor
    · rw [← hgrows.name_eq]
      rfl
    intro names hnames found
    have hfound (value : Json.Value) : found = some value
        ↔ ∃ node, o'.root.find? names = some node ∧ node.content = value := by
      rw [← Option.map_eq_some_iff, ← hregular'.at?_childrenContent hnames]
      rfl
    refine ⟨?somewhere, ?strings, ?readings, ?objects⟩
    case somewhere =>
      simp only [Option.isSome_iff_exists, hfound]
      constructor
      · rintro ⟨-, node, hnode, -⟩
        use node
      · rintro ⟨node, hnode⟩
        use node.content, node
    case strings =>
      simp only [hfound, Node.content_eq_string_iff]
      constructor
      · rintro ⟨s, leaf, hleaf⟩
        use leaf, hleaf.1, hleaf.2.1
      · rintro ⟨leaf, hfind, hleaf⟩
        use leaf.value, leaf
    case readings =>
      intro s hs
      obtain ⟨leaf, hfind, hcontent⟩ := (hfound _).mp hs
      have hvalue : o'.contents names = some s := by
        rw [contents, Node.valueAt?, hfind, ← (Node.content_eq_string_iff.mp hcontent).2]
        rfl
      use hvalue
      constructor
      · rintro path rfl
        rw [read_eq_contents, hvalue]
        rfl
      · apply NodePath.exists_segments_eq hnames
    case objects =>
      simp only [hfound, Node.content_eq_object_iff]
      constructor
      · rintro ⟨inside, inner, hinner⟩
        use inner, hinner.1, hinner.2.1
      · rintro ⟨inner, hfind, hinner⟩
        use Json.insertAll (Node.memberContents inner.children), inner

/-- A write below a leaf of the description makes it an interior node, and a leaf is created below
an interior node that had no children. -/
theorem content_follows_tree_below_leaf :
  let xml := "<MgmtTree><Node><Node><NodeName>A</NodeName><Value>a</Value></Node><Node>"
    ++ "<NodeName>E</NodeName><DFProperties><DFFormat><node/></DFFormat></DFProperties>"
    ++ "</Node></Node></MgmtTree>"
  let changes : List Change := [.write "A/b" "x", .store "/E//c/" "y" true, .store "F" "z" false]
  ∃ schema o, Schema.ofXml xml "" = .ok schema ∧ schema.root.DistinctSiblings
    ∧ ofXml "m" xml = .ok o ∧ o.root.isLeaf = false
    ∧ ∃ members, ManagedObject.content (changes.foldl perform o) = .object [("m", .object members)]
      ∧ (∃ inside, (Json.Value.object members).at? ["A"] = some (.object inside))
      ∧ (∃ s, (Json.Value.object members).at? ["E", "", "c"] = some (.string s))
      ∧ ((Json.Value.object members).at? ["F"]).isSome = false
  := by
  intro xml changes
  let tree : Node := ⟨"*", false, "", [.leaf "A" "a", .interior "E"]⟩
  have hxml : Schema.ofXml xml "" = .ok ⟨tree, none⟩ := by
    decide +kernel
  have hdistinct : tree.DistinctSiblings := by
    decide +kernel
  let o : MemoryObject := .ofSchema "m" ⟨tree, none⟩
  have ho : ofXml "m" xml = .ok o := by
    rw [ofXml, hxml]
    rfl
  obtain ⟨-, -, members, hcontent, hmembers⟩ :=
    content_follows_tree (.ofXml hxml hdistinct ho) changes
  have hA := hmembers ["A"] (List.cons_ne_nil _ _)
  have hE := hmembers ["E", "", "c"] (List.cons_ne_nil _ _)
  have hF := hmembers ["F"] (List.cons_ne_nil _ _)
  use ⟨tree, none⟩, o, hxml, hdistinct, ho, rfl, members, hcontent
  refine ⟨?_, ?_, ?_⟩
  · apply hA.2.2.2.mpr ⟨⟨"A", false, "a", [.leaf "b" "x"]⟩, ?_, rfl⟩
    decide +kernel
  · apply hE.2.1.mpr ⟨.leaf "c" "y", ?_, rfl⟩
    decide +kernel
  · rw [Bool.eq_false_iff]
    intro hsome
    have hfind := hF.1.mp hsome
    revert hfind
    decide +kernel

end MemoryObject

end DeviceManagement
