import DeviceManagement.Proofs.Descriptions
import Mathlib.Data.List.Forall2

/-!
# The elements that are taken in

A description is read from the first `Node` element in the root of its document. `Ingests` says
which elements the reading takes in, each at its place in the document, and `takenIn` lists them.
The places come in lexicographic order, which is the order in which the elements begin. Every
element that is taken in describes one node of the tree, and the nodes come in the same order: none
is left out, none is read twice, and none changes its place.
-/

namespace DeviceManagement

/-- What holds of a node of a document whenever it holds of its children holds of every node. -/
theorem Xml.Node.induction
    {motive : Xml.Node → Prop}
    (step : ∀ node : Xml.Node, (∀ child ∈ node.children, motive child) → motive node)
    (node : Xml.Node) :
  motive node
  := by
  apply @Xml.Node.rec motive fun nodes => ∀ child ∈ nodes, motive child
  · intro name children ih
    apply step (.element name children) ih
  · intro content
    apply step (.text content)
    intro child hchild
    cases hchild
  · apply step .aside
    intro child hchild
    cases hchild
  · intro child hchild
    cases hchild
  · intro head tail hhead htail
    apply List.forall_mem_cons.mpr ⟨hhead, htail⟩

namespace Schema

/-! ### Leaves and interior nodes -/

/-- An element declares a format: the first `DFFormat` in its first `DFProperties`. -/
def Declares (element format : Xml.Node) : Prop :=
  ∃ properties, element.child? "DFProperties" = some properties
    ∧ properties.child? "DFFormat" = some format

/-- An element describes an interior node if the format it declares has a child `node`, or if it
declares no format and has a child `Node`. -/
def DescribesInterior (element : Xml.Node) : Prop :=
  (∃ format, Declares element format ∧ ∃ child ∈ format.children, child.isNamed "node" = true)
    ∨ (¬ ∃ format, Declares element format) ∧ ∃ child ∈ element.children, child.isNamed "Node" = true

theorem descend?_eq_some_iff {element format : Xml.Node} :
  element.descend? ["DFProperties", "DFFormat"] = some format ↔ Declares element format
  := by
  simp [Xml.Node.descend?, Declares, Option.bind_eq_some_iff]

theorem isSome_child?_iff {element : Xml.Node} {name : String} :
  (element.child? name).isSome = true ↔ ∃ child ∈ element.children, child.isNamed name = true
  := by
  simp [Xml.Node.child?]

theorem describesLeaf_eq_false_iff {element : Xml.Node} :
  describesLeaf element = false ↔ DescribesInterior element
  := by
  rw [describesLeaf, DescribesInterior]
  cases h : element.descend? ["DFProperties", "DFFormat"] with
  | some format =>
      have hformat : ∀ other, Declares element other ↔ format = other := by
        intro other
        rw [← descend?_eq_some_iff, h, Option.some_inj]
      simp [hformat, isSome_child?_iff]
  | none =>
      have hformat : ∀ other, ¬ Declares element other := by
        intro other
        rw [← descend?_eq_some_iff, h]
        nofun
      simp [hformat, isSome_child?_iff]

/-! ### Elements at their places -/

/-- The reading of a document takes in an element at a place, which says which child to take at each
step from the root: it takes in the first `Node` in the root, and every `Node` in an element it takes
in that is this first one or describes an interior node. -/
inductive Ingests (document : Xml.Node) : (place : List Nat) → (element : Xml.Node) → Prop
  | root {i : Nat} {element : Xml.Node} (helement : document.children[i]? = some element)
      (hnamed : element.isNamed "Node" = true)
      (hfirst : ∀ j < i, ∀ other, document.children[j]? = some other →
        other.isNamed "Node" = false) : Ingests document [i] element
  | inside {place : List Nat} {i : Nat} {element child : Xml.Node}
      (h : Ingests document place element)
      (hinterior : place.length = 1 ∨ DescribesInterior element)
      (hchild : element.children[i]? = some child) (hnamed : child.isNamed "Node" = true) :
      Ingests document (place ++ [i]) child

mutual

/-- The elements that are taken in with an element, and their places inside it. -/
def takenIn : Xml.Node → List (List Nat × Xml.Node)
  | .element tag children =>
    ([], .element tag children)
      :: if describesLeaf (.element tag children) then [] else takenInBelow 0 children
  | node => [([], node)]

/-- The elements that are taken in with the `Node` elements among some children, of which the first
one is at `i`. -/
def takenInBelow (i : Nat) : List Xml.Node → List (List Nat × Xml.Node)
  | [] => []
  | child :: children =>
    (if child.isNamed "Node" then (takenIn child).map (Prod.map (i :: ·) id) else [])
      ++ takenInBelow (i + 1) children

end

theorem takenIn_eq (element : Xml.Node) :
  takenIn element
    = ([], element) :: if describesLeaf element then [] else takenInBelow 0 element.children
  := by
  cases element with
  | element tag children => rw [takenIn, Xml.Node.children]
  | text content => rfl
  | aside => rfl

variable {place : List Nat} {element inner child : Xml.Node} {children : List Xml.Node} {i : Nat}

theorem mem_takenInBelow_iff :
  (place, inner) ∈ takenInBelow i children
    ↔ ∃ j child rest, children[j]? = some child ∧ child.isNamed "Node" = true
        ∧ (rest, inner) ∈ takenIn child ∧ place = (i + j) :: rest
  := by
  induction children generalizing i with
  | nil => simp [takenInBelow]
  | cons first children ih =>
      rw [takenInBelow, List.mem_append, ih]
      constructor
      · rintro (hfirst | ⟨j, child, rest, hchild, hnamed, hrest, rfl⟩)
        · split at hfirst
          · next hnamed =>
              obtain ⟨⟨rest, _⟩, hrest, hmap⟩ := List.mem_map.mp hfirst
              cases hmap
              use 0, first, rest, rfl, hnamed, hrest
              rfl
          · cases hfirst
        · use j + 1, child, rest, hchild, hnamed, hrest
          rw [Nat.add_right_comm, Nat.add_assoc]
      · rintro ⟨_ | j, child, rest, hchild, hnamed, hrest, rfl⟩
        · left
          cases hchild
          rw [if_pos hnamed]
          apply List.mem_map.mpr ⟨(rest, inner), hrest, rfl⟩
        · right
          use j, child, rest, hchild, hnamed, hrest
          rw [Nat.add_right_comm, Nat.add_assoc]

theorem mem_takenIn_iff :
  (place, inner) ∈ takenIn element
    ↔ place = [] ∧ inner = element
      ∨ DescribesInterior element ∧ (place, inner) ∈ takenInBelow 0 element.children
  := by
  rw [takenIn_eq, List.mem_cons, Prod.mk.injEq, ← describesLeaf_eq_false_iff]
  cases describesLeaf element <;> simp

theorem mem_takenIn_cons_iff :
  (i :: place, inner) ∈ takenIn element
    ↔ DescribesInterior element ∧ ∃ child, element.children[i]? = some child
        ∧ child.isNamed "Node" = true ∧ (place, inner) ∈ takenIn child
  := by
  rw [mem_takenIn_iff, mem_takenInBelow_iff]
  simp

/-! ### Taking in all elements -/

/-- What is taken in with an element is so wherever the element is. -/
theorem Ingests.append
    {document : Xml.Node} {front : List Nat} (h : Ingests document front element)
    (hinner : (place, inner) ∈ takenIn element) :
  Ingests document (front ++ place) inner
  := by
  induction place generalizing front element with
  | nil =>
      rcases mem_takenIn_iff.mp hinner with ⟨-, rfl⟩ | ⟨-, hbelow⟩
      · rw [List.append_nil]
        apply h
      · obtain ⟨_, _, _, _, _, _, ⟨⟩⟩ := mem_takenInBelow_iff.mp hbelow
  | cons i place ih =>
      obtain ⟨hinterior, child, hchild, hnamed, hrest⟩ := mem_takenIn_cons_iff.mp hinner
      rw [List.append_cons]
      apply ih (h.inside (.inr hinterior) hchild hnamed) hrest

/-- With an element that describes an interior node, the `Node` elements in it are taken in. -/
theorem mem_takenIn_append_singleton
    (h : (place, inner) ∈ takenIn element) (hinterior : DescribesInterior inner)
    (hchild : inner.children[i]? = some child) (hnamed : child.isNamed "Node" = true) :
  (place ++ [i], child) ∈ takenIn element
  := by
  have hself : ([], child) ∈ takenIn child := mem_takenIn_iff.mpr (.inl ⟨rfl, rfl⟩)
  induction place generalizing element with
  | nil =>
      rcases mem_takenIn_iff.mp h with ⟨-, rfl⟩ | ⟨-, hbelow⟩
      · apply mem_takenIn_cons_iff.mpr
        use hinterior, child
      · obtain ⟨_, _, _, _, _, _, ⟨⟩⟩ := mem_takenInBelow_iff.mp hbelow
  | cons j place ih =>
      obtain ⟨houter, next, hnext, hnamed', hrest⟩ := mem_takenIn_cons_iff.mp h
      apply mem_takenIn_cons_iff.mpr
      use houter, next, hnext, hnamed'
      apply ih hrest

/-- The elements that the reading of a document takes in if it starts with the given element. -/
def takenInFrom (i : Nat) (element : Xml.Node) : List (List Nat × Xml.Node) :=
  ([i], element) :: (takenInBelow 0 element.children).map (Prod.map (i :: ·) id)

theorem mem_takenInFrom_iff :
  (place, inner) ∈ takenInFrom i element
    ↔ place = [i] ∧ inner = element
      ∨ ∃ j child rest, element.children[j]? = some child ∧ child.isNamed "Node" = true
          ∧ (rest, inner) ∈ takenIn child ∧ place = i :: j :: rest
  := by
  rw [takenInFrom, List.mem_cons, Prod.mk.injEq, List.mem_map]
  apply or_congr_right
  constructor
  · rintro ⟨⟨below, _⟩, hbelow, hmap⟩
    cases hmap
    obtain ⟨j, child, rest, hchild, hnamed, hrest, rfl⟩ := mem_takenInBelow_iff.mp hbelow
    use j, child, rest, hchild, hnamed, hrest
    rw [Nat.zero_add]
  · rintro ⟨j, child, rest, hchild, hnamed, hrest, rfl⟩
    refine ⟨(j :: rest, inner), ?_, rfl⟩
    apply mem_takenInBelow_iff.mpr
    use j, child, rest, hchild, hnamed, hrest
    rw [Nat.zero_add]

/-- The element with which the reading of a document starts is its first `Node`. -/
theorem exists_getElem?_of_child?
    {document : Xml.Node} (h : document.child? "Node" = some element) :
  ∃ i : Nat, document.children[i]? = some element ∧ element.isNamed "Node" = true
    ∧ ∀ j < i, ∀ other, document.children[j]? = some other → other.isNamed "Node" = false
  := by
  obtain ⟨hnamed, i, hi, hget, hfirst⟩ := List.find?_eq_some_iff_getElem.mp h
  use i, List.getElem?_eq_some_iff.mpr ⟨hi, hget⟩, hnamed
  intro j hj other hother
  obtain ⟨_, rfl⟩ := List.getElem?_eq_some_iff.mp hother
  simpa using hfirst j hj

/-- The elements that the reading of a document takes in are those it takes in from the first `Node`
in the root. -/
theorem mem_takenInFrom_iff_ingests
    {document : Xml.Node} (helement : document.children[i]? = some element)
    (hnamed : element.isNamed "Node" = true)
    (hfirst : ∀ j < i, ∀ other, document.children[j]? = some other →
      other.isNamed "Node" = false) :
  (place, inner) ∈ takenInFrom i element ↔ Ingests document place inner
  := by
  have hroot : Ingests document [i] element := .root helement hnamed hfirst
  constructor
  · intro h
    rcases mem_takenInFrom_iff.mp h with ⟨rfl, rfl⟩ | ⟨j, child, rest, hchild, hnode, hrest, rfl⟩
    · apply hroot
    · apply (hroot.inside (.inl rfl) hchild hnode).append hrest
  · intro h
    induction h with
    | @root i' element' helement' hnamed' hfirst' =>
        have hi : i' = i := by
          rcases Nat.lt_trichotomy i' i with hlt | heq | hgt
          · apply absurd (hfirst i' hlt element' helement') (by simp [hnamed'])
          · apply heq
          · apply absurd (hfirst' i hgt element helement) (by simp [hnamed])
        subst hi
        cases helement.symm.trans helement'
        apply List.mem_cons_self
    | @inside place j outer child _ hinterior hchild hnode ih =>
        apply mem_takenInFrom_iff.mpr
        right
        rcases mem_takenInFrom_iff.mp ih with ⟨rfl, rfl⟩ | ⟨k, next, rest, hnext, hnext', hrest, rfl⟩
        · use j, child, [], hchild, hnode, mem_takenIn_iff.mpr (.inl ⟨rfl, rfl⟩)
          rfl
        · have hinterior' : DescribesInterior outer := by
            apply hinterior.resolve_left
            simp
          use k, next, rest ++ [j], hnext, hnext'
          constructor
          · apply mem_takenIn_append_singleton hrest hinterior' hchild hnode
          · rfl

/-! ### The order of the document -/

/-- The places among some children come in lexicographic order if those in each child do. -/
theorem pairwise_takenInBelow
    (h : ∀ child ∈ children, ((takenIn child).map Prod.fst).Pairwise (· < ·)) (i : Nat) :
  ((takenInBelow i children).map Prod.fst).Pairwise (· < ·)
  := by
  induction children generalizing i with
  | nil => apply List.Pairwise.nil
  | cons child children ih =>
      obtain ⟨hchild, hchildren⟩ := List.forall_mem_cons.mp h
      rw [takenInBelow, List.map_append, List.pairwise_append]
      refine ⟨?inside, ih hchildren (i + 1), ?later⟩
      case inside =>
        split
        · rw [List.map_map, List.pairwise_map]
          apply (List.pairwise_map.mp hchild).imp
          intro first second hlt
          apply List.cons_lt_cons_iff.mpr
          right
          use rfl, hlt
        · apply List.Pairwise.nil
      case later =>
        intro _ hfirst _ hsecond
        obtain ⟨⟨_, inner⟩, hlater, rfl⟩ := List.mem_map.mp hsecond
        obtain ⟨j, _, rest, _, _, _, rfl⟩ := mem_takenInBelow_iff.mp hlater
        split at hfirst
        · obtain ⟨_, hearlier, rfl⟩ := List.mem_map.mp hfirst
          obtain ⟨_, -, rfl⟩ := List.mem_map.mp hearlier
          apply List.cons_lt_cons_iff.mpr
          left
          omega
        · cases hfirst

/-- The places of the elements that are taken in with an element come in lexicographic order. -/
theorem pairwise_takenIn (element : Xml.Node) :
  ((takenIn element).map Prod.fst).Pairwise (· < ·)
  := by
  induction element using Xml.Node.induction with
  | step element ih =>
      rw [takenIn_eq, List.map_cons, List.pairwise_cons]
      split
      · use fun _ => nofun
        apply List.Pairwise.nil
      · use fun place hplace => ?_
        · apply pairwise_takenInBelow ih
        · obtain ⟨⟨_, inner⟩, hinner, rfl⟩ := List.mem_map.mp hplace
          obtain ⟨j, _, rest, _, _, _, rfl⟩ := mem_takenInBelow_iff.mp hinner
          apply List.nil_lt_cons

theorem pairwise_takenInFrom (i : Nat) (element : Xml.Node) :
  ((takenInFrom i element).map Prod.fst).Pairwise (· < ·)
  := by
  rw [takenInFrom, List.map_cons, List.pairwise_cons]
  constructor
  · intro place hplace
    obtain ⟨⟨_, inner⟩, hinner, rfl⟩ := List.mem_map.mp hplace
    obtain ⟨⟨below, inner⟩, hbelow, hmap⟩ := List.mem_map.mp hinner
    cases hmap
    obtain ⟨j, _, rest, _, _, _, rfl⟩ := mem_takenInBelow_iff.mp hbelow
    apply List.cons_lt_cons_iff.mpr
    right
    use rfl
    apply List.nil_lt_cons
  · have hchildren : ∀ child ∈ element.children,
        ((takenIn child).map Prod.fst).Pairwise (· < ·) := fun child _ => pairwise_takenIn child
    have hbelow := pairwise_takenInBelow hchildren 0
    rw [List.map_map, List.pairwise_map]
    apply (List.pairwise_map.mp hbelow).imp
    intro first second hlt
    apply List.cons_lt_cons_iff.mpr
    right
    use rfl, hlt

/-! ### The nodes that elements describe -/

theorem Node.preorder_eq (depth : Nat) (node : Node) :
  node.preorder depth = (depth, node) :: preorderAll (depth + 1) node.children
  := by
  cases node
  rfl

theorem preorderAll_describedNodes
    (h : ∀ child ∈ children, ∀ depth, (describedNode child).preorder depth
      = (takenIn child).map fun taken => (depth + taken.1.length, describedNode taken.2))
    (depth i : Nat) :
  Node.preorderAll (depth + 1) (describedNodes children)
    = (takenInBelow i children).map
        fun taken => (depth + taken.1.length, describedNode taken.2)
  := by
  induction children generalizing i with
  | nil => rfl
  | cons child children ih =>
      obtain ⟨hchild, hchildren⟩ := List.forall_mem_cons.mp h
      rw [describedNodes, takenInBelow, List.map_append, ← ih hchildren]
      split
      · rw [Node.preorderAll, hchild, List.map_map]
        congr 1
        apply List.map_congr_left
        rintro ⟨place, inner⟩ -
        simp only [Function.comp_apply, Prod.map, List.length_cons, id, Nat.add_assoc,
          Nat.add_comm 1]
      · rfl

/-- The nodes of the tree that an element describes are, one by one, those which the elements
describe that are taken in with it. They stand as deep in the tree as the elements in the element. -/
theorem preorder_describedNode (depth : Nat) (element : Xml.Node) :
  (describedNode element).preorder depth
    = (takenIn element).map fun taken => (depth + taken.1.length, describedNode taken.2)
  := by
  induction element using Xml.Node.induction generalizing depth with
  | step element ih =>
      rw [takenIn_eq, Node.preorder_eq, List.map_cons]
      congr 1
      cases hleaf : describesLeaf element with
      | true =>
          rw [describedNode_of_leaf hleaf]
          rfl
      | false =>
          rw [describedNode_of_interior hleaf, nodeElements, ← describedNodes_eq_map,
            if_neg Bool.false_ne_true]
          apply preorderAll_describedNodes ih

/-- An element at its place in a document describes a node at its depth in a tree. Only the root may
be named by its type, and whether it is a leaf is not for its element to say. -/
structure Describes (typeId : String) (taken : List Nat × Xml.Node) (described : Nat × Node) :
    Prop where
  depth : taken.1.length = described.1 + 1
  name : described.2.name = (taken.2.childText? "NodeName").getD
    (if described.1 = 0 then rootName typeId else wildcard)
  interior : described.1 ≠ 0 → (described.2.isLeaf = false ↔ DescribesInterior taken.2)
  value : described.1 ≠ 0 → described.2.isLeaf = true →
    described.2.value = (taken.2.childText? "Value").getD ""

theorem describes_describedNode
    (typeId : String) {depth : Nat} (hdepth : depth ≠ 0) (hplace : place.length = depth + 1)
    (element : Xml.Node) :
  Describes typeId (place, element) (depth, describedNode element)
  := by
  constructor
  · apply hplace
  · rw [if_neg hdepth]
    apply name_describedNode
  · intro _
    rw [isLeaf_describedNode, describesLeaf_eq_false_iff]
  · intro _ hleaf
    rw [isLeaf_describedNode] at hleaf
    rw [describedNode_of_leaf hleaf]
    rfl

/-- The elements that the reading of a document takes in describe the nodes of the tree, in order. -/
theorem forall₂_takenInFrom (i : Nat) (element : Xml.Node) (typeId : String) :
  List.Forall₂ (Describes typeId)
    (takenInFrom i element) ((ofElement element typeId).root.preorder 0)
  := by
  have hbelow : Node.preorderAll 1 (describedNodes element.children)
      = (takenInBelow 0 element.children).map
          fun taken => (0 + taken.1.length, describedNode taken.2) :=
    preorderAll_describedNodes (fun child _ depth => preorder_describedNode depth child) 0 0
  rw [Node.preorder_eq, takenInFrom]
  apply List.Forall₂.cons
  · constructor
    · rfl
    · rfl
    · intro h
      apply absurd rfl h
    · intro h
      apply absurd rfl h
  · change List.Forall₂ _ _ (Node.preorderAll 1 (describedNodes element.children))
    rw [hbelow, List.forall₂_map_left_iff, List.forall₂_map_right_iff, List.forall₂_same]
    rintro ⟨place, inner⟩ hinner
    obtain ⟨j, _, rest, _, _, _, rfl⟩ := mem_takenInBelow_iff.mp hinner
    apply describes_describedNode
    · simp
    · simp

/-! ### Well-formed trees -/

theorem rootName_ne_empty (typeId : String) :
  rootName typeId ≠ ""
  := by
  unfold rootName
  split
  · decide
  · dsimp only
    split
    · decide
    · next h =>
        intro hempty
        apply h
        simpa using hempty

/-- A node has a name; if it is a leaf it has no children, and otherwise no value. -/
structure Node.WellFormed (node : Node) : Prop where
  name_ne_empty : node.name ≠ ""
  children_eq_nil : node.isLeaf = true → node.children = []
  value_eq_empty : node.isLeaf = false → node.value = ""

theorem wellFormed_describedNode (element : Xml.Node) :
  (describedNode element).WellFormed
  := by
  constructor
  · rw [name_describedNode]
    apply describedName_ne_empty
  · intro hleaf
    rw [isLeaf_describedNode] at hleaf
    rw [describedNode_of_leaf hleaf, Node.leaf]
  · intro hinterior
    rw [isLeaf_describedNode] at hinterior
    rw [describedNode_of_interior hinterior]

theorem isLeaf_root_ofElement_iff (element : Xml.Node) (typeId : String) :
  (ofElement element typeId).root.isLeaf = true ↔ (ofElement element typeId).root.children = []
  := List.isEmpty_iff

theorem wellFormed_root_ofElement (element : Xml.Node) (typeId : String) :
  (ofElement element typeId).root.WellFormed
  := by
  constructor
  · change (element.childText? "NodeName").getD (rootName typeId) ≠ ""
    cases hname : element.childText? "NodeName" with
    | some name => apply Xml.Node.ne_empty_of_childText? hname
    | none => apply rootName_ne_empty
  · apply (isLeaf_root_ofElement_iff element typeId).mp
  · intro _
    rfl

/-- All nodes of the tree that a description gives are well formed. -/
theorem wellFormed_of_mem_nodes_ofElement (element : Xml.Node) (typeId : String) :
  ∀ node ∈ (ofElement element typeId).root.nodes, node.WellFormed
  := by
  rw [Node.nodes_eq, List.forall_mem_cons]
  use wellFormed_root_ofElement element typeId
  intro node hnode
  obtain ⟨-, -, inner, -, rfl⟩ := mem_descendants_ofElement_iff.mp hnode
  apply wellFormed_describedNode

theorem rootElement_eq_ok_iff {document : Xml.Node} :
  rootElement document = .ok element
    ↔ document.isNamed "MgmtTree" = true ∧ document.child? "Node" = some element
  := by
  cases document with
  | element name children =>
      by_cases hname : name = "MgmtTree"
      · subst hname
        rw [rootElement, if_pos rfl]
        cases (Xml.Node.element "MgmtTree" children).child? "Node" <;> simp [Xml.Node.isNamed]
      · simp [rootElement, hname, Xml.Node.isNamed]
  | text content => simp [rootElement, Xml.Node.isNamed]
  | aside => simp [rootElement, Xml.Node.isNamed]

/-- The nodes of the tree that a description gives, each before its children, are those of the
elements which the reading of its document takes in, one by one and in the order of the document.
What an element says of its node is kept: its name, whether it is a leaf, the value of a leaf, and
its depth. All nodes are well formed, and the root is a leaf only if it has no children. -/
theorem ofXml_follows_document (typeId : String) :
  (∀ xml schema, ofXml xml typeId = .ok schema
      ↔ ∃ document element, Xml.rootOf? xml = some document ∧ rootElement document = .ok element
        ∧ ofElement element typeId = schema)
    ∧ ∀ document element, rootElement document = .ok element →
        let root := (ofElement element typeId).root
        (document.isNamed "MgmtTree" = true ∧ document.child? "Node" = some element)
        ∧ (∃ taken : List (List Nat × Xml.Node),
            (taken.map Prod.fst).Pairwise (· < ·)
            ∧ (∀ place inner, (place, inner) ∈ taken ↔ Ingests document place inner)
            ∧ List.Forall₂ (Describes typeId) taken (root.preorder 0))
        ∧ (∀ node ∈ root.nodes, node.WellFormed)
        ∧ root.value = "" ∧ (root.isLeaf = true ↔ root.children = [])
  := by
  use fun xml schema => ofXml_eq_ok_iff
  intro document element helement root
  have hroot := rootElement_eq_ok_iff.mp helement
  obtain ⟨i, hi, hnamed, hfirst⟩ := exists_getElem?_of_child? hroot.2
  refine ⟨hroot, ?taken, ?nodes, rfl, ?leaf⟩
  case taken =>
    use takenInFrom i element, pairwise_takenInFrom i element
    constructor
    · intro place inner
      apply mem_takenInFrom_iff_ingests hi hnamed hfirst
    · apply forall₂_takenInFrom
  case nodes =>
    apply wellFormed_of_mem_nodes_ofElement
  case leaf =>
    apply isLeaf_root_ofElement_iff

/-- What stands in a declared leaf is not taken in, nor is a second tree of the document. -/
theorem ofXml_follows_document_declared_leaf :
  let xml := "<MgmtTree><VerDTD/><Node><Node><NodeName>O</NodeName><DFProperties><DFFormat><chr/>"
    ++ "</DFFormat></DFProperties><Value>o</Value><Node/></Node><Node><Node/></Node></Node><Node/>"
    ++ "</MgmtTree>"
  let tree : Node :=
    ⟨"fumo", false, "", [.leaf "O" "o", ⟨"*", false, "", [.leaf "*" ""]⟩]⟩
  ∃ document element, Xml.rootOf? xml = some document ∧ rootElement document = .ok element
    ∧ (ofElement element "urn:oma:mo:oma-fumo:1.0").root = tree
    ∧ ∃ taken : List (List Nat × Xml.Node),
        (taken.map Prod.fst).Pairwise (· < ·)
        ∧ (∀ place inner, (place, inner) ∈ taken ↔ Ingests document place inner)
        ∧ List.Forall₂ (Describes "urn:oma:mo:oma-fumo:1.0") taken (tree.preorder 0)
  := by
  intro xml tree
  obtain ⟨htexts, hdocuments⟩ := ofXml_follows_document "urn:oma:mo:oma-fumo:1.0"
  have hxml : ofXml xml "urn:oma:mo:oma-fumo:1.0" = .ok ⟨tree, none⟩ := by
    decide +kernel
  obtain ⟨document, element, hdocument, helement, hschema⟩ := (htexts _ _).mp hxml
  have htree : (ofElement element "urn:oma:mo:oma-fumo:1.0").root = tree := by
    rw [hschema]
  obtain ⟨-, htaken, -⟩ := hdocuments document element helement
  rw [htree] at htaken
  exact ⟨document, element, hdocument, helement, htree, htaken⟩

end Schema

end DeviceManagement
