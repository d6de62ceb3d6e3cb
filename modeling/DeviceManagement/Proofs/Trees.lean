import DeviceManagement.Proofs.Paths
import DeviceManagement.Schema.Basic
import Mathlib.Data.List.Nodup

/-!
# Trees of nodes

A tree is proved about by `Node.induction`, from the children of a node to the node. The nodes of
a tree are `nodes`, and those under its root are `descendants`. If siblings have distinct names,
and the names can be told apart in a path, then a tree is `Addressable`: every node is found along
the names on the way to it, and these names can be read back from a path.
-/

namespace DeviceManagement.Schema.Node

/-- What holds of a node whenever it holds of its children holds of every node. -/
theorem induction
    {motive : Node → Prop}
    (step : ∀ node : Node, (∀ child ∈ node.children, motive child) → motive node)
    (node : Node) :
  motive node
  := by
  apply @Node.rec motive fun nodes => ∀ child ∈ nodes, motive child
  · intro name isLeaf value children ih
    exact step ⟨name, isLeaf, value, children⟩ ih
  · intro child hchild
    cases hchild
  · intro head tail hhead htail
    exact List.forall_mem_cons.mpr ⟨hhead, htail⟩

/-! ### Comparing -/

mutual

/-- Whether two nodes are equal. -/
def decEq : (a b : Node) → Decidable (a = b)
  | ⟨name, isLeaf, value, children⟩, ⟨name', isLeaf', value', children'⟩ =>
    have := decEqAll children children'
    decidable_of_iff
      (name = name' ∧ isLeaf = isLeaf' ∧ value = value' ∧ children = children') (by simp)

/-- Whether two lists of nodes are equal. -/
def decEqAll : (as bs : List Node) → Decidable (as = bs)
  | [], [] => isTrue rfl
  | [], _ :: _ => isFalse nofun
  | _ :: _, [] => isFalse nofun
  | a :: as, b :: bs =>
    have := decEq a b
    have := decEqAll as bs
    decidable_of_iff (a = b ∧ as = bs) (by simp)

end

instance : DecidableEq Node :=
  decEq

deriving instance DecidableEq for Schema

/-! ### Looking up -/

theorem find?_nil (node : Node) :
  node.find? [] = some node
  := rfl

theorem find?_cons (node : Node) (name : String) (names : List String) :
  node.find? (name :: names) = (node.child? name).bind fun child => child.find? names
  := List.foldlM_cons

theorem find?_append (node : Node) (names more : List String) :
  node.find? (names ++ more) = (node.find? names).bind fun inner => inner.find? more
  := List.foldlM_append

variable {node child : Node} {name : String}

theorem mem_of_child?_eq_some (h : node.child? name = some child) :
  child ∈ node.children ∧ child.name = name
  := by
  have hname := List.find?_some (p := fun child : Node => child.name == name) h
  exact ⟨List.mem_of_find?_eq_some h, beq_iff_eq.mp hname⟩

theorem child?_eq_none_iff :
  node.child? name = none ↔ ∀ child ∈ node.children, child.name ≠ name
  := by
  simp [child?]

/-- A child is found by its name if no other child has it. -/
theorem child?_of_mem
    (h : (node.children.map Node.name).Nodup) (hchild : child ∈ node.children) :
  node.child? child.name = some child
  := by
  cases hfound : node.child? child.name with
  | some found =>
      obtain ⟨hmem, hname⟩ := mem_of_child?_eq_some hfound
      rw [List.inj_on_of_nodup_map h hmem hchild hname]
  | none => exact absurd rfl (child?_eq_none_iff.mp hfound child hchild)

/-! ### Contents -/

theorem map_fst_memberContents (nodes : List Node) :
  (memberContents nodes).map Prod.fst = nodes.map Node.name
  := by
  induction nodes with
  | nil => rfl
  | cons node nodes ih => rw [memberContents, List.map_cons, List.map_cons, ih]

theorem content_of_interior {node : Node} (h : node.isLeaf = false) :
  node.content = node.childrenContent
  := by
  cases node
  cases h
  rfl

/-! ### All nodes of a tree -/

/-- A node and all nodes under it, each before its children. -/
def nodes (node : Node) : List Node :=
  (node.preorder 0).map Prod.snd

/-- The nodes under a node, each before its children. -/
def descendants (node : Node) : List Node :=
  node.children.flatMap nodes

/-- The distance from the root plays no part in which nodes there are. -/
theorem map_snd_preorder (depth : Nat) (node : Node) :
  (node.preorder depth).map Prod.snd = node :: node.descendants
  := by
  have hall : ∀ children : List Node, ∀ depth,
      (∀ child ∈ children, ∀ depth,
        (child.preorder depth).map Prod.snd = child :: child.descendants) →
      (preorderAll depth children).map Prod.snd = children.flatMap nodes := by
    intro children depth hchildren
    induction children with
    | nil => rfl
    | cons child children ih =>
        rw [List.forall_mem_cons] at hchildren
        rw [preorderAll, List.map_append, hchildren.1, ih hchildren.2, List.flatMap_cons, nodes,
          hchildren.1]
  induction node using Node.induction generalizing depth with
  | step node ih =>
      obtain ⟨name, isLeaf, value, children⟩ := node
      rw [preorder, List.map_cons, hall children (depth + 1) ih]
      rfl

/-- The nodes of a tree are its root and the nodes below it. -/
theorem nodes_eq (node : Node) :
  node.nodes = node :: node.descendants
  := map_snd_preorder 0 node

theorem self_mem_nodes (node : Node) :
  node ∈ node.nodes
  := by
  rw [nodes_eq]
  exact List.mem_cons_self

theorem descendants_subset_nodes (node : Node) :
  node.descendants ⊆ node.nodes
  := by
  rw [nodes_eq]
  apply List.subset_cons_self

theorem nodes_subset_descendants (h : child ∈ node.children) :
  child.nodes ⊆ node.descendants
  := by
  intro inner hinner
  exact List.mem_flatMap.mpr ⟨child, h, hinner⟩

theorem nodes_subset_nodes (h : child ∈ node.children) :
  child.nodes ⊆ node.nodes
  := List.Subset.trans (nodes_subset_descendants h) node.descendants_subset_nodes

theorem descendants_subset_descendants (h : child ∈ node.children) :
  child.descendants ⊆ node.descendants
  := List.Subset.trans child.descendants_subset_nodes (nodes_subset_descendants h)

/-- Siblings have distinct names throughout a tree. -/
def DistinctSiblings (node : Node) : Prop :=
  ∀ inner ∈ node.nodes, (inner.children.map Node.name).Nodup

instance (node : Node) : Decidable node.DistinctSiblings :=
  inferInstanceAs (Decidable (∀ inner ∈ node.nodes, _))

namespace DistinctSiblings

theorem nodup (h : node.DistinctSiblings) :
  (node.children.map Node.name).Nodup
  := h node node.self_mem_nodes

theorem of_mem (h : node.DistinctSiblings) (hchild : child ∈ node.children) :
  child.DistinctSiblings
  := by
  intro inner hinner
  apply h inner (nodes_subset_nodes hchild hinner)

end DistinctSiblings

theorem distinctSiblings_iff_children :
  node.DistinctSiblings
    ↔ (node.children.map Node.name).Nodup ∧ ∀ child ∈ node.children, child.DistinctSiblings
  := by
  constructor
  · intro h
    exact ⟨h.nodup, fun child hchild => h.of_mem hchild⟩
  · rintro ⟨hnodup, hchildren⟩
    rw [DistinctSiblings, nodes_eq, List.forall_mem_cons]
    use hnodup
    intro inner hinner
    obtain ⟨child, hchild, hinner⟩ := List.mem_flatMap.mp hinner
    exact hchildren child hchild inner hinner

/-- Every node below the root of a tree is determined by the path of the names to it. -/
structure Addressable (node : Node) : Prop where
  distinct : node.DistinctSiblings
  named : ∀ inner ∈ node.descendants, NodePath.IsName inner.name

namespace Addressable

theorem nodup (h : node.Addressable) :
  (node.children.map Node.name).Nodup
  := h.distinct.nodup

theorem of_mem (h : node.Addressable) (hchild : child ∈ node.children) :
  child.Addressable
  := by
  constructor
  · exact h.distinct.of_mem hchild
  · intro inner hinner
    apply h.named inner (descendants_subset_descendants hchild hinner)

theorem isName (h : node.Addressable) (hchild : child ∈ node.children) :
  NodePath.IsName child.name
  := h.named child (nodes_subset_descendants hchild child.self_mem_nodes)

theorem of_children_eq
    {node' : Node} (h : node.Addressable) (hchildren : node'.children = node.children) :
  node'.Addressable
  := by
  have hdescendants : node'.descendants = node.descendants := by
    rw [descendants, hchildren, descendants]
  constructor
  · intro inner hinner
    rw [nodes_eq, hdescendants] at hinner
    obtain rfl | hinner := List.mem_cons.mp hinner
    · rw [hchildren]
      exact h.nodup
    · apply h.distinct inner (node.descendants_subset_nodes hinner)
  · rw [hdescendants]
    exact h.named

/-- What is found in an addressable tree is addressable, and so are the names on the way to it. -/
theorem of_find?_eq_some
    {names : List String} {inner : Node} (h : node.Addressable)
    (hfind : node.find? names = some inner) :
  inner.Addressable ∧ ∀ name ∈ names, NodePath.IsName name
  := by
  induction names generalizing node with
  | nil =>
      cases hfind
      exact ⟨h, fun _ => nofun⟩
  | cons name names ih =>
      rw [find?_cons] at hfind
      obtain ⟨child, hchild, hinner⟩ := Option.bind_eq_some_iff.mp hfind
      obtain ⟨hmem, rfl⟩ := mem_of_child?_eq_some hchild
      obtain ⟨haddressable, hnames⟩ := ih (h.of_mem hmem) hinner
      exact ⟨haddressable, List.forall_mem_cons.mpr ⟨h.isName hmem, hnames⟩⟩

/-- The names on the way to a node can be read back from a path. -/
theorem segments_ofSegments
    {names : List String} {inner : Node} (h : node.Addressable)
    (hfind : node.find? names = some inner) :
  NodePath.segments (NodePath.ofSegments names) = names
  := NodePath.segments_ofSegments (h.of_find?_eq_some hfind).2

end Addressable

end DeviceManagement.Schema.Node
