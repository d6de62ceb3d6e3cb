import DeviceManagement.Proofs.Trees

/-!
# What a dump shows

The dump of a tree is one JSON object, in which the members of objects stand for the children of
nodes. `Json.Value.entries` lists all members of a dump and `Schema.Node.entries` all nodes below
the root of a tree, both with the names that lead to them. Where siblings have the same name, only
one of them has a member. So the two lists agree if and only if siblings have distinct names: a
dump never has more members than there are nodes, and it has fewer as soon as a name repeats.
-/

namespace DeviceManagement

/-! ### Members of members -/

namespace Json

mutual

/-- The members of an object and of the objects in it, each before the members of its own value,
with the names that lead to it. -/
def Value.entries : Value → List (List String × Value)
  | .object members => memberEntries members
  | _ => []

/-- The given members and those of the objects in them. -/
def memberEntries : List (String × Value) → List (List String × Value)
  | [] => []
  | (name, value) :: members =>
    ([name], value) :: value.entries.map (Prod.map (name :: ·) id) ++ memberEntries members

end

theorem length_memberEntries_cons
    (name : String) (value : Value) (members : List (String × Value)) :
  (memberEntries ((name, value) :: members)).length
    = 1 + value.entries.length + (memberEntries members).length
  := by
  rw [memberEntries, List.length_append, List.length_cons, List.length_map, Nat.add_comm 1]

theorem length_memberEntries_append (members members' : List (String × Value)) :
  (memberEntries (members ++ members')).length
    = (memberEntries members).length + (memberEntries members').length
  := by
  induction members with
  | nil => apply (Nat.zero_add _).symm
  | cons member members ih =>
      obtain ⟨name, value⟩ := member
      rw [List.cons_append, length_memberEntries_cons, length_memberEntries_cons, ih]
      omega

/-- A member that replaces another adds less than what it has. -/
theorem length_memberEntries_insert_lt
    {name : String} {members : List (String × Value)} (h : name ∈ members.map Prod.fst)
    (value : Value) :
  (memberEntries (insert name value members)).length
    < (memberEntries members).length + (1 + value.entries.length)
  := by
  induction members with
  | nil => cases h
  | cons member members ih =>
      obtain ⟨other, value'⟩ := member
      rw [insert]
      split
      · rw [length_memberEntries_cons, length_memberEntries_cons]
        omega
      · next hname =>
          have hmem : name ∈ members.map Prod.fst := by
            simpa [Ne.symm hname] using h
          have := ih hmem
          rw [length_memberEntries_cons, length_memberEntries_cons]
          omega

/-- Members that are set in turn add at most what they have, and less if a name repeats. -/
theorem length_memberEntries_foldl_insert (start members : List (String × Value)) :
  let object := members.foldl (fun object member => insert member.1 member.2 object) start
  let total := (memberEntries start).length + (memberEntries members).length
  (memberEntries object).length ≤ total
    ∧ ((memberEntries object).length = total →
        (members.map Prod.fst).Nodup ∧ ∀ name ∈ members.map Prod.fst, name ∉ start.map Prod.fst)
  := by
  induction members generalizing start with
  | nil => exact ⟨Nat.le_refl _, fun _ => ⟨.nil, fun _ => nofun⟩⟩
  | cons member members ih =>
      obtain ⟨name, value⟩ := member
      obtain ⟨hle, heq⟩ := ih (insert name value start)
      rw [List.foldl_cons, length_memberEntries_cons]
      dsimp only at hle heq ⊢
      by_cases hname : name ∈ start.map Prod.fst
      · have hlt := length_memberEntries_insert_lt hname value
        constructor
        · omega
        · omega
      · have hinsert : (memberEntries (insert name value start)).length
            = (memberEntries start).length + (1 + value.entries.length) := by
          rw [insert_of_notMem hname, length_memberEntries_append, length_memberEntries_cons]
          rfl
        constructor
        · omega
        · intro htotal
          obtain ⟨hnodup, hnew⟩ := heq (by omega)
          simp only [insert_of_notMem hname, List.map_append, List.map_cons, List.map_nil,
            List.mem_append, List.mem_singleton, not_or] at hnew
          rw [List.map_cons, List.nodup_cons, List.forall_mem_cons]
          exact ⟨⟨fun hmem => (hnew name hmem).2 rfl, hnodup⟩, hname,
            fun other hmem => (hnew other hmem).1⟩

/-- Members of an object are at most those it is given, and fewer if a name repeats. -/
theorem length_memberEntries_insertAll (members : List (String × Value)) :
  (memberEntries (insertAll members)).length ≤ (memberEntries members).length
    ∧ ((memberEntries (insertAll members)).length = (memberEntries members).length →
        (members.map Prod.fst).Nodup)
  := by
  obtain ⟨hle, heq⟩ := length_memberEntries_foldl_insert [] members
  rw [memberEntries, List.length_nil, Nat.zero_add] at hle heq
  exact ⟨hle, fun h => (heq h).1⟩

end Json

/-! ### Nodes and the members for them -/

namespace Schema.Node

mutual

/-- The nodes below a node, each before its children, with the names that lead to it. -/
def entries : Node → List (List String × Node)
  | ⟨_, _, _, children⟩ => entriesAll children

/-- The given nodes and those below them. -/
def entriesAll : List Node → List (List String × Node)
  | [] => []
  | node :: nodes =>
    ([node.name], node) :: node.entries.map (Prod.map (node.name :: ·) id) ++ entriesAll nodes

end

theorem entries_eq (node : Node) :
  node.entries = entriesAll node.children
  := by
  cases node
  rfl

/-- Nothing stands below the leaves of a tree, except for its root. -/
def BareLeaves (node : Node) : Prop :=
  ∀ inner ∈ node.descendants, inner.isLeaf = true → inner.children = []

variable {node child : Node} {nodes : List Node}

namespace BareLeaves

theorem of_mem (h : node.BareLeaves) (hchild : child ∈ node.children) :
  child.BareLeaves
  := by
  intro inner hinner
  apply h inner (descendants_subset_descendants hchild hinner)

/-- The content of a node below the root has a member for each node that the content of its
children has one for. -/
theorem entries_content (h : node.BareLeaves) (hchild : child ∈ node.children) :
  child.content.entries = child.childrenContent.entries
  := by
  cases hleaf : child.isLeaf with
  | true =>
      have hchildren := h child (nodes_subset_descendants hchild child.self_mem_nodes) hleaf
      obtain ⟨name, isLeaf, value, children⟩ := child
      cases hleaf
      cases hchildren
      rfl
  | false => rw [content_of_interior hleaf]

end BareLeaves

theorem memberEntries_memberContents
    (h : ∀ node ∈ nodes, node.content.entries = node.entries.map (Prod.map id content)) :
  Json.memberEntries (memberContents nodes) = (entriesAll nodes).map (Prod.map id content)
  := by
  induction nodes with
  | nil => rfl
  | cons node nodes ih =>
      rw [List.forall_mem_cons] at h
      rw [memberContents, Json.memberEntries, entriesAll, h.1, ih h.2, List.map_append,
        List.map_cons, List.map_map, List.map_map]
      rfl

/-- If siblings have distinct names, then a dump shows every node below the root. -/
theorem DistinctSiblings.entries_childrenContent
    (h : node.DistinctSiblings) (hbare : node.BareLeaves) :
  node.childrenContent.entries = node.entries.map (Prod.map id content)
  := by
  induction node using Node.induction with
  | step node ih =>
      have hnodup := h.nodup
      rw [← map_fst_memberContents] at hnodup
      rw [childrenContent, Json.insertAll_of_nodup hnodup, Json.Value.entries, entries_eq]
      apply memberEntries_memberContents
      intro child hchild
      rw [hbare.entries_content hchild]
      apply ih child hchild (h.of_mem hchild) (hbare.of_mem hchild)

theorem length_memberEntries_memberContents
    (h : ∀ node ∈ nodes, node.content.entries.length ≤ node.entries.length) :
  (Json.memberEntries (memberContents nodes)).length ≤ (entriesAll nodes).length
    ∧ ((Json.memberEntries (memberContents nodes)).length = (entriesAll nodes).length →
        ∀ node ∈ nodes, node.content.entries.length = node.entries.length)
  := by
  induction nodes with
  | nil => exact ⟨Nat.le_refl 0, fun _ _ => nofun⟩
  | cons node nodes ih =>
      rw [List.forall_mem_cons] at h
      obtain ⟨hle, heq⟩ := ih h.2
      have hnode := h.1
      rw [memberContents, Json.length_memberEntries_cons, entriesAll, List.length_append,
        List.length_cons, List.length_map]
      constructor
      · omega
      · intro htotal
        rw [List.forall_mem_cons]
        exact ⟨by omega, heq (by omega)⟩

/-- A dump shows at most as many nodes as there are, and fewer if siblings have the same name. -/
theorem length_entries_childrenContent (hbare : node.BareLeaves) :
  node.childrenContent.entries.length ≤ node.entries.length
    ∧ (node.childrenContent.entries.length = node.entries.length → node.DistinctSiblings)
  := by
  induction node using Node.induction with
  | step node ih =>
      have hcontent : ∀ child ∈ node.children,
          child.content.entries.length ≤ child.entries.length := by
        intro child hchild
        rw [hbare.entries_content hchild]
        apply (ih child hchild (hbare.of_mem hchild)).1
      obtain ⟨hinsert, hinsert'⟩ :=
        Json.length_memberEntries_insertAll (memberContents node.children)
      obtain ⟨hmembers, hmembers'⟩ := length_memberEntries_memberContents hcontent
      rw [childrenContent, Json.Value.entries, entries_eq]
      constructor
      · omega
      · intro hall
        rw [distinctSiblings_iff_children, ← map_fst_memberContents]
        use hinsert' (by omega)
        intro child hchild
        apply (ih child hchild (hbare.of_mem hchild)).2
        rw [← hbare.entries_content hchild]
        apply hmembers' (by omega) child hchild

/-- A dump shows every node below the root if and only if siblings have distinct names. -/
theorem distinctSiblings_iff_entries (hbare : node.BareLeaves) :
  node.DistinctSiblings
    ↔ node.childrenContent.entries = node.entries.map (Prod.map id content)
  := by
  constructor
  · intro h
    apply h.entries_childrenContent hbare
  · intro h
    apply (length_entries_childrenContent hbare).2
    rw [h, List.length_map]

end Schema.Node

end DeviceManagement
