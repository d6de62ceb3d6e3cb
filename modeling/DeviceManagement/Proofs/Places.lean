import DeviceManagement.Proofs.Trees

/-!
# Places in a tree

Equal nodes can stand at different places of a tree, and a place says which child to take at each
step from the root. `StandsAt` gives the node at a place and the names on the way to it. A lookup
by names arrives at a place too, `placeOf?`, as at every step it takes the first child with the
name. If it arrives along the names on the way to each node at the place of that node, then siblings
have distinct names, and conversely.
-/

namespace DeviceManagement.Schema.Node

/-- A node stands at a place of a tree, with names on the way from the root to it. -/
inductive StandsAt : Node → List Nat → List String → Node → Prop
  | root (node : Node) : StandsAt node [] [] node
  | step {node child inner : Node} {i : Nat} {place : List Nat} {names : List String}
      (hchild : node.children[i]? = some child) (h : StandsAt child place names inner) :
      StandsAt node (i :: place) (child.name :: names) inner

/-- The place of the first child with the given name. -/
def firstNamed? (node : Node) (name : String) : Option Nat :=
  node.children.findIdx? fun child => child.name == name

/-- The place at which a lookup along the given names arrives. -/
def placeOf? : Node → List String → Option (List Nat)
  | _, [] => some []
  | node, name :: names =>
    (node.firstNamed? name).bind fun i =>
      node.children[i]?.bind fun child => (child.placeOf? names).map fun place => i :: place

variable {node child inner : Node} {i : Nat} {place : List Nat} {name : String}
  {names : List String}

theorem child?_eq_some_iff :
  node.child? name = some child
    ↔ ∃ i, node.firstNamed? name = some i ∧ node.children[i]? = some child
  := by
  rw [child?, List.find?_eq_bind_findIdx?_getElem?, Option.bind_eq_some_iff, firstNamed?]

theorem placeOf?_cons_eq_some_iff :
  node.placeOf? (name :: names) = some place
    ↔ ∃ i child rest, node.firstNamed? name = some i ∧ node.children[i]? = some child
        ∧ child.placeOf? names = some rest ∧ i :: rest = place
  := by
  simp only [placeOf?, Option.bind_eq_some_iff, Option.map_eq_some_iff, exists_and_left]

theorem standsAt_root_iff :
  node.StandsAt [] names inner ↔ names = [] ∧ inner = node
  := by
  constructor
  · rintro ⟨⟩
    exact ⟨rfl, rfl⟩
  · rintro ⟨rfl, rfl⟩
    exact .root inner

theorem standsAt_cons_iff :
  node.StandsAt (i :: place) names inner
    ↔ ∃ child rest, node.children[i]? = some child ∧ child.StandsAt place rest inner
        ∧ child.name :: rest = names
  := by
  constructor
  · rintro (_ | ⟨hchild, h⟩)
    exact ⟨_, _, hchild, h, rfl⟩
  · rintro ⟨child, rest, hchild, h, rfl⟩
    exact .step hchild h

/-- A lookup gives the node that stands where it arrives. -/
theorem find?_eq_some_iff_standsAt :
  node.find? names = some inner
    ↔ ∃ place, node.placeOf? names = some place ∧ node.StandsAt place names inner
  := by
  induction names generalizing node with
  | nil =>
      rw [find?_nil, Option.some_inj]
      constructor
      · rintro rfl
        exact ⟨[], rfl, .root node⟩
      · rintro ⟨_, ⟨⟩, hstands⟩
        apply (standsAt_root_iff.mp hstands).2.symm
  | cons name names ih =>
      rw [find?_cons]
      simp only [Option.bind_eq_some_iff, child?_eq_some_iff, placeOf?_cons_eq_some_iff, ih]
      constructor
      · rintro ⟨child, ⟨i, hi, hchild⟩, place, hplace, hstands⟩
        have hname : child.name = name := by
          have hfound := child?_eq_some_iff.mpr ⟨i, hi, hchild⟩
          apply (mem_of_child?_eq_some hfound).2
        refine ⟨i :: place, ⟨i, child, place, hi, hchild, hplace, rfl⟩, ?_⟩
        exact hname ▸ .step hchild hstands
      · rintro ⟨_, ⟨i, child, place, hi, hchild, hplace, rfl⟩, hstands⟩
        obtain ⟨child', rest, hchild', hstands, hnames⟩ := standsAt_cons_iff.mp hstands
        cases hchild.symm.trans hchild'
        cases hnames
        exact ⟨child, ⟨i, hi, hchild⟩, place, hplace, hstands⟩

/-! ### Arriving at every place -/

/-- Children have distinct names if and only if each is the first one with its name. -/
theorem nodup_iff_firstNamed? :
  (node.children.map Node.name).Nodup
    ↔ ∀ i child, node.children[i]? = some child → node.firstNamed? child.name = some i
  := by
  constructor
  · intro h i child hchild
    obtain ⟨hi, rfl⟩ := List.getElem?_eq_some_iff.mp hchild
    apply List.findIdx?_eq_some_iff_getElem.mpr
    refine ⟨hi, BEq.rfl, ?_⟩
    intro j hji hname
    have hsame : node.children[j] = node.children[i] :=
      List.inj_on_of_nodup_map h (List.getElem_mem _) (List.getElem_mem hi) (beq_iff_eq.mp hname)
    apply Nat.ne_of_lt hji ((List.Nodup.of_map _ h).getElem_inj_iff.mp hsame)
  · intro h
    rw [List.nodup_iff_injective_getElem]
    intro i j hij
    have hfirst : ∀ k : Fin (node.children.map Node.name).length,
        node.firstNamed? (node.children.map Node.name)[k] = some k.val := by
      intro k
      have hk : k.val < node.children.length := by
        simpa using k.isLt
      simpa using h k node.children[k.val] (List.getElem?_eq_getElem hk)
    have hfirsts : some i.val = some j.val :=
      (hfirst i).symm.trans ((congrArg node.firstNamed? hij).trans (hfirst j))
    apply Fin.ext (Option.some.inj hfirsts)

/-- Siblings have distinct names if and only if a lookup along the names on the way to a node always
arrives at its place. -/
theorem distinctSiblings_iff_placeOf? :
  node.DistinctSiblings
    ↔ ∀ place names inner, node.StandsAt place names inner → node.placeOf? names = some place
  := by
  constructor
  · intro h place names inner hstands
    induction hstands with
    | root node => rfl
    | step hchild _ ih =>
        have hfirst := nodup_iff_firstNamed?.mp h.nodup _ _ hchild
        have hrest := ih (h.of_mem (List.mem_of_getElem? hchild))
        apply placeOf?_cons_eq_some_iff.mpr ⟨_, _, _, hfirst, hchild, hrest, rfl⟩
  · intro h
    induction node using Node.induction with
    | step node ih =>
        -- What a lookup does along the names to a place below a child, it does in two parts.
        have hparts : ∀ i child, node.children[i]? = some child →
            ∀ place names inner, child.StandsAt place names inner →
              node.firstNamed? child.name = some i ∧ child.placeOf? names = some place := by
          intro i child hchild place names inner hstands
          have hplace := h _ _ _ (.step hchild hstands)
          obtain ⟨_, child', _, hfirst, hchild', hrest, ⟨⟩⟩ := placeOf?_cons_eq_some_iff.mp hplace
          cases hchild.symm.trans hchild'
          exact ⟨hfirst, hrest⟩
        rw [distinctSiblings_iff_children]
        constructor
        · rw [nodup_iff_firstNamed?]
          intro i child hchild
          apply (hparts i child hchild [] [] child (.root child)).1
        · intro child hmem
          obtain ⟨i, hchild⟩ := List.mem_iff_getElem?.mp hmem
          apply ih child hmem
          intro place names inner hstands
          apply (hparts i child hchild place names inner hstands).2

end DeviceManagement.Schema.Node
