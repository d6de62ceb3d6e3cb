import DeviceManagement.ManagedObject.Memory
import DeviceManagement.ManagedType.Basic
import DeviceManagement.Proofs.Trees

/-!
# What a report contains

A report is the part of a schema that can be reported. `Schema.Node.Leads` says that names lead
from a node to one below it without passing a leaf, and `ManagedType.Reported` what is reported
of a node: a leaf as its data, and an interior node as an object that is not empty. The two make
up a report: at the names of a node it has what is reported of the node, and nothing elsewhere.
-/

namespace DeviceManagement

/-! ### Members below members -/

namespace Json.Value

/-- The value that is reached from a value along the names of members. -/
def at? (value : Value) (names : List String) : Option Value :=
  names.foldlM (fun inner name => inner.member? name) value

theorem at?_nil (value : Value) :
  value.at? [] = some value
  := rfl

theorem at?_cons (value : Value) (name : String) (names : List String) :
  value.at? (name :: names) = (value.member? name).bind fun inner => inner.at? names
  := List.foldlM_cons

end Json.Value

/-! ### Ways through a tree -/

namespace Schema.Node

/-- Names lead from a node to one below it. The node they start from may be a leaf or not, but
the nodes on the way are interior nodes. -/
inductive Leads : Node → List String → Node → Prop
  | child {node child : Node} (h : child ∈ node.children) : Leads node [child.name] child
  | through {node child inner : Node} {names : List String} (h : child ∈ node.children)
      (hinterior : child.isLeaf = false) (hbelow : Leads child names inner) :
      Leads node (child.name :: names) inner

section

variable {node inner : Node} {name : String} {names : List String}

theorem not_leads_nil :
  ¬ Leads node [] inner
  := by
  intro h
  cases h

theorem leads_singleton_iff (h : node.DistinctSiblings) :
  Leads node [name] inner ↔ node.child? name = some inner
  := by
  constructor
  · intro hleads
    cases hleads with
    | child hchild => exact child?_of_mem h.nodup hchild
    | through hchild hinterior hbelow => exact absurd hbelow not_leads_nil
  · intro hchild
    obtain ⟨hmem, rfl⟩ := mem_of_child?_eq_some hchild
    exact .child hmem

theorem leads_cons_iff (h : node.DistinctSiblings) (hnames : names ≠ []) :
  Leads node (name :: names) inner
    ↔ ∃ child, node.child? name = some child ∧ child.isLeaf = false ∧ Leads child names inner
  := by
  constructor
  · intro hleads
    cases hleads with
    | child hchild => exact absurd rfl hnames
    | @through _ child _ _ hchild hinterior hbelow =>
        use child, child?_of_mem h.nodup hchild
  · rintro ⟨child, hchild, hinterior, hbelow⟩
    obtain ⟨hmem, rfl⟩ := mem_of_child?_eq_some hchild
    exact .through hmem hinterior hbelow

/-- A node that names lead to is found along them. -/
theorem find?_of_leads (h : node.DistinctSiblings) (hleads : Leads node names inner) :
  node.find? names = some inner
  := by
  induction hleads with
  | child hchild =>
      rw [find?_cons, child?_of_mem h.nodup hchild]
      rfl
  | through hchild hinterior hbelow ih =>
      rw [find?_cons, child?_of_mem h.nodup hchild]
      exact ih (h.of_mem hchild)

end

end Schema.Node

/-! ### What is reported of a node -/

/-- A reading that can be reported is that of a node with valid data. -/
theorem Reading.eq_present_of_isReportable {reading : Reading} (h : reading.isReportable) :
  reading = .present reading.data
  := by
  obtain ⟨data, exist, valid⟩ := reading
  rw [isReportable, Bool.and_eq_true] at h
  obtain ⟨rfl, rfl⟩ := h
  rfl

namespace ManagedType

open Schema (Node)

variable {read : String → Reading} {above names : List String} {node : Node}
  {nodes : List Node}

/-- What is reported of a node, given the names on the way to it. -/
inductive Reported (read : String → Reading) (names : List String) (node : Node) :
    Json.Value → Prop
  | leaf {data : String} (h : node.isLeaf)
      (hread : read (NodePath.ofSegments names) = .present data) :
      Reported read names node (.string data)
  | interior (h : node.isLeaf = false) (hmembers : reportNodes read names node.children ≠ []) :
      Reported read names node (.object (reportNodes read names node.children))

/-- Some leaf below a node can be reported, given the names on the way to the node. -/
def HasReportable (read : String → Reading) (names : List String) (node : Node) : Prop :=
  ∃ more leaf, node.Leads more leaf ∧ leaf.isLeaf
    ∧ (read (NodePath.ofSegments (names ++ more))).isReportable

/-- The members of a report are named like some of the nodes, in their order. -/
theorem map_fst_reportNodes_sublist
    (read : String → Reading) (above : List String) (nodes : List Node) :
  ((reportNodes read above nodes).map Prod.fst).Sublist (nodes.map Node.name)
  := by
  induction nodes with
  | nil => exact .slnil
  | cons node nodes ih =>
      rw [reportNodes, List.map_cons]
      split
      · exact ih.cons_cons node.name
      · exact ih.cons node.name

/-- Nodes with different names make an object of all that is reported of them. -/
theorem insertAll_reportNodes (h : (nodes.map Node.name).Nodup) :
  Json.insertAll (reportNodes read above nodes) = reportNodes read above nodes
  := Json.insertAll_of_nodup (h.sublist (map_fst_reportNodes_sublist read above nodes))

theorem reportNode_leaf (h : node.isLeaf) :
  reportNode read above node
    = if (read (NodePath.ofSegments (above ++ [node.name]))).isReportable then
        some (.string (read (NodePath.ofSegments (above ++ [node.name]))).data)
      else
        none
  := by
  obtain ⟨name, isLeaf, value, children⟩ := node
  cases h
  rw [reportNode]

theorem reportNode_interior (h : node.isLeaf = false) :
  reportNode read above node
    = if reportNodes read (above ++ [node.name]) node.children = [] then
        none
      else
        some (.object (Json.insertAll (reportNodes read (above ++ [node.name]) node.children)))
  := by
  obtain ⟨name, isLeaf, value, children⟩ := node
  cases h
  rw [reportNode]
  dsimp only
  cases reportNodes read (above ++ [name]) children with
  | nil => rfl
  | cons member members => rfl

theorem reportNode_eq_some_iff (h : node.DistinctSiblings) (value : Json.Value) :
  reportNode read above node = some value ↔ Reported read (above ++ [node.name]) node value
  := by
  cases hleaf : node.isLeaf with
  | true =>
      rw [reportNode_leaf hleaf]
      constructor
      · intro hvalue
        split at hvalue
        · rename_i hreportable
          cases hvalue
          apply Reported.leaf hleaf
          exact Reading.eq_present_of_isReportable hreportable
        · cases hvalue
      · intro hreported
        cases hreported with
        | leaf _ hread =>
            rw [hread]
            rfl
        | interior hinterior _ => simp [hleaf] at hinterior
  | false =>
      rw [reportNode_interior hleaf, insertAll_reportNodes h.nodup]
      constructor
      · intro hvalue
        split at hvalue
        · cases hvalue
        · rename_i hmembers
          cases hvalue
          exact .interior hleaf hmembers
      · intro hreported
        cases hreported with
        | leaf hleaf' _ => simp [hleaf] at hleaf'
        | interior _ hmembers => rw [if_neg hmembers]

/-! ### Reports without leaves -/

theorem reportNode_ne_none_iff :
  reportNode read above node ≠ none
    ↔ node.isLeaf ∧ (read (NodePath.ofSegments (above ++ [node.name]))).isReportable
      ∨ node.isLeaf = false ∧ reportNodes read (above ++ [node.name]) node.children ≠ []
  := by
  cases hleaf : node.isLeaf with
  | true => simp [reportNode_leaf hleaf]
  | false => simp [reportNode_interior hleaf]

theorem reportNodes_ne_nil_iff_exists :
  reportNodes read above nodes ≠ [] ↔ ∃ node ∈ nodes, reportNode read above node ≠ none
  := by
  induction nodes with
  | nil => simp [reportNodes]
  | cons node nodes ih =>
      rw [reportNodes]
      cases hnode : reportNode read above node with
      | none => simp [hnode, ih]
      | some value => simp [hnode]

theorem hasReportable_iff :
  HasReportable read names node
    ↔ ∃ child ∈ node.children,
        child.isLeaf ∧ (read (NodePath.ofSegments (names ++ [child.name]))).isReportable
          ∨ child.isLeaf = false ∧ HasReportable read (names ++ [child.name]) child
  := by
  constructor
  · rintro ⟨more, leaf, hleads, hleaf, hreportable⟩
    cases hleads with
    | child hchild => exact ⟨leaf, hchild, .inl ⟨hleaf, hreportable⟩⟩
    | @through _ child _ more hchild hinterior hbelow =>
        refine ⟨child, hchild, .inr ⟨hinterior, more, leaf, hbelow, hleaf, ?_⟩⟩
        rw [List.append_assoc]
        exact hreportable
  · rintro ⟨child, hchild, ⟨hleaf, hreportable⟩ | ⟨hinterior, hbelow⟩⟩
    · exact ⟨[child.name], child, .child hchild, hleaf, hreportable⟩
    · obtain ⟨more, leaf, hleads, hleaf, hreportable⟩ := hbelow
      refine ⟨child.name :: more, leaf, .through hchild hinterior hleads, hleaf, ?_⟩
      rw [List.append_assoc] at hreportable
      exact hreportable

/-- A report is empty unless there is a leaf that can be reported. -/
theorem reportNodes_ne_nil_iff :
  reportNodes read names node.children ≠ [] ↔ HasReportable read names node
  := by
  induction node using Node.induction generalizing names with
  | step node ih =>
      rw [reportNodes_ne_nil_iff_exists, hasReportable_iff]
      apply exists_congr
      intro child
      apply and_congr_right
      intro hchild
      rw [reportNode_ne_none_iff, ih child hchild]

/-! ### Walking a report -/

/-- Under a name a report has what is reported of the node with this name. -/
theorem lookup_reportNodes (h : (nodes.map Node.name).Nodup) (name : String) :
  Json.lookup name (reportNodes read above nodes)
    = (nodes.find? fun node => node.name == name).bind (reportNode read above)
  := by
  induction nodes with
  | nil => rfl
  | cons node nodes ih =>
      rw [List.map_cons, List.nodup_cons] at h
      have hrest := ih h.2
      rw [reportNodes]
      by_cases hname : node.name = name
      · have hnone : nodes.find? (fun node => node.name == name) = none := by
          apply List.find?_eq_none.mpr
          intro other hother hsame
          apply h.1
          rw [hname, ← beq_iff_eq.mp hsame]
          exact List.mem_map_of_mem hother
        rw [hnone] at hrest
        rw [List.find?_cons_of_pos (by simpa using hname), Option.bind_some]
        cases hnode : reportNode read above node with
        | none => exact hrest
        | some value => simp [hname, Json.lookup]
      · rw [List.find?_cons_of_neg (by simpa using hname), ← hrest]
        cases reportNode read above node with
        | none => rfl
        | some value => simp [hname, Json.lookup]

/-- Only an interior node has something reported below it. -/
theorem bind_at?_reportNode_eq_some_iff (h : node.DistinctSiblings) (hnames : names ≠ [])
    (value : Json.Value) :
  ((reportNode read above node).bind fun content => content.at? names) = some value
    ↔ node.isLeaf = false
      ∧ (Json.Value.object (reportNodes read (above ++ [node.name]) node.children)).at? names
        = some value
  := by
  obtain ⟨name, names, rfl⟩ := List.exists_cons_of_ne_nil hnames
  cases hleaf : node.isLeaf with
  | true =>
      rw [reportNode_leaf hleaf]
      split <;> simp [Json.Value.at?_cons, Json.Value.member?]
  | false =>
      rw [reportNode_interior hleaf, insertAll_reportNodes h.nodup]
      split
      · rename_i hmembers
        simp [hmembers, Json.Value.at?_cons, Json.Value.member?, Json.lookup]
      · simp

/-- Along names a report has what is reported of the node to which the names lead. -/
theorem at?_reportNodes_eq_some_iff (h : node.DistinctSiblings) (hnames : names ≠ [])
    (value : Json.Value) :
  (Json.Value.object (reportNodes read above node.children)).at? names = some value
    ↔ ∃ inner, node.Leads names inner ∧ Reported read (above ++ names) inner value
  := by
  induction names generalizing node above with
  | nil => exact absurd rfl hnames
  | cons name names ih =>
      have hstep : (Json.Value.object (reportNodes read above node.children)).at? (name :: names)
          = (node.child? name).bind fun child =>
              (reportNode read above child).bind fun content => content.at? names := by
        rw [Json.Value.at?_cons, Json.Value.member?, lookup_reportNodes h.nodup, Option.bind_assoc]
        rfl
      rw [hstep, Option.bind_eq_some_iff]
      cases names with
      | nil =>
          simp only [Node.leads_singleton_iff h, Json.Value.at?_nil, Option.bind_fun_some]
          apply exists_congr
          intro child
          apply and_congr_right
          intro hchild
          obtain ⟨hmem, rfl⟩ := Node.mem_of_child?_eq_some hchild
          exact reportNode_eq_some_iff (h.of_mem hmem) value
      | cons next names =>
          have hrest : next :: names ≠ [] := List.cons_ne_nil next names
          simp only [Node.leads_cons_iff h hrest]
          constructor
          · rintro ⟨child, hchild, hvalue⟩
            obtain ⟨hmem, rfl⟩ := Node.mem_of_child?_eq_some hchild
            have hdistinct := h.of_mem hmem
            obtain ⟨hinterior, hbelow⟩ :=
              (bind_at?_reportNode_eq_some_iff hdistinct hrest value).mp hvalue
            obtain ⟨inner, hleads, hreported⟩ := (ih hdistinct hrest).mp hbelow
            rw [List.append_assoc] at hreported
            exact ⟨inner, ⟨child, hchild, hinterior, hleads⟩, hreported⟩
          · rintro ⟨inner, ⟨child, hchild, hinterior, hleads⟩, hreported⟩
            obtain ⟨hmem, rfl⟩ := Node.mem_of_child?_eq_some hchild
            have hdistinct := h.of_mem hmem
            use child, hchild
            apply (bind_at?_reportNode_eq_some_iff hdistinct hrest value).mpr
            use hinterior
            apply (ih hdistinct hrest).mpr
            use inner, hleads
            rw [List.append_assoc]
            exact hreported

/-! ### Reports of objects -/

variable {M : Type} [ManagedObject M] {t : ManagedType}

theorem report_eq (h : t.schema.DistinctSiblings) (object : M) :
  t.report object
    = .object [(t.schema.name,
        .object (reportNodes (ManagedObject.read object) [] t.schema.children))]
  := by
  rw [report, insertAll_reportNodes h.nodup]

/-- A report is the part of a schema that an object has to report. Behind the name of the root,
names have a string in it if they lead to a leaf with this data, and an object if they lead to an
interior node with a leaf below it that can be reported. They have nothing else, no object is
empty below the root, and members stand in the order of the schema. -/
theorem report_is_reportable_part (h : t.schema.DistinctSiblings) (object : M) :
  let read (names : List String) := ManagedObject.read object (NodePath.ofSegments names)
  ∃ members, t.report object = .object [(t.schema.name, .object members)]
    ∧ (members.map Prod.fst).Sublist (t.schema.children.map Node.name)
    ∧ ∀ names ≠ [],
        let found := (Json.Value.object members).at? names
        (∀ s, found = some (.string s)
            ↔ ∃ leaf, t.schema.Leads names leaf ∧ leaf.isLeaf ∧ read names = .present s)
        ∧ ((∃ inside, found = some (.object inside))
            ↔ ∃ inner, t.schema.Leads names inner ∧ inner.isLeaf = false
              ∧ ∃ more leaf, inner.Leads more leaf ∧ leaf.isLeaf
                ∧ (read (names ++ more)).isReportable)
        ∧ (∀ value, found = some value →
            (∃ s, value = .string s) ∨ ∃ inside, value = .object inside)
        ∧ ∀ inside, found = some (.object inside) →
            inside ≠ [] ∧ ∃ inner, t.schema.Leads names inner
              ∧ (inside.map Prod.fst).Sublist (inner.children.map Node.name)
  := by
  intro read
  use reportNodes (ManagedObject.read object) [] t.schema.children
  constructor
  · exact report_eq h object
  constructor
  · apply map_fst_reportNodes_sublist
  intro names hnames found
  have hfound (value : Json.Value) : found = some value
      ↔ ∃ inner, t.schema.Leads names inner
        ∧ Reported (ManagedObject.read object) names inner value :=
    at?_reportNodes_eq_some_iff h hnames value
  constructor
  · intro s
    rw [hfound]
    apply exists_congr
    intro leaf
    apply and_congr_right
    intro _
    constructor
    · rintro ⟨hleaf, hread⟩
      exact ⟨hleaf, hread⟩
    · rintro ⟨hleaf, hread⟩
      exact .leaf hleaf hread
  constructor
  · constructor
    · rintro ⟨inside, hinside⟩
      obtain ⟨inner, hleads, hreported⟩ := (hfound _).mp hinside
      cases hreported with
      | interior hinterior hmembers =>
          exact ⟨inner, hleads, hinterior, reportNodes_ne_nil_iff.mp hmembers⟩
    · rintro ⟨inner, hleads, hinterior, hbelow⟩
      use reportNodes (ManagedObject.read object) names inner.children
      apply (hfound _).mpr
      use inner, hleads
      exact .interior hinterior (reportNodes_ne_nil_iff.mpr hbelow)
  constructor
  · intro value hvalue
    obtain ⟨inner, -, hreported⟩ := (hfound value).mp hvalue
    cases hreported with
    | leaf _ _ => exact .inl ⟨_, rfl⟩
    | interior _ _ => exact .inr ⟨_, rfl⟩
  · intro inside hinside
    obtain ⟨inner, hleads, hreported⟩ := (hfound _).mp hinside
    cases hreported with
    | interior hinterior hmembers =>
        use hmembers, inner, hleads
        apply map_fst_reportNodes_sublist

/-- A leaf with children is a leaf, and interior nodes without a value below them are left out. -/
theorem report_is_reportable_part_leaf_with_children :
  let tree : Node := ⟨"T", false, "",
    [⟨"A", true, "", [.leaf "B" ""]⟩, ⟨"C", false, "", [.leaf "D" "", .leaf "E" ""]⟩,
      ⟨"F", false, "", [.leaf "G" ""]⟩]⟩
  let t : ManagedType := ⟨"t", none, tree, []⟩
  let o : MemoryObject := .ofRoot ⟨"o", false, "",
    [⟨"A", true, "x", [.leaf "B" "y"]⟩, ⟨"C", false, "", [.leaf "E" "z"]⟩]⟩
  tree.DistinctSiblings
    ∧ t.report o
      = .object [("T", .object [("A", .string "x"), ("C", .object [("E", .string "z")])])]
    ∧ ∃ members, t.report o = .object [("T", .object members)]
      ∧ (Json.Value.object members).at? ["A"] = some (.string "x")
      ∧ ∃ inside, (Json.Value.object members).at? ["C"] = some (.object inside) ∧ inside ≠ []
  := by
  intro tree t o
  let leaf : Node := ⟨"A", true, "", [.leaf "B" ""]⟩
  let inner : Node := ⟨"C", false, "", [.leaf "D" "", .leaf "E" ""]⟩
  have hdistinct : t.schema.DistinctSiblings := by decide +kernel
  have hleaf : t.schema.Leads ["A"] leaf := @Node.Leads.child tree leaf (.head _)
  have hinner : t.schema.Leads ["C"] inner := @Node.Leads.child tree inner (.tail _ (.head _))
  have hbelow : inner.Leads ["E"] (.leaf "E" "") :=
    @Node.Leads.child inner (.leaf "E" "") (.tail _ (.head _))
  have hA : ManagedObject.read o (NodePath.ofSegments ["A"]) = .present "x" := by
    decide +kernel
  have hE : (ManagedObject.read o (NodePath.ofSegments (["C"] ++ ["E"]))).isReportable := by
    decide +kernel
  obtain ⟨members, hreport, -, hnames⟩ := report_is_reportable_part hdistinct o
  obtain ⟨hstring, -⟩ := hnames ["A"] (List.cons_ne_nil _ _)
  obtain ⟨-, hobject, -, hinside⟩ := hnames ["C"] (List.cons_ne_nil _ _)
  obtain ⟨inside, hfound⟩ := hobject.mpr ⟨inner, hinner, rfl, ["E"], .leaf "E" "", hbelow, rfl, hE⟩
  constructor
  · exact hdistinct
  constructor
  · rfl
  use members, hreport
  constructor
  · exact (hstring "x").mpr ⟨leaf, hleaf, rfl, hA⟩
  · exact ⟨inside, hfound, (hinside inside hfound).1⟩

end ManagedType

end DeviceManagement
