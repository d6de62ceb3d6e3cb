import DeviceManagement.ManagedObject.Memory
import DeviceManagement.Proofs.Trees
import Mathlib.Data.List.Induction
import Mathlib.Data.List.TakeWhile

/-!
# Contents of objects in memory

The contents of an object in memory are a map from lists of names to values, which has a value
wherever the tree of the object has a node. `Contents.write` says in terms of this map what a
write does, and `Contents.after` what a history of writes has come to. The tree, with its
siblings of one name and the nodes it grows on the way, follows the map exactly.
-/

namespace DeviceManagement

/-! ### Looking up and writing in a tree -/

namespace Schema.Node

variable {node node' : Node} {data name : String} {names : List String} {addMissing : Bool}

/-- The value of the node reached along the given names. -/
def valueAt? (node : Node) (names : List String) : Option String :=
  (node.find? names).map value

theorem valueAt?_cons (node : Node) (name : String) (names : List String) :
  node.valueAt? (name :: names) = (node.child? name).bind fun child => child.valueAt? names
  := by
  rw [valueAt?, find?_cons, Option.map_bind]
  rfl

/-- A leaf without children has no value but its own. -/
theorem valueAt?_leaf_cons (leafName data name : String) (names : List String) :
  (leaf leafName data).valueAt? (name :: names) = none
  := valueAt?_cons ..

/-- A write to a node below goes to the first child with the name, or else to a new leaf at the
end, if one may be created. -/
theorem write?_cons (data : String) (addMissing : Bool) (name : String) (names : List String)
    (node : Node) :
  (∃ before child after, node.children = before ++ child :: after ∧ child.name = name ∧
      (∀ sibling ∈ before, sibling.name ≠ name) ∧
      write? data addMissing (name :: names) node
        = (write? data addMissing names child).map fun child' =>
            { node with children := before ++ child' :: after }) ∨
  ((∀ child ∈ node.children, child.name ≠ name) ∧
    write? data addMissing (name :: names) node
      = if addMissing then
          (write? data addMissing names (leaf name "")).map fun child' =>
            { node with isLeaf := false, children := node.children ++ [child'] }
        else
          none)
  := by
  have hsplit := List.takeWhile_append_dropWhile (p := fun child : Node => child.name != name)
    (l := node.children)
  cases hdrop : node.children.dropWhile fun child => child.name != name with
  | cons child after =>
      left
      refine ⟨node.children.takeWhile fun child => child.name != name, child, after,
        ?_, ?_, ?_, ?_⟩
      · rw [← hdrop]
        exact hsplit.symm
      · have hhead := List.head?_dropWhile_not (fun child : Node => child.name != name)
          node.children
        rw [hdrop] at hhead
        exact bne_eq_false_iff_eq.mp hhead
      · intro sibling hsibling
        exact bne_iff_ne.mp
          (List.mem_takeWhile_imp (p := fun child : Node => child.name != name) hsibling)
      · simp only [write?, hdrop]
        cases write? data addMissing names child <;> rfl
  | nil =>
      right
      constructor
      · intro child hchild
        exact bne_iff_ne.mp (List.dropWhile_eq_nil_iff.mp hdrop child hchild)
      · simp only [write?, hdrop]
        cases write? data addMissing names (leaf name "") <;> rfl

/-- A write has made `node'` of `node`: where the names end it sets the value, and on the way there
it replaces the first child with the next name, or adds one that has been made of a new leaf. -/
inductive Written (data : String) (addMissing : Bool) : List String → Node → Node → Prop
  | value (node : Node) : Written data addMissing [] node { node with value := data }
  | child {name : String} {names : List String} {node child child' : Node}
      {before after : List Node} (hsplit : node.children = before ++ child :: after)
      (hname : child.name = name) (hbefore : ∀ sibling ∈ before, sibling.name ≠ name)
      (hchild : Written data addMissing names child child') :
      Written data addMissing (name :: names) node
        { node with children := before ++ child' :: after }
  | newChild {name : String} {names : List String} {node child' : Node}
      (hadd : addMissing = true) (hnew : ∀ child ∈ node.children, child.name ≠ name)
      (hchild : Written data addMissing names (leaf name "") child') :
      Written data addMissing (name :: names) node
        { node with isLeaf := false, children := node.children ++ [child'] }

theorem written_of_write? (h : write? data addMissing names node = some node') :
  Written data addMissing names node node'
  := by
  induction names generalizing node node' with
  | nil =>
      cases h
      apply Written.value
  | cons name names ih =>
      obtain ⟨before, child, after, hsplit, hname, hbefore, hwrite⟩ | ⟨hnew, hwrite⟩ :=
        write?_cons data addMissing name names node
      · rw [hwrite] at h
        obtain ⟨child', hchild', rfl⟩ := Option.map_eq_some_iff.mp h
        apply Written.child hsplit hname hbefore (ih hchild')
      · rw [hwrite] at h
        split at h
        · next hadd =>
            obtain ⟨child', hchild', rfl⟩ := Option.map_eq_some_iff.mp h
            apply Written.newChild hadd hnew (ih hchild')
        · cases h

/-- A write does not rename a node. -/
theorem Written.name_eq (h : Written data addMissing names node node') :
  node'.name = node.name
  := by
  cases h <;> rfl

/-- The first child with a name, beside the children with other names. -/
theorem child?_of_split
    {before after : List Node} {child : Node} (hsplit : node.children = before ++ child :: after)
    (hname : child.name = name) (hbefore : ∀ sibling ∈ before, sibling.name ≠ name)
    (other : String) :
  node.child? other
    = if other = name then some child
      else (before ++ after).find? fun sibling => sibling.name == other
  := by
  rw [child?, hsplit, List.find?_append, List.find?_append]
  split
  · next hother =>
      have hnone : (before.find? fun sibling => sibling.name == other) = none := by
        apply List.find?_eq_none.mpr
        intro sibling hsibling
        rw [hother, beq_iff_eq]
        exact hbefore sibling hsibling
      rw [hnone, List.find?_cons_of_pos (by rw [hother, hname, beq_self_eq_true]), Option.none_or]
  · next hother =>
      have hchild : (child.name == other) = false := by
        rw [hname, beq_eq_false_iff_ne]
        exact Ne.symm hother
      simp only [List.find?_cons, hchild]

/-- A write to a node below writes to the child with the name, or to a new leaf in its place, and
leaves the value of the node and its other children as they are. -/
theorem Written.exists_child (h : Written data addMissing (name :: names) node node') :
  ∃ child', Written data addMissing names ((node.child? name).getD (leaf name "")) child' ∧
    node'.value = node.value ∧
    ∀ other, node'.child? other = if other = name then some child' else node.child? other
  := by
  cases h with
  | @child _ _ _ child child' before after hsplit hname hbefore hchild =>
      have hold := child?_of_split hsplit hname hbefore
      refine ⟨child', ?_, rfl, ?_⟩
      · rw [hold, if_pos rfl]
        apply hchild
      · intro other
        rw [child?_of_split rfl (hchild.name_eq.trans hname) hbefore, hold]
        split <;> rfl
  | @newChild _ _ _ child' hadd hnew hchild =>
      refine ⟨child', ?_, rfl, ?_⟩
      · rw [child?_eq_none_iff.mpr hnew]
        apply hchild
      · intro other
        rw [child?_of_split rfl hchild.name_eq hnew, List.append_nil]
        rfl

/-- A write that may create nodes always takes effect, and another does if the node is there. -/
theorem isSome_write? (data : String) (addMissing : Bool) (names : List String) (node : Node) :
  (write? data addMissing names node).isSome = (addMissing || (node.valueAt? names).isSome)
  := by
  induction names generalizing node with
  | nil =>
      rw [write?, Option.isSome_some, show (node.valueAt? []).isSome = true from rfl, Bool.or_true]
  | cons name names ih =>
      rw [valueAt?_cons]
      obtain ⟨before, child, after, hsplit, hname, hbefore, hwrite⟩ | ⟨hnone, hwrite⟩ :=
        write?_cons data addMissing name names node
      · rw [hwrite, Option.isSome_map, ih, child?_of_split hsplit hname hbefore, if_pos rfl]
        rfl
      · rw [hwrite, child?_eq_none_iff.mpr hnone]
        cases addMissing with
        | false => rfl
        | true =>
            rw [if_pos rfl, Option.isSome_map, ih]
            rfl

/-- After a write, the node written to has the value, the nodes above it that were missing have
the empty value, and all others have the value they had. -/
theorem Written.valueAt?_eq
    (h : Written data addMissing names node node') (others : List String) :
  node'.valueAt? others
    = if others = names then some data
      else (node.valueAt? others).or (if others <+: names then some "" else none)
  := by
  induction names generalizing node node' others with
  | nil =>
      cases h
      cases others with
      | nil => rfl
      | cons other others =>
          rw [if_neg (List.cons_ne_nil _ _), if_neg (by simp), Option.or_none]
          rfl
  | cons name names ih =>
      obtain ⟨child', hchild', hvalue, hchildren⟩ := h.exists_child
      cases others with
      | nil =>
          rw [if_neg (List.cons_ne_nil _ _).symm]
          exact congrArg some hvalue
      | cons other others =>
          simp only [valueAt?_cons, hchildren, List.cons.injEq, List.cons_prefix_cons]
          by_cases hother : other = name
          · subst hother
            rw [if_pos rfl, Option.bind_some, ih hchild']
            cases node.child? other with
            | some child => simp
            | none =>
                cases others with
                | nil => simp [valueAt?, find?, leaf]
                | cons next others => simp [valueAt?_leaf_cons]
          · simp [hother]

end Schema.Node

/-! ### Contents and changes -/

/-- What a tree holds: the value at each list of names, where there is a node. -/
abbrev Contents : Type :=
  List String → Option String

/-- A change to an object in memory. -/
inductive Change where
  /-- The application stores a value, and says whether missing nodes may be created. -/
  | store (path data : String) (addMissing : Bool)
  /-- The value is written as to any managed object. -/
  | write (path data : String)

namespace Change

/-- The path of the node that is changed. -/
def path : Change → String
  | store path _ _ | write path _ => path

/-- The names on the way to the node that is changed. -/
def names (change : Change) : List String :=
  NodePath.segments change.path

/-- The new value of the node. -/
def data : Change → String
  | store _ data _ | write _ data => data

/-- Whether missing nodes may be created. -/
def addMissing : Change → Bool
  | store _ _ addMissing => addMissing
  | write _ _ => true

end Change

namespace Contents

/-- The contents after a value has been written. Nodes on the way to it that were missing hold
the empty value. -/
def write (c : Contents) (names : List String) (data : String) : Contents :=
  fun others =>
    if others = names then some data
    else (c others).or (if others <+: names then some "" else none)

/-- The contents after a history of changes: the last value written under the same names, or else
the value there was, or else the empty value where the history has gone below. -/
def after (c : Contents) (history : List Change) : Contents :=
  fun names =>
    ((history.filter fun change => change.names = names).getLast?.map Change.data).or
      ((c names).or (if history.any fun change => names <+: change.names then some "" else none))

/-- Those among some changes that take effect: a change that may create nodes always does, and
another if the node is there by then. -/
def effective (c : Contents) (changes : List Change) : List Change :=
  changes.foldl (fun history change =>
    if change.addMissing || (c.after history change.names).isSome then history ++ [change]
    else history) []

theorem effective_append_singleton (c : Contents) (changes : List Change) (change : Change) :
  c.effective (changes ++ [change])
    = if change.addMissing || (c.after (c.effective changes) change.names).isSome then
        c.effective changes ++ [change]
      else
        c.effective changes
  := by
  rw [effective, List.foldl_append]
  rfl

theorem after_nil (c : Contents) :
  c.after [] = c
  := by
  funext names
  simp [after]

/-- A history goes on with a write. -/
theorem after_append_singleton (c : Contents) (history : List Change) (change : Change) :
  c.after (history ++ [change]) = (c.after history).write change.names change.data
  := by
  funext names
  unfold after write
  by_cases hnames : names = change.names
  · subst hnames
    simp
  · have hfilter : (history ++ [change]).filter (fun change => change.names = names)
        = history.filter fun change => change.names = names := by
      simp [Ne.symm hnames]
    have hany : (if (history ++ [change]).any fun change => names <+: change.names then some ""
          else none)
        = (if history.any fun change => names <+: change.names then some "" else none).or
            (if names <+: change.names then some "" else none) := by
      rw [List.any_append]
      cases history.any fun change => names <+: change.names <;> simp
    rw [if_neg hnames, hfilter, hany, Option.or_assoc, Option.or_assoc]

end Contents

/-! ### The contents of an object -/

namespace MemoryObject

open NodePath

/-- What the tree of an object holds. -/
def contents (o : MemoryObject) : Contents :=
  o.root.valueAt?

/-- The object after a change. -/
def perform (o : MemoryObject) : Change → MemoryObject
  | .store path data addMissing => (o.set path data addMissing).value
  | .write path data => (ManagedObject.write o path data).2

theorem get?_eq_contents (o : MemoryObject) (path : String) :
  o.get? path = o.contents (segments path)
  := rfl

theorem read_eq_contents (o : MemoryObject) (path : String) :
  ManagedObject.read o path = (o.contents (segments path)).elim .missing .present
  := by
  change read o path = _
  rw [read, get?_eq_contents]
  cases o.contents (segments path) <;> rfl

theorem perform_eq (o : MemoryObject) (change : Change) :
  o.perform change = (o.set change.path change.data change.addMissing).value
  := by
  cases change <;> rfl

variable {o : MemoryObject} {path data : String} {addMissing : Bool}

/-- A change that does not take effect leaves an object as it is. -/
theorem value_set_of_missing (h : (addMissing || (o.get? path).isSome) = false) :
  (o.set path data addMissing).value = o
  := by
  have hnone : o.root.write? data addMissing (segments path) = none := by
    rw [← Option.not_isSome_iff_eq_none, Schema.Node.isSome_write?, Bool.not_eq_true]
    exact h
  rw [set, hnone]

/-- A change that takes effect writes the value into the contents. -/
theorem contents_set (h : (addMissing || (o.get? path).isSome) = true) :
  (o.set path data addMissing).value.contents = o.contents.write (segments path) data
  := by
  have hsome : (o.root.write? data addMissing (segments path)).isSome = true := by
    rw [Schema.Node.isSome_write?]
    exact h
  obtain ⟨root, hroot⟩ := Option.isSome_iff_exists.mp hsome
  rw [set, hroot]
  funext others
  apply (Schema.Node.written_of_write? hroot).valueAt?_eq

theorem contents_perform (o : MemoryObject) (change : Change) :
  (o.perform change).contents
    = if change.addMissing || (o.contents change.names).isSome then
        o.contents.write change.names change.data
      else
        o.contents
  := by
  rw [perform_eq]
  split
  · next heffective => exact contents_set heffective
  · next hmissing =>
      rw [value_set_of_missing (Bool.not_eq_true _ ▸ hmissing)]

/-- After some changes an object holds what those that take effect have come to. -/
theorem contents_foldl_perform (o : MemoryObject) (changes : List Change) :
  (changes.foldl perform o).contents = o.contents.after (o.contents.effective changes)
  := by
  induction changes using List.reverseRecOn with
  | nil => exact o.contents.after_nil.symm
  | append_singleton changes change ih =>
      rw [List.foldl_append, List.foldl_cons, List.foldl_nil, contents_perform, ih,
        Contents.effective_append_singleton]
      split
      · rw [Contents.after_append_singleton]
      · rfl

/-- An object in memory holds a value for each list of names. A value that is set is found at
every path with the same names, whether or not siblings share a name; the nodes above it that
were missing hold the empty value, if they may be created, and all others hold what they held. A
value that is set at a missing node which may not be created changes nothing. So after any
changes, a reading gives the last value that was written under the same names, or else the value
the object started with, or else the empty value where a node has been created below. -/
theorem set_refines_contents (o : MemoryObject) :
  (∀ path data addMissing,
    (addMissing = true ∨ (o.get? path).isSome → ∀ other,
      (o.set path data addMissing).value.get? other
        = if segments other = segments path then some data
          else
            match o.get? other with
            | some value => some value
            | none =>
              if segments other <+: segments path ∧ segments other ≠ segments path then some ""
              else none) ∧
    (addMissing = false → o.get? path = none → (o.set path data addMissing).value = o)) ∧
  ∀ changes path,
    let history := o.contents.effective changes
    ManagedObject.read (changes.foldl perform o) path
      = match (history.filter fun change => change.names = segments path).getLast? with
        | some change => .present change.data
        | none =>
          match o.get? path with
          | some value => .present value
          | none =>
            if history.any fun change => segments path <+: change.names then .present ""
            else .missing
  := by
  refine ⟨fun path data addMissing => ⟨?_, ?_⟩, ?_⟩
  · intro h other
    have heffective : (addMissing || (o.get? path).isSome) = true := by
      rw [Bool.or_eq_true]
      exact h
    rw [get?_eq_contents, contents_set heffective, Contents.write, ← get?_eq_contents]
    split
    · rfl
    · next hother =>
        simp only [ne_eq, hother, not_false_eq_true, and_true]
        cases o.get? other <;> rfl
  · intro hadd hnone
    apply value_set_of_missing
    rw [hadd, hnone]
    rfl
  · intro changes path history
    rw [read_eq_contents, contents_foldl_perform, Contents.after]
    cases (history.filter fun change => change.names = segments path).getLast? with
    | some change => rfl
    | none =>
        rw [Option.map_none, Option.none_or, get?_eq_contents]
        cases o.contents (segments path) with
        | some value => rfl
        | none =>
            rw [Option.none_or]
            split <;> rfl

/-- Of two siblings with one name the first one counts, and it gets the new child. -/
theorem set_refines_contents_siblings :
  let o := ofRoot ⟨"root", false, "", [.leaf "a" "1", .leaf "a" "2"]⟩
  (o.set "a/b/c" "x" true).value.get? "/a/b/c/" = some "x" ∧
    (o.set "a/b/c" "x" true).value.get? "a/b" = some "" ∧
    (o.set "a/b/c" "x" true).value.get? "a" = some "1" ∧
    (o.set "b" "x" false).value = o
  := by
  intro o
  obtain ⟨hset, -⟩ := set_refines_contents o
  have hwritten := (hset "a/b/c" "x" true).1 (.inl rfl)
  refine ⟨?_, ?_, ?_, (hset "b" "x" false).2 rfl (by decide +kernel)⟩
  · rw [hwritten]
    decide +kernel
  · rw [hwritten]
    decide +kernel
  · rw [hwritten]
    decide +kernel

end MemoryObject

end DeviceManagement
