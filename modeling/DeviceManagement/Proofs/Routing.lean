import DeviceManagement.Proofs.Inventory
import DeviceManagement.Proofs.Paths

/-!
# Where a write fails

An address is read name by name on its way from the catalog to the schema of a type, and every
reader takes off one separator in front for itself. If no two separators are adjacent, then the
readers agree with the list of all names of the address, whose first two are the ids of a type
and of an instance, and whose others lead to a node. So the names alone settle why a write fails
(`Catalog.refusal`).
-/

namespace DeviceManagement

open NodePath

theorem ManagedType.instance?_eq_none_iff {t : ManagedType} {instanceId : String} :
  t.instance? instanceId = none ↔ instanceId ∉ t.instanceIds
  := by
  rw [instance?, List.lookup_eq_none_iff]
  constructor
  · intro h hmem
    obtain ⟨placed, hplaced, rfl⟩ := List.mem_map.mp hmem
    exact bne_iff_ne.mp (h placed hplaced) rfl
  · intro h placed hplaced
    rw [bne_iff_ne]
    rintro rfl
    exact h (List.mem_map_of_mem hplaced)

namespace Catalog

variable {c : Catalog} {t : ManagedType}

theorem type?_eq_none_iff {typeId : String} :
  c.type? typeId = none ↔ typeId ∉ c.typeIds
  := by
  rw [← type?_isSome_iff, Option.not_isSome_iff_eq_none]

/-! ### Refusals -/

/-- The first thing that is wrong with an address of the given names: there is no such type, no
such instance of it, or no such node, or else nothing but that nodes cannot be written. The fault
tells the path of the node, or the whole place. -/
def refusal (c : Catalog) (names : List String) (nodePath place : String) : Fault :=
  let typeId := names.headD ""
  let instanceId := names.tail.headD ""
  match c.type? typeId with
  | none => .unknownType typeId
  | some t =>
    if instanceId ∉ t.instanceIds then
      .unknownInstance typeId instanceId
    else if t.schema.find? names.tail.tail = none then
      .unknownNode typeId nodePath
    else
      .writeUnavailable place

/-- A write is refused for the names of its address. The path and the place that the fault may
tell have the names that they stand for. -/
theorem exists_write_eq_refusal {uri : String} (h : IsSingle uri) (value : Json.Value) :
  ∃ nodePath place, segments nodePath = (segments uri).tail.tail ∧ segments place = segments uri
    ∧ c.write uri value = .error (c.refusal (segments uri) nodePath place)
  := by
  obtain ⟨htype, hrest, hsingle, hplace⟩ := h.reads
  obtain ⟨hinstance, hnode, -, -⟩ := hsingle.reads
  rw [hrest] at hinstance hnode
  use (splitFirst (splitFirst uri).2).2, (splitFirst uri).1 ++ "/" ++ (splitFirst uri).2
  refine ⟨hnode, hplace, ?_⟩
  unfold write refusal
  dsimp only
  rw [htype]
  cases hfound : c.type? ((segments uri).headD "") with
  | none => rfl
  | some t =>
      unfold ManagedType.write
      dsimp only
      rw [typeId_of_type?_eq_some hfound, hinstance, hnode]
      simp only [Option.isNone_iff_eq_none, ManagedType.instance?_eq_none_iff,
        apply_ite Except.error]

section

variable {names : List String} {nodePath place : String}

theorem refusal_eq_unknownType_iff :
  c.refusal names nodePath place = .unknownType (names.headD "") ↔ names.headD "" ∉ c.typeIds
  := by
  rw [← type?_eq_none_iff, refusal]
  cases c.type? (names.headD "") with
  | none => simp
  | some t =>
      dsimp only
      split
      · simp
      · split <;> simp

variable (h : c.type? (names.headD "") = some t)
include h

theorem refusal_eq_unknownInstance_iff :
  c.refusal names nodePath place = .unknownInstance (names.headD "") (names.tail.headD "")
    ↔ names.tail.headD "" ∉ t.instanceIds
  := by
  rw [refusal, h]
  dsimp only
  split
  · next hunknown => exact iff_of_true rfl hunknown
  · next hknown =>
      refine iff_of_false ?_ hknown
      split <;> rintro ⟨⟩

variable (hinstance : names.tail.headD "" ∈ t.instanceIds)
include hinstance

/-- For an instance that there is, only the node can be missing. -/
theorem refusal_of_mem :
  c.refusal names nodePath place
    = if t.schema.find? names.tail.tail = none then
        .unknownNode (names.headD "") nodePath
      else
        .writeUnavailable place
  := by
  rw [refusal, h]
  apply if_neg (not_not_intro hinstance)

theorem refusal_eq_unknownNode_iff {path : String} :
  c.refusal names nodePath place = .unknownNode (names.headD "") path
    ↔ nodePath = path ∧ t.schema.find? names.tail.tail = none
  := by
  rw [refusal_of_mem h hinstance]
  split
  · next hnone => simp [hnone]
  · next hsome => simp [hsome]

theorem refusal_eq_writeUnavailable_iff {node : String} :
  c.refusal names nodePath place = .writeUnavailable node
    ↔ place = node ∧ t.schema.find? names.tail.tail ≠ none
  := by
  rw [refusal_of_mem h hinstance]
  split
  · next hnone => simp [hnone]
  · next hsome => simp [hsome]

end

/-! ### Writes -/

/-- An address in which no two separators are adjacent, with one in front and one at the end or
not, is routed by its names: the first is the id of a type, the second that of an instance, and
the others lead to a node. No write to it succeeds, and the fault names the first of the three
that is unknown, or the whole place if none is. -/
theorem write_routed_by_segments
    (c : Catalog) {uri : String} (h : IsSingle uri) (value : Json.Value) :
  let names := segments uri
  let typeId := names.headD ""
  let instanceId := names.tail.headD ""
  let below := names.tail.tail
  (∃ fault, c.write uri value = .error fault)
    ∧ (c.writeLogged uri value).value = false
    ∧ (c.write uri value = .error (.unknownType typeId) ↔ typeId ∉ c.typeIds)
    ∧ ∀ t, c.type? typeId = some t →
      (c.write uri value = .error (.unknownInstance typeId instanceId)
        ↔ instanceId ∉ t.instanceIds)
      ∧ (instanceId ∈ t.instanceIds →
        ((∃ nodePath, segments nodePath = below
            ∧ c.write uri value = .error (.unknownNode typeId nodePath))
          ↔ t.schema.find? below = none)
        ∧ ((∃ place, segments place = names
            ∧ c.write uri value = .error (.writeUnavailable place))
          ↔ t.schema.find? below ≠ none))
  := by
  intro names typeId instanceId below
  obtain ⟨nodePath, place, hnodePath, hplace, hwrite⟩ := exists_write_eq_refusal (c := c) h value
  have hfault (fault : Fault) : c.write uri value = .error fault
      ↔ c.refusal names nodePath place = fault := by
    rw [hwrite, Except.error.injEq]
  constructor
  · exact ⟨_, hwrite⟩
  constructor
  · rw [writeLogged, hwrite]
  constructor
  · rw [hfault]
    apply refusal_eq_unknownType_iff
  intro t htype
  constructor
  · rw [hfault]
    apply refusal_eq_unknownInstance_iff htype
  intro hinstance
  constructor
  · constructor
    · rintro ⟨path, -, hpath⟩
      apply ((refusal_eq_unknownNode_iff htype hinstance).mp ((hfault _).mp hpath)).2
    · intro hnone
      use nodePath, hnodePath
      apply (hfault _).mpr
      apply (refusal_eq_unknownNode_iff htype hinstance).mpr ⟨rfl, hnone⟩
  · constructor
    · rintro ⟨node, -, hnode⟩
      apply ((refusal_eq_writeUnavailable_iff htype hinstance).mp ((hfault _).mp hnode)).2
    · intro hsome
      use place, hplace
      apply (hfault _).mpr
      apply (refusal_eq_writeUnavailable_iff htype hinstance).mpr ⟨rfl, hsome⟩

/-- With a separator in front and one at the end, an address leads to a node that there is not. -/
theorem write_routed_by_segments_trailing :
  let tree : Schema.Node := ⟨"T", false, "", [⟨"A", false, "", [.leaf "B" ""]⟩]⟩
  let c : Catalog := ⟨[⟨"t", none, tree, [("x", 0), ("1", 1)]⟩]⟩
  IsSingle "/t/1/A/C/" ∧ segments "/t/1/A/C/" = ["t", "1", "A", "C"]
    ∧ (c.writeLogged "/t/1/A/C/" .null).value = false
    ∧ ∃ nodePath, segments nodePath = ["A", "C"]
      ∧ c.write "/t/1/A/C/" .null = .error (.unknownNode "t" nodePath)
  := by
  intro tree c
  have hsingle : IsSingle "/t/1/A/C/" := by decide +kernel
  have hnames : segments "/t/1/A/C/" = ["t", "1", "A", "C"] := by decide +kernel
  obtain ⟨-, hlogged, -, hrouted⟩ := write_routed_by_segments c hsingle .null
  rw [hnames] at hrouted
  obtain ⟨-, hnode⟩ := hrouted _ rfl
  exact ⟨hsingle, hnames, hlogged, (hnode (by decide)).1.mpr (by decide)⟩

/-- Of two adjacent separators the second is taken for one in front of the rest, and the empty
name between them is lost. -/
example :
  let c : Catalog := ⟨[⟨"t", none, .interior "T", [("", 0)]⟩]⟩
  segments "t//A" = ["t", "", "A"] ∧ c.write "t//A" .null = .error (.unknownInstance "t" "A")
  := by
  decide +kernel

end Catalog

end DeviceManagement
