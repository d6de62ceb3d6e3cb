import DeviceManagement.Proofs.Inventory
import DeviceManagement.Proofs.Reports

/-!
# Addresses of what is reported

A report gives the address of an instance and a tree of members. Whoever reads it can put the
names of members behind the address of the instance, and has an address at which the catalog
finds this instance and a node of its schema (`Catalog.target?`). This takes distinct ids and
names that can be told apart in a path, which is what `Catalog.Addressable` says.
-/

namespace DeviceManagement

open NodePath

deriving instance DecidableEq for ManagedType

/-! ### Reports and schemas -/

namespace ManagedType

variable {t : ManagedType} {id : String} {handle : Handle}

/-- Whatever is reported of an instance, behind the name of the root, stands at a node of the
schema of its type. -/
theorem exists_find?_of_at?_report
    {M : Type} [ManagedObject M] {object : M} (h : t.schema.Addressable)
    {names : List String} {value : Json.Value}
    (hvalue : (t.report object).at? (t.schema.name :: names) = some value) :
  ∃ node, t.schema.find? names = some node
  := by
  by_cases hnames : names = []
  · subst hnames
    exact ⟨t.schema, rfl⟩
  · have hroot : (t.report object).member? t.schema.name = some (.object
        (reportNodes (ManagedObject.read object) [] t.schema.children)) := by
      rw [report_eq h.distinct]
      simp [Json.Value.member?, Json.lookup]
    rw [Json.Value.at?_cons, hroot, Option.bind_some] at hvalue
    obtain ⟨node, hleads, -⟩ := (at?_reportNodes_eq_some_iff h.distinct hnames value).mp hvalue
    exact ⟨node, Schema.Node.find?_of_leads h.distinct hleads⟩

/-- The object of an instance is found by the id of the instance, if the ids are distinct. -/
theorem instance?_of_mem (h : t.instanceIds.Nodup) (hmem : (id, handle) ∈ t.instances) :
  t.instance? id = some handle
  := by
  obtain ⟨before, after, hsplit⟩ := List.append_of_mem hmem
  rw [instanceIds, hsplit, List.map_append, List.map_cons, List.nodup_append'] at h
  obtain ⟨-, -, hdisjoint⟩ := h
  refine List.lookup_eq_some_iff.mpr ⟨before, after, hsplit, ?_⟩
  intro placed hplaced
  rw [bne_iff_ne]
  rintro rfl
  exact hdisjoint (List.mem_map_of_mem hplaced) List.mem_cons_self

/-! ### Addresses of instances -/

theorem clientUri_append (t : ManagedType) (id rest : String) :
  t.clientUri id ++ rest = t.typeId ++ "/" ++ (id ++ "/" ++ rest)
  := by
  simp only [clientUri, String.append_assoc]

/-- The id of the type is the first name of an address, and the id of the instance is the second,
with one separator more in front or not. -/
theorem splitFirst_clientUri
    (h : IsName t.typeId) {front : String} (hfront : front ∈ ["", "/"]) (id rest : String) :
  splitFirst (front ++ (t.clientUri id ++ rest)) = (t.typeId, id ++ "/" ++ rest)
  := by
  rw [clientUri_append]
  simp only [List.mem_cons, List.not_mem_nil, or_false] at hfront
  obtain rfl | rfl := hfront
  · rw [String.empty_append, splitFirst_append h]
  · exact splitFirst_slash_append h.2 _

/-- The address of an instance determines the ids of its type and of itself. -/
theorem clientUri_inj
    {u : ManagedType} {other : String} (ht : IsName t.typeId) (hu : IsName u.typeId)
    (hid : IsName id) (hother : IsName other) (h : t.clientUri id = u.clientUri other) :
  t.typeId = u.typeId ∧ id = other
  := by
  have hsplit := splitFirst_clientUri ht (List.mem_cons_self (a := "")) id ""
  rw [h, splitFirst_clientUri hu List.mem_cons_self] at hsplit
  obtain ⟨htype, hpath⟩ := Prod.mk.inj hsplit
  have hinstance := splitFirst_append hid ""
  rw [← hpath, splitFirst_append hother] at hinstance
  exact ⟨htype.symm, (Prod.mk.inj hinstance).1.symm⟩

end ManagedType

/-! ### Where addresses lead -/

/-- Where an address leads: to an instance of a type, and to a node of the schema of the type. -/
structure Target where
  type : ManagedType
  instanceId : String
  handle : Handle
  node : Schema.Node

namespace Catalog

variable {c : Catalog}

/-- Where an address leads in a catalog. -/
def target? (c : Catalog) (uri : String) : Option Target :=
  let (typeId, path) := splitFirst uri
  let (instanceId, nodePath) := splitFirst path
  (c.type? typeId).bind fun type =>
    (type.instance? instanceId).bind fun handle =>
      (type.schema.find? (segments nodePath)).map fun node => ⟨type, instanceId, handle, node⟩

/-- Where an address leads somewhere, a write passes the look-ups of the type, of the instance
and of the node, and fails then. -/
theorem write_of_target?_eq_some
    {uri : String} {target : Target} (h : c.target? uri = some target) (value : Json.Value) :
  c.write uri value
    = .error (.writeUnavailable (target.type.typeId ++ "/" ++ (splitFirst uri).2))
  := by
  unfold target? at h
  dsimp only at h
  obtain ⟨type, htype, h⟩ := Option.bind_eq_some_iff.mp h
  obtain ⟨handle, hinstance, h⟩ := Option.bind_eq_some_iff.mp h
  obtain ⟨node, hnode, rfl⟩ := Option.map_eq_some_iff.mp h
  unfold write
  dsimp only
  rw [htype]
  dsimp only
  unfold ManagedType.write
  dsimp only
  rw [hinstance, hnode]
  rfl

/-- The ids and the names that make up an address can be told apart in it. -/
structure Addressable (c : Catalog) : Prop where
  typeIds : ∀ typeId ∈ c.typeIds, IsName typeId
  instanceIds : ∀ t ∈ c.types, ∀ id ∈ t.instanceIds, IsName id
  schemas : ∀ t ∈ c.types, t.schema.Addressable

namespace Addressable

variable (h : c.Addressable) (htypes : c.typeIds.Nodup)
  (hinstances : ∀ t ∈ c.types, t.instanceIds.Nodup)
include h htypes hinstances

/-- The address of an instance, followed by the names of a node, leads to them. -/
theorem target?_eq_some
    {t : ManagedType} (ht : t ∈ c.types) {id : String} {handle : Handle}
    (hmem : (id, handle) ∈ t.instances) {names : List String} {node : Schema.Node}
    (hnode : t.schema.find? names = some node) {front : String} (hfront : front ∈ ["", "/"]) :
  c.target? (front ++ (t.clientUri id ++ ofSegments names)) = some ⟨t, id, handle, node⟩
  := by
  have htypeId := h.typeIds t.typeId (List.mem_map_of_mem ht)
  have hid := h.instanceIds t ht id (List.mem_map_of_mem hmem)
  unfold target?
  rw [ManagedType.splitFirst_clientUri htypeId hfront]
  dsimp only
  rw [splitFirst_append hid]
  dsimp only
  rw [(type?_eq_some_iff htypes).mpr ⟨ht, rfl⟩, Option.bind_some,
    ManagedType.instance?_of_mem (hinstances t ht) hmem, Option.bind_some,
    (h.schemas t ht).segments_ofSegments hnode, hnode]
  rfl

/-- Distinct instances have distinct addresses. -/
theorem nodup_clientUris :
  (c.types.flatMap fun t => t.instanceIds.map t.clientUri).Nodup
  := by
  have htypeIds : ∀ t ∈ c.types, IsName t.typeId := fun t ht =>
    h.typeIds t.typeId (List.mem_map_of_mem ht)
  refine List.nodup_flatMap.mpr ⟨?_, ?_⟩
  · intro t ht
    apply List.Nodup.map_on _ (hinstances t ht)
    intro id hid other hother hsame
    exact (ManagedType.clientUri_inj (htypeIds t ht) (htypeIds t ht)
      (h.instanceIds t ht id hid) (h.instanceIds t ht other hother) hsame).2
  · refine (List.pairwise_map.mp htypes).imp_of_mem ?_
    intro t u ht hu hdiffer uri huri huri'
    obtain ⟨id, hid, rfl⟩ := List.mem_map.mp huri
    obtain ⟨other, hother, hsame⟩ := List.mem_map.mp huri'
    exact hdiffer (ManagedType.clientUri_inj (htypeIds t ht) (htypeIds u hu)
      (h.instanceIds t ht id hid) (h.instanceIds u hu other hother) hsame.symm).1

end Addressable

theorem map_clientUri_reports {M : Type} [ManagedObject M] (c : Catalog) (objects : Store M) :
  (c.reports objects).map InstanceReport.clientUri
    = c.types.flatMap fun t => t.instanceIds.map t.clientUri
  := by
  simp only [reports, ManagedType.reports, ManagedType.instanceIds, List.map_flatMap,
    List.map_map]
  rfl

end Catalog

/-! ### Runs -/

namespace Inventory

variable {M : Type} [ManagedObject M]

/-- Whatever is reported of an instance can be addressed. If the ids and the names of a catalog
can be told apart in an address, then every report is that of an instance, and for every way
along the members of its tree, the address of the instance followed by the names on the way, with
one separator more in front or not, leads to this instance and to a node of its schema. A write
there passes all look-ups, and says that it is the node at this address that cannot be written.
No two reports have the same address. -/
theorem reports_lead_to_instances
    (store : Store M) (ops : List (Operation M)) (objects : Store M) :
  let c := (after store ops).catalog
  c.Addressable →
    (∀ entry ∈ c.reports objects, ∃ t ∈ c.types, ∃ id handle, (id, handle) ∈ t.instances ∧
      entry = ⟨t.clientUri id, t.report (objects handle)⟩ ∧
      ∀ names value, entry.tree.at? (t.schema.name :: names) = some value →
        ∃ node, t.schema.find? names = some node ∧ ∀ front ∈ ["", "/"],
          let uri := front ++ (entry.clientUri ++ ofSegments names)
          c.target? uri = some ⟨t, id, handle, node⟩ ∧
            ∀ content, c.write uri content
              = .error (.writeUnavailable
                  (t.typeId ++ "/" ++ id ++ "/" ++ ofSegments names))) ∧
    ((c.reports objects).map InstanceReport.clientUri).Nodup
  := by
  intro c h
  have hgrown : c.Grown (ops.filterMap Operation.offer?) := grown_after store ops
  constructor
  · intro entry hentry
    rw [Catalog.reports_eq_placements] at hentry
    obtain ⟨⟨t, id, handle⟩, hplacement, rfl⟩ := List.mem_map.mp hentry
    obtain ⟨t', ht, hinstance⟩ := List.mem_flatMap.mp hplacement
    obtain ⟨placed, hplaced, hsame⟩ := List.mem_map.mp hinstance
    cases hsame
    refine ⟨t, ht, _, _, hplaced, rfl, ?_⟩
    intro names value hvalue
    obtain ⟨node, hnode⟩ := ManagedType.exists_find?_of_at?_report (h.schemas t ht) hvalue
    refine ⟨node, hnode, ?_⟩
    intro front hfront uri
    have htarget := h.target?_eq_some hgrown.typeIds_nodup hgrown.instanceIds_nodup ht hplaced
      hnode hfront
    refine ⟨htarget, ?_⟩
    intro content
    rw [Catalog.write_of_target?_eq_some htarget, ManagedType.splitFirst_clientUri
      (h.typeIds t.typeId (List.mem_map_of_mem ht)) hfront]
    simp only [String.append_assoc]
  · rw [Catalog.map_clientUri_reports]
    exact h.nodup_clientUris hgrown.typeIds_nodup hgrown.instanceIds_nodup

/-- A leaf below an interior node can be addressed in both instances of a type. -/
theorem reports_lead_to_instances_two_instances :
  let xml := "<MgmtTree><Node><NodeName>T</NodeName><Node><NodeName>A</NodeName><Node>"
    ++ "<NodeName>B</NodeName></Node></Node></Node></MgmtTree>"
  let tree : Schema.Node := ⟨"T", false, "", [⟨"A", false, "", [.leaf "B" ""]⟩]⟩
  let t : ManagedType := ⟨"t", none, tree, [("apps", 0), ("1", 1)]⟩
  let store : Store MemoryObject := fun _ => .ofRoot tree
  let ops : List (Operation MemoryObject) :=
    [.registerXml "t" xml none, .attach "t" 0 (some "apps"), .attach "t" 1 none]
  let c := (after store ops).catalog
  c.types = [t] ∧ c.Addressable ∧
    (c.reports store).map InstanceReport.clientUri = ["t/apps/", "t/1/"] ∧
    ((c.reports store).map InstanceReport.clientUri).Nodup ∧
    ∀ entry ∈ c.reports store, ∃ id handle node,
      c.target? ("/" ++ (entry.clientUri ++ "A/B")) = some ⟨t, id, handle, node⟩
  := by
  intro xml tree t store ops c
  have hxml : Schema.ofXml xml "t" = .ok ⟨tree, none⟩ := by
    decide +kernel
  -- With the text read, what follows holds of whatever text gives this tree.
  clear_value xml
  have htypes : c.types = [t] := by
    have hregister : after store [.registerXml "t" xml none]
        = ⟨⟨[⟨"t", none, tree, []⟩]⟩, store⟩ := by
      rw [after, List.foldl_cons, List.foldl_nil, perform_registration rfl, hxml]
      rfl
    unfold c
    rw [show ops = [.registerXml "t" xml none] ++ [.attach "t" 0 (some "apps")]
      ++ [.attach "t" 1 none] from rfl, after_append_singleton, after_append_singleton, hregister]
    decide +kernel
  have haddressable : c.Addressable := by
    refine ⟨?_, ?_, ?_⟩
    · rw [Catalog.typeIds, htypes]
      decide
    · rw [htypes]
      decide
    · rw [htypes]
      intro u hu
      rw [List.mem_singleton.mp hu]
      exact ⟨by decide, by decide⟩
  obtain ⟨hentries, hnodup⟩ := reports_lead_to_instances store ops store haddressable
  refine ⟨htypes, haddressable, ?_, hnodup, ?_⟩
  · rw [Catalog.map_clientUri_reports, htypes]
    rfl
  · intro entry hentry
    obtain ⟨u, hu, id, handle, -, rfl, hbelow⟩ := hentries entry hentry
    rw [htypes, List.mem_singleton] at hu
    subst hu
    obtain ⟨node, -, haddresses⟩ := hbelow ["A", "B"] (.string "") rfl
    exact ⟨id, handle, node, (haddresses "/" (by decide)).1⟩

end Inventory

end DeviceManagement
