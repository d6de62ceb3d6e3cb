import DeviceManagement.Proofs.Inventory

/-!
# Attaching to a type

An object is attached under the id that is asked for, or under the least free number. The id is
settled first: if it is taken, then the object is not even asked whether it serves the type. An
attachment that fails leaves everything as it was, and is not told as one that has been made.
-/

namespace DeviceManagement.ManagedType

variable {M : Type} [ManagedObject M] (t : ManagedType) (store : Store M) (handle : Handle)

theorem chooseId_some_of_mem {id : String} (h : id ∈ t.instanceIds) :
  t.chooseId (some id) = .error (.duplicateInstance t.typeId id)
  := by
  rw [chooseId, if_pos (List.contains_iff_mem.mpr h)]

theorem chooseId_some_of_notMem {id : String} (h : id ∉ t.instanceIds) :
  t.chooseId (some id) = .ok id
  := by
  rw [chooseId, if_neg (mt List.contains_iff_mem.mp h)]

/-- Whoever asks for no id, or for one that is not taken, gets one. -/
theorem exists_chooseId_eq_ok
    {requested : Option String} (h : ∀ id, requested = some id → id ∉ t.instanceIds) :
  ∃ id, t.chooseId requested = .ok id
  := by
  cases requested with
  | none => exact ⟨_, rfl⟩
  | some id => exact ⟨id, t.chooseId_some_of_notMem (h id rfl)⟩

section

variable {t} {requested : Option String}

theorem attach_of_chooseId_eq_error {fault : Fault} (h : t.chooseId requested = .error fault) :
  t.attach store handle requested = ⟨.error fault, []⟩
  := by
  rw [attach, h]
  rfl

variable {id : String} (h : t.chooseId requested = .ok id)
include h

theorem attach_of_serves (hserves : ManagedObject.serves (store handle) t.typeId = true) :
  t.attach store handle requested
    = ⟨.ok ⟨id, t.withInstance id handle, store.modify handle ManagedObject.onAttach⟩,
        [.instanceAdded id t.typeId]⟩
  := by
  rw [attach, h]
  exact if_pos hserves

theorem attach_of_not_serves (hserves : ManagedObject.serves (store handle) t.typeId = false) :
  t.attach store handle requested = ⟨.error (.incompatible t.typeId), []⟩
  := by
  rw [attach, h]
  apply if_neg
  rw [hserves]
  exact Bool.false_ne_true

end

/-- An attachment that fails is not told, and whoever makes it in a catalog keeps the catalog and
the objects that there were. -/
theorem of_attach_eq_error
    {requested : Option String} {fault : Fault}
    (h : (t.attach store handle requested).value = .error fault) :
  (t.attach store handle requested).events = [] ∧
    ∀ c : Catalog, c.type? t.typeId = some t →
      c.attachLogged store t.typeId handle requested
        = ⟨(false, c, store), [.attachmentFailed fault]⟩
  := by
  have hevents : t.attach store handle requested = ⟨.error fault, []⟩ := by
    cases hid : t.chooseId requested with
    | error other =>
        rw [attach_of_chooseId_eq_error store handle hid] at h ⊢
        cases h
        rfl
    | ok id =>
        cases hserves : ManagedObject.serves (store handle) t.typeId with
        | false =>
            rw [attach_of_not_serves store handle hid hserves] at h ⊢
            cases h
            rfl
        | true =>
            rw [attach_of_serves store handle hid hserves] at h
            cases h
  constructor
  · rw [hevents]
  · intro c htype
    rw [Catalog.attachLogged, Catalog.attach, htype]
    dsimp only
    rw [hevents]
    rfl

/-- An object that serves a type is attached under the least positive number that is no id yet if
no id is asked for: the search for it, which knows no bound, ends there, after at most one number
more than there are instances. A requested id is given if it is not taken and the object serves
the type. It is refused as a duplicate if it is taken, whether the object serves the type or not;
any other object that does not serve the type is refused for that. What is refused changes
nothing. -/
theorem attach_gives_least_free_id :
  let attached (id : String) : Attachment ManagedType M :=
    ⟨id, t.withInstance id handle, store.modify handle ManagedObject.onAttach⟩
  (ManagedObject.serves (store handle) t.typeId = true →
    ∃ n, IsLeast { n | 1 ≤ n ∧ n.repr ∉ t.instanceIds } n
      ∧ n ≤ t.instances.length + 1
      ∧ (∀ id, Search t.instanceIds 1 id ↔ id = n.repr)
      ∧ (t.attach store handle none).value = .ok (attached n.repr))
  ∧ (∀ id a, (t.attach store handle (some id)).value = .ok a
      ↔ (id ∉ t.instanceIds ∧ ManagedObject.serves (store handle) t.typeId = true)
        ∧ a = attached id)
  ∧ (∀ id ∈ t.instanceIds,
      (t.attach store handle (some id)).value = .error (.duplicateInstance t.typeId id))
  ∧ (ManagedObject.serves (store handle) t.typeId = false →
      ∀ requested, (∀ id, requested = some id → id ∉ t.instanceIds) →
        (t.attach store handle requested).value = .error (.incompatible t.typeId))
  ∧ ∀ requested fault, (t.attach store handle requested).value = .error fault →
      (t.attach store handle requested).events = []
      ∧ ∀ c : Catalog, c.type? t.typeId = some t →
        (c.attachLogged store t.typeId handle requested).value = (false, c, store)
  := by
  intro attached
  refine ⟨?numbered, ?requested, ?duplicate, ?incompatible, ?unchanged⟩
  case numbered =>
    intro hserves
    obtain ⟨n, hn, hbound, hfresh⟩ := exists_freshId_eq t.instanceIds
    rw [instanceIds, List.length_map] at hbound
    refine ⟨n, hn, hbound, ?_, ?_⟩
    · intro id
      rw [search_iff, hfresh]
    · rw [attach_of_serves store handle rfl hserves, hfresh]
  case requested =>
    intro id a
    by_cases hmem : id ∈ t.instanceIds
    · rw [attach_of_chooseId_eq_error store handle (t.chooseId_some_of_mem hmem)]
      simp [hmem]
    · have hid := t.chooseId_some_of_notMem hmem
      cases hserves : ManagedObject.serves (store handle) t.typeId with
      | false =>
          rw [attach_of_not_serves store handle hid hserves]
          simp
      | true =>
          rw [attach_of_serves store handle hid hserves]
          simp [hmem, attached, eq_comm]
  case duplicate =>
    intro id hmem
    rw [attach_of_chooseId_eq_error store handle (t.chooseId_some_of_mem hmem)]
  case incompatible =>
    intro hserves requested hfree
    obtain ⟨id, hid⟩ := t.exists_chooseId_eq_ok hfree
    rw [attach_of_not_serves store handle hid hserves]
  case unchanged =>
    intro requested fault hfault
    obtain ⟨hevents, hcatalog⟩ := t.of_attach_eq_error store handle hfault
    refine ⟨hevents, ?_⟩
    intro c htype
    rw [hcatalog c htype]

/-- Three is free between ids that are numbers, others that only look like them, and the empty one.
Of two objects the one that serves no type is refused for a free id, but not for one that is
taken. -/
theorem attach_gives_least_free_id_gap :
  let _ : ManagedObject Bool := {
    read := fun _ _ => .missing
    write := fun o _ _ => (false, o)
    remove := fun o _ => (false, o)
    execute := fun o _ => (false, o)
    serves := fun o _ => o
    onAttach := id
    onClose := id
    content := fun _ => .null
    instanceId := fun _ => "" }
  let store : Store Bool := fun handle => handle == 0
  let t : ManagedType :=
    ⟨"t", none, .interior "T", [("2", 0), ("03", 0), ("", 0), ("4", 0), ("1", 0)]⟩
  (∀ id, Search t.instanceIds 1 id ↔ id = "3")
    ∧ (t.attach store 0 none).value
      = .ok ⟨"3", t.withInstance "3" 0, store.modify 0 ManagedObject.onAttach⟩
    ∧ (t.attach store 1 (some "4")).value = .error (.duplicateInstance "t" "4")
    ∧ (t.attach store 1 (some "3")).value = .error (.incompatible "t")
    ∧ (t.attach store 1 none).events = []
  := by
  intro _ store t
  obtain ⟨hnumbered, -, -, -, -⟩ := attach_gives_least_free_id t store 0
  obtain ⟨-, -, hduplicate, hincompatible, hunchanged⟩ := attach_gives_least_free_id t store 1
  obtain ⟨n, hn, -, hsearch, hattached⟩ := hnumbered rfl
  obtain rfl : n = 3 := by
    apply hn.unique
    constructor
    · decide
    · rintro m ⟨hm, hfree⟩
      by_contra hlt
      obtain rfl | rfl : m = 1 ∨ m = 2 := by omega
      · exact absurd (by decide) hfree
      · exact absurd (by decide) hfree
  refine ⟨hsearch, hattached, hduplicate "4" (by decide), ?_, ?_⟩
  · exact hincompatible rfl (some "3") (by decide)
  · exact (hunchanged none _ (hincompatible rfl none nofun)).1

end DeviceManagement.ManagedType
