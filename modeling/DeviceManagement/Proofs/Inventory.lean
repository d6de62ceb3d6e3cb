import DeviceManagement.Catalog
import DeviceManagement.ManagedObject.Memory
import DeviceManagement.Proofs.Numbering
import Mathlib.Data.List.Induction
import Mathlib.Data.List.Nodup

/-!
# Inventories over time

An `Inventory` is a catalog with the objects that can be attached to its types. It starts with
the empty catalog and changes by operations, of which each is answered. What the catalog has
come to is determined by the descriptions that the registrations have offered (`Catalog.Grown`),
and it only ever grows at its end (`Catalog.Extends`). Both are preserved by an operation, and
hence hold of a run of any length.
-/

namespace DeviceManagement

/-! ### Operations -/

/-- A catalog and the present state of the objects. -/
structure Inventory (M : Type) where
  catalog : Catalog
  store : Store M

/-- What can be done to an inventory. -/
inductive Operation (M : Type) where
  | registerXml (typeId xml : String) (schemaUrl : Option String)
  | registerFile (typeId path : String) (file : Option (List UInt8)) (schemaUrl : Option String)
  | attach (typeId : String) (handle : Handle) (requested : Option String)
  | attachLogged (typeId : String) (handle : Handle) (requested : Option String)
  | write (uri : String) (value : Json.Value)
  | writeLogged (uri : String) (value : Json.Value)
  | close
  /-- Others who share the objects have changed them. -/
  | changeObjects (store : Store M)

/-- What an operation answers. -/
inductive Answer where
  | done
  /-- It tells whether it was accepted. -/
  | told (accepted : Bool)
  /-- It gives the id of the new instance. -/
  | attached (instanceId : String)
  | failed (fault : Fault)

/-- Whether an answer says that nothing has been done. -/
def Answer.refuses : Answer → Bool
  | told accepted => !accepted
  | failed _ => true
  | done | attached _ => false

/-- A registration: the id and the address of a type, and what its description gives. -/
structure Registration where
  typeId : String
  schemaUrl : Option String
  schema : Except Fault Schema

/-- The type that a registration offers, if its description can be read. -/
def Registration.offer? (r : Registration) : Option ManagedType :=
  r.schema.toOption.map fun schema => ⟨r.typeId, r.schemaUrl, schema.root, []⟩

/-- An object that is to be attached to a type, with the id that is asked for. -/
structure AttachmentRequest where
  typeId : String
  handle : Handle
  requested : Option String

namespace Operation

variable {M : Type}

/-- The registration that an operation is. -/
def registration? : Operation M → Option Registration
  | registerXml typeId xml schemaUrl => some ⟨typeId, schemaUrl, Schema.ofXml xml typeId⟩
  | registerFile typeId path file schemaUrl =>
    some ⟨typeId, schemaUrl, Schema.ofFile path file typeId⟩
  | _ => none

/-- The attachment that an operation asks for. -/
def request? : Operation M → Option AttachmentRequest
  | attach typeId handle requested | attachLogged typeId handle requested =>
    some ⟨typeId, handle, requested⟩
  | _ => none

/-- The type that an operation offers. -/
def offer? (op : Operation M) : Option ManagedType :=
  op.registration?.bind Registration.offer?

end Operation

namespace Inventory

variable {M : Type} [ManagedObject M]

/-- The answer to an operation, and the inventory afterwards. -/
def perform (i : Inventory M) : Operation M → Answer × Inventory M
  | .registerXml typeId xml schemaUrl =>
    let (accepted, catalog) := (i.catalog.registerXml typeId xml schemaUrl).value
    (.told accepted, { i with catalog := catalog })
  | .registerFile typeId path file schemaUrl =>
    let (accepted, catalog) := (i.catalog.registerFile typeId path file schemaUrl).value
    (.told accepted, { i with catalog := catalog })
  | .attach typeId handle requested =>
    match (i.catalog.attach i.store typeId handle requested).value with
    | .ok a => (.attached a.instanceId, ⟨a.target, a.store⟩)
    | .error fault => (.failed fault, i)
  | .attachLogged typeId handle requested =>
    let (accepted, catalog, store) := (i.catalog.attachLogged i.store typeId handle requested).value
    (.told accepted, ⟨catalog, store⟩)
  | .write uri value =>
    match i.catalog.write uri value with
    | .ok () => (.done, i)
    | .error fault => (.failed fault, i)
  | .writeLogged uri value => (.told (i.catalog.writeLogged uri value).value, i)
  | .close => (.done, { i with store := i.catalog.close i.store })
  | .changeObjects store => (.done, { i with store := store })

/-- The inventory after some operations on the empty catalog. -/
def after (store : Store M) (ops : List (Operation M)) : Inventory M :=
  ops.foldl (fun i op => (i.perform op).2) ⟨.empty, store⟩

theorem after_append_singleton (store : Store M) (ops : List (Operation M)) (op : Operation M) :
  after store (ops ++ [op]) = ((after store ops).perform op).2
  := by
  simp [after]

end Inventory

/-! ### New instances -/

/-- The type with one more instance at its end. -/
def ManagedType.withInstance (t : ManagedType) (id : String) (handle : Handle) : ManagedType :=
  { t with instances := t.instances ++ [(id, handle)] }

@[simp]
theorem ManagedType.instanceIds_withInstance (t : ManagedType) (id : String) (handle : Handle) :
  (t.withInstance id handle).instanceIds = t.instanceIds ++ [id]
  := List.map_append

/-- The id that is chosen for a new instance is not taken, and it is the one asked for. -/
theorem ManagedType.of_chooseId_eq_ok
    {t : ManagedType} {requested : Option String} {id : String}
    (h : t.chooseId requested = .ok id) :
  id ∉ t.instanceIds ∧ ∀ wanted, requested = some wanted → id = wanted
  := by
  cases requested with
  | none =>
      cases h
      refine ⟨freshId_notMem _, ?_⟩
      rintro wanted ⟨⟩
  | some asked =>
      unfold chooseId at h
      dsimp only at h
      split at h
      · cases h
      · next hfree =>
          cases h
          refine ⟨by simpa using hfree, ?_⟩
          rintro wanted ⟨⟩
          rfl

/-- No id is chosen only if the one asked for is taken. -/
theorem ManagedType.of_chooseId_eq_error
    {t : ManagedType} {requested : Option String} {fault : Fault}
    (h : t.chooseId requested = .error fault) :
  ∃ wanted, requested = some wanted ∧ wanted ∈ t.instanceIds
  := by
  cases requested with
  | none => cases h
  | some wanted =>
      unfold chooseId at h
      dsimp only at h
      split at h
      · next htaken => exact ⟨wanted, rfl, by simpa using htaken⟩
      · cases h

/-! ### What an operation can do -/

namespace Catalog

/-- Whether a registration is accepted, and the catalog after it. -/
def register (c : Catalog) (r : Registration) : Bool × Catalog :=
  if (c.type? r.typeId).isSome then (true, c) else (r.offer?.isSome, ⟨c.types ++ r.offer?.toList⟩)

theorem type?_isSome_iff (c : Catalog) (typeId : String) :
  (c.type? typeId).isSome ↔ typeId ∈ c.typeIds
  := by
  simp [type?, typeIds]

/-- A type of a readable description is appended. -/
theorem value_add (c : Catalog) (r : Registration) :
  (c.add r.typeId r.schemaUrl r.schema).value
    = (r.offer?.isSome, ⟨c.types ++ r.offer?.toList⟩)
  := by
  unfold add Registration.offer?
  cases r.schema with
  | error fault =>
      rw [show (Except.error fault : Except Fault Schema).toOption = none from rfl]
      simp
  | ok schema =>
      rw [Logged.value_bind, ManagedType.value_create]
      rfl

theorem value_registerXml (c : Catalog) (typeId xml : String) (schemaUrl : Option String) :
  (c.registerXml typeId xml schemaUrl).value
    = c.register ⟨typeId, schemaUrl, Schema.ofXml xml typeId⟩
  := by
  unfold registerXml register
  dsimp only
  cases (c.type? typeId).isSome with
  | true => rfl
  | false => exact c.value_add ⟨typeId, schemaUrl, Schema.ofXml xml typeId⟩

theorem value_registerFile
    (c : Catalog) (typeId path : String) (file : Option (List UInt8))
    (schemaUrl : Option String) :
  (c.registerFile typeId path file schemaUrl).value
    = c.register ⟨typeId, schemaUrl, Schema.ofFile path file typeId⟩
  := by
  unfold registerFile register
  dsimp only
  cases (c.type? typeId).isSome with
  | true => rfl
  | false => exact c.value_add ⟨typeId, schemaUrl, Schema.ofFile path file typeId⟩

/-- A registration that is refused changes nothing. -/
theorem register_of_refused {c : Catalog} {r : Registration} (h : (c.register r).1 = false) :
  (c.register r).2 = c
  := by
  unfold register at h ⊢
  cases hoffer : r.offer? with
  | none =>
      rw [Option.toList_none, List.append_nil]
      split <;> rfl
  | some t =>
      rw [hoffer] at h
      split at h <;> cases h

variable {M : Type} [ManagedObject M]

/-- An object can be attached if the type is registered, the id asked for is not taken, and the
object serves the type. -/
def Admits (c : Catalog) (store : Store M) (q : AttachmentRequest) : Prop :=
  ∃ t, c.type? q.typeId = some t ∧
    (∀ wanted, q.requested = some wanted → wanted ∉ t.instanceIds) ∧
    ManagedObject.serves (store q.handle) t.typeId = true

/-- An attachment fails if it is not admitted, and otherwise it appends the object to the type
under an id that is not taken, and the object is told. -/
theorem attach_cases (c : Catalog) (store : Store M) (q : AttachmentRequest) :
  (¬ c.Admits store q ∧
    ∃ fault, (c.attach store q.typeId q.handle q.requested).value = .error fault) ∨
  (c.Admits store q ∧
    ∃ t id, c.type? q.typeId = some t ∧ id ∉ t.instanceIds ∧
      (∀ wanted, q.requested = some wanted → id = wanted) ∧
      (c.attach store q.typeId q.handle q.requested).value
        = .ok ⟨id, c.replace (t.withInstance id q.handle),
            store.modify q.handle ManagedObject.onAttach⟩)
  := by
  unfold Admits attach ManagedType.attach
  cases c.type? q.typeId with
  | none =>
      refine .inl ⟨?_, _, rfl⟩
      rintro ⟨t, ⟨⟩, -⟩
  | some t =>
      dsimp only
      cases hid : t.chooseId q.requested with
      | error fault =>
          refine .inl ⟨?_, fault, rfl⟩
          rintro ⟨_, ⟨⟩, hfree, -⟩
          obtain ⟨wanted, hwanted, htaken⟩ := ManagedType.of_chooseId_eq_error hid
          exact hfree wanted hwanted htaken
      | ok id =>
          dsimp only
          cases hserves : ManagedObject.serves (store q.handle) t.typeId with
          | false =>
              refine .inl ⟨?_, _, rfl⟩
              rintro ⟨_, ⟨⟩, -, hserved⟩
              rw [hserves] at hserved
              cases hserved
          | true =>
              obtain ⟨hfree, hwanted⟩ := ManagedType.of_chooseId_eq_ok hid
              refine .inr ⟨⟨t, rfl, ?_, hserves⟩, t, id, rfl, hfree, hwanted, rfl⟩
              intro wanted hrequested
              rw [← hwanted wanted hrequested]
              exact hfree

end Catalog

namespace Inventory

variable {M : Type} [ManagedObject M] {i : Inventory M} {op : Operation M}

/-- A registration changes the catalog only. -/
theorem perform_registration {r : Registration} (h : op.registration? = some r) :
  i.perform op
    = (.told (i.catalog.register r).1, { i with catalog := (i.catalog.register r).2 })
  := by
  cases op with
  | registerXml typeId xml schemaUrl =>
      cases h
      rw [← Catalog.value_registerXml]
      rfl
  | registerFile typeId path file schemaUrl =>
      cases h
      rw [← Catalog.value_registerFile]
      rfl
  | _ => cases h

/-- An attachment is refused and leaves the inventory as it was, or it is accepted. -/
theorem perform_request {q : AttachmentRequest} (h : op.request? = some q) :
  (¬ i.catalog.Admits i.store q ∧ (i.perform op).1.refuses = true ∧ (i.perform op).2 = i) ∨
  (i.catalog.Admits i.store q ∧ (i.perform op).1.refuses = false ∧
    ∃ t id, i.catalog.type? q.typeId = some t ∧ id ∉ t.instanceIds ∧
      (∀ wanted, q.requested = some wanted → id = wanted) ∧
      (i.perform op).2 = ⟨i.catalog.replace (t.withInstance id q.handle),
        i.store.modify q.handle ManagedObject.onAttach⟩)
  := by
  have hcases := i.catalog.attach_cases i.store q
  cases op with
  | attach typeId handle requested =>
      cases h
      dsimp only at hcases
      obtain ⟨hnot, fault, hfailed⟩ | ⟨hadmits, t, id, htype, hfree, hwanted, hattached⟩ := hcases
      · simp only [perform, hfailed]
        exact .inl ⟨hnot, rfl, trivial⟩
      · simp only [perform, hattached]
        exact .inr ⟨hadmits, rfl, t, id, htype, hfree, hwanted, rfl⟩
  | attachLogged typeId handle requested =>
      cases h
      dsimp only at hcases
      obtain ⟨hnot, fault, hfailed⟩ | ⟨hadmits, t, id, htype, hfree, hwanted, hattached⟩ := hcases
      · simp only [perform, Catalog.attachLogged, Logged.value_bind, hfailed]
        exact .inl ⟨hnot, rfl, rfl⟩
      · simp only [perform, Catalog.attachLogged, Logged.value_bind, hattached]
        exact .inr ⟨hadmits, rfl, t, id, htype, hfree, hwanted, rfl⟩
  | _ => cases h

/-- An attachment is accepted if and only if it is admitted. -/
theorem perform_request_accepted_iff {q : AttachmentRequest} (h : op.request? = some q) :
  (i.perform op).1.refuses = false ↔ i.catalog.Admits i.store q
  := by
  obtain ⟨hnot, hrefuses, -⟩ | ⟨hadmits, haccepted, -⟩ := perform_request h (i := i)
  · rw [hrefuses]
    exact iff_of_false (by decide) hnot
  · exact iff_of_true haccepted hadmits

/-- What neither registers nor attaches leaves the catalog as it was, and the objects too if it
is refused. -/
theorem perform_other (h : op.registration? = none) (h' : op.request? = none) :
  (i.perform op).2.catalog = i.catalog ∧
    ((i.perform op).1.refuses = true → (i.perform op).2 = i)
  := by
  cases op with
  | registerXml typeId xml schemaUrl => cases h
  | registerFile typeId path file schemaUrl => cases h
  | attach typeId handle requested => cases h'
  | attachLogged typeId handle requested => cases h'
  | write uri value =>
      unfold perform
      dsimp only
      cases i.catalog.write uri value with
      | ok done => exact ⟨rfl, fun _ => rfl⟩
      | error fault => exact ⟨rfl, fun _ => rfl⟩
  | writeLogged uri value => exact ⟨rfl, fun _ => rfl⟩
  | close =>
      refine ⟨rfl, ?_⟩
      rintro ⟨⟩
  | changeObjects store =>
      refine ⟨rfl, ?_⟩
      rintro ⟨⟩

/-- What is refused changes nothing. -/
theorem perform_refused (h : (i.perform op).1.refuses = true) :
  (i.perform op).2 = i
  := by
  cases hregistration : op.registration? with
  | some r =>
      rw [perform_registration hregistration] at h ⊢
      have hrefused : (i.catalog.register r).1 = false := by simpa [Answer.refuses] using h
      rw [Catalog.register_of_refused hrefused]
  | none =>
      cases hrequest : op.request? with
      | none => exact (perform_other hregistration hrequest).2 h
      | some q =>
          obtain ⟨-, -, hsame⟩ | ⟨-, haccepted, -⟩ := perform_request hrequest (i := i)
          · exact hsame
          · rw [haccepted] at h
            cases h

end Inventory

/-! ### What a catalog has come to -/

/-- One more element is kept if it is new. -/
theorem eraseDups_append_singleton {α : Type} [BEq α] [LawfulBEq α] (l : List α) (a : α) :
  (l ++ [a]).eraseDups = if a ∈ l then l.eraseDups else l.eraseDups ++ [a]
  := by
  rw [List.eraseDups_append, List.removeAll, List.filter_cons, List.filter_nil]
  by_cases h : a ∈ l
  · simp [h]
  · simp [h, List.eraseDups_cons]

namespace Catalog

/-- What the types of a catalog are if it has grown by some offers: the types that were offered
first under their ids, in the order in which they were, with instances under distinct ids. -/
structure Grown (offers : List ManagedType) (c : Catalog) : Prop where
  typeIds_nodup : c.typeIds.Nodup
  typeIds_eq : c.typeIds = (offers.map ManagedType.typeId).eraseDups
  find?_offers : ∀ t ∈ c.types,
    (offers.find? fun offer => offer.typeId == t.typeId) = some { t with instances := [] }
  instanceIds_nodup : ∀ t ∈ c.types, t.instanceIds.Nodup

theorem grown_empty :
  Grown [] empty
  := by
  refine ⟨List.nodup_nil, rfl, ?_, ?_⟩
  · rintro t ⟨⟩
  · rintro t ⟨⟩

variable {c : Catalog} {offers : List ManagedType}

theorem typeId_of_type?_eq_some
    {typeId : String} {t : ManagedType} (h : c.type? typeId = some t) :
  t.typeId = typeId
  := beq_iff_eq.mp (List.find?_some (p := fun t : ManagedType => t.typeId == typeId) h)

/-- The types of a catalog are found by their ids if these are distinct. -/
theorem type?_eq_some_iff (h : c.typeIds.Nodup) {typeId : String} {t : ManagedType} :
  c.type? typeId = some t ↔ t ∈ c.types ∧ t.typeId = typeId
  := by
  constructor
  · intro hfind
    exact ⟨List.mem_of_find?_eq_some hfind, typeId_of_type?_eq_some hfind⟩
  · rintro ⟨hmem, rfl⟩
    cases hfind : c.type? t.typeId with
    | none =>
        have hnone := List.find?_eq_none.mp hfind t hmem
        exact absurd (beq_self_eq_true t.typeId) hnone
    | some found =>
        have hfound := List.mem_of_find?_eq_some hfind
        rw [List.inj_on_of_nodup_map h hfound hmem (typeId_of_type?_eq_some hfind)]

/-- A type that is found stands between others with other ids, which stay when it is replaced. -/
theorem exists_replace_eq
    (h : c.typeIds.Nodup) {typeId : String} {t : ManagedType} (ht : c.type? typeId = some t) :
  ∃ before after, c.types = before ++ t :: after ∧
    ∀ t' : ManagedType, t'.typeId = t.typeId → c.replace t' = ⟨before ++ t' :: after⟩
  := by
  obtain ⟨before, after, hsplit⟩ := List.append_of_mem (List.mem_of_find?_eq_some ht)
  refine ⟨before, after, hsplit, ?_⟩
  intro t' ht'
  have hnodup : (t.typeId :: (before ++ after).map ManagedType.typeId).Nodup := by
    rw [List.map_append, ← List.nodup_middle, ← List.map_cons, ← List.map_append, ← hsplit]
    exact h
  have hothers : ∀ u ∈ before ++ after, (if u.typeId = t'.typeId then t' else u) = u := by
    intro u hu
    apply if_neg
    rw [ht']
    intro hid
    exact (List.nodup_cons.mp hnodup).1 (hid ▸ List.mem_map_of_mem hu)
  unfold replace
  rw [hsplit, List.map_append, List.map_cons, if_pos ht'.symm,
    List.map_congr_left fun u hu => hothers u (List.mem_append_left _ hu),
    List.map_congr_left fun u hu => hothers u (List.mem_append_right _ hu), List.map_id',
    List.map_id']

/-- The ids of the types are the ids of the offers. -/
theorem Grown.mem_typeIds (h : c.Grown offers) {typeId : String} :
  typeId ∈ c.typeIds ↔ typeId ∈ offers.map ManagedType.typeId
  := by
  rw [h.typeIds_eq, List.mem_eraseDups]

/-- A type that is offered once more stays as it is. -/
theorem Grown.offer_known
    (h : c.Grown offers) {t : ManagedType} (ht : t.typeId ∈ c.typeIds) :
  c.Grown (offers ++ [t])
  := by
  refine ⟨h.typeIds_nodup, ?_, ?_, h.instanceIds_nodup⟩
  · rw [List.map_append, List.map_singleton, eraseDups_append_singleton,
      if_pos (h.mem_typeIds.mp ht), h.typeIds_eq]
  · intro known hknown
    rw [List.find?_append, h.find?_offers known hknown]
    rfl

/-- A type that is offered for the first time is appended. -/
theorem Grown.offer_new
    (h : c.Grown offers) {t : ManagedType} (ht : t.typeId ∉ c.typeIds)
    (hinstances : t.instances = []) :
  Grown (offers ++ [t]) ⟨c.types ++ [t]⟩
  := by
  have hoffers : t.typeId ∉ offers.map ManagedType.typeId := h.mem_typeIds.not.mp ht
  have hids : typeIds ⟨c.types ++ [t]⟩ = c.typeIds ++ [t.typeId] := List.map_append
  constructor
  · rw [hids, ← List.concat_eq_append]
    exact h.typeIds_nodup.concat ht
  · rw [hids, List.map_append, List.map_singleton, eraseDups_append_singleton, if_neg hoffers,
      h.typeIds_eq]
  · intro known hknown
    rw [List.find?_append]
    obtain hknown | hnew := List.mem_append.mp hknown
    · rw [h.find?_offers known hknown]
      rfl
    · obtain rfl := List.mem_singleton.mp hnew
      have hnone : (offers.find? fun offer => offer.typeId == known.typeId) = none := by
        apply List.find?_eq_none.mpr
        intro offer hoffer hid
        exact hoffers ((beq_iff_eq.mp hid) ▸ List.mem_map_of_mem hoffer)
      rw [hnone, List.find?_singleton, ← hinstances]
      simp
  · intro known hknown
    obtain hknown | hnew := List.mem_append.mp hknown
    · exact h.instanceIds_nodup known hknown
    · obtain rfl := List.mem_singleton.mp hnew
      rw [ManagedType.instanceIds, hinstances]
      exact List.nodup_nil

theorem Grown.register (h : c.Grown offers) (r : Registration) :
  (c.register r).2.Grown (offers ++ r.offer?.toList)
  := by
  have hknown := c.type?_isSome_iff r.typeId
  unfold Catalog.register
  cases hoffer : r.offer? with
  | none =>
      rw [Option.toList_none, List.append_nil, List.append_nil]
      split
      · exact h
      · exact h
  | some t =>
      obtain ⟨schema, -, rfl⟩ := Option.map_eq_some_iff.mp hoffer
      split
      · next hsome => exact h.offer_known (hknown.mp hsome)
      · next hnone => exact h.offer_new (hknown.not.mp hnone) rfl

theorem Grown.append_instance
    (h : c.Grown offers) {before after : List ManagedType} {t : ManagedType}
    (hsplit : c.types = before ++ t :: after) {id : String} (hid : id ∉ t.instanceIds)
    (handle : Handle) :
  Grown offers ⟨before ++ t.withInstance id handle :: after⟩
  := by
  have hids : typeIds ⟨before ++ t.withInstance id handle :: after⟩
      = c.typeIds := by
    simp [typeIds, hsplit, ManagedType.withInstance]
  have hmem : ∀ known ∈ before ++ t.withInstance id handle :: after,
      known ∈ c.types ∨ known = t.withInstance id handle := by
    intro known hknown
    rw [hsplit]
    obtain hbefore | hrest := List.mem_append.mp hknown
    · exact .inl (List.mem_append_left _ hbefore)
    · obtain rfl | hafter := List.mem_cons.mp hrest
      · exact .inr rfl
      · exact .inl (List.mem_append_right _ (List.mem_cons_of_mem _ hafter))
  have ht : t ∈ c.types := hsplit ▸ List.mem_append_right _ List.mem_cons_self
  constructor
  · rw [hids]
    exact h.typeIds_nodup
  · rw [hids]
    exact h.typeIds_eq
  · intro known hknown
    obtain hknown | rfl := hmem known hknown
    · exact h.find?_offers known hknown
    · exact h.find?_offers t ht
  · intro known hknown
    obtain hknown | rfl := hmem known hknown
    · exact h.instanceIds_nodup known hknown
    · rw [ManagedType.instanceIds_withInstance, ← List.concat_eq_append]
      exact (h.instanceIds_nodup t ht).concat hid

end Catalog

/-! ### How a catalog goes on -/

/-- A type goes on as one that has the same id, address and schema, and the same instances, with
the same ids and objects, before any others. -/
structure ManagedType.GoesOn (t t' : ManagedType) : Prop where
  typeId : t'.typeId = t.typeId
  schemaUrl : t'.schemaUrl = t.schemaUrl
  schema : t'.schema = t.schema
  instances : t.instances <+: t'.instances

theorem ManagedType.GoesOn.refl (t : ManagedType) :
  t.GoesOn t
  := ⟨rfl, rfl, rfl, List.prefix_refl _⟩

theorem ManagedType.GoesOn.trans
    {t t' t'' : ManagedType} (h : t.GoesOn t') (h' : t'.GoesOn t'') :
  t.GoesOn t''
  := ⟨h'.typeId.trans h.typeId, h'.schemaUrl.trans h.schemaUrl, h'.schema.trans h.schema,
    h.instances.trans h'.instances⟩

theorem ManagedType.goesOn_withInstance (t : ManagedType) (id : String) (handle : Handle) :
  t.GoesOn (t.withInstance id handle)
  := ⟨rfl, rfl, rfl, List.prefix_append _ _⟩

namespace Catalog

/-- A catalog goes on as one in which every type goes on at its position. -/
def GoesOn (c c' : Catalog) : Prop :=
  ∀ (k : Nat) (t : ManagedType), c.types[k]? = some t →
    ∃ t', c'.types[k]? = some t' ∧ t.GoesOn t'

theorem GoesOn.refl (c : Catalog) :
  c.GoesOn c
  := by
  intro k t ht
  exact ⟨t, ht, .refl t⟩

theorem GoesOn.trans {c c' c'' : Catalog} (h : c.GoesOn c') (h' : c'.GoesOn c'') :
  c.GoesOn c''
  := by
  intro k t ht
  obtain ⟨t', ht', hgoes⟩ := h k t ht
  obtain ⟨t'', ht'', hgoes'⟩ := h' k t' ht'
  exact ⟨t'', ht'', hgoes.trans hgoes'⟩

theorem goesOn_append (c : Catalog) (types : List ManagedType) :
  c.GoesOn ⟨c.types ++ types⟩
  := by
  intro k t ht
  refine ⟨t, ?_, .refl t⟩
  obtain ⟨hk, -⟩ := List.getElem?_eq_some_iff.mp ht
  rw [List.getElem?_append_left hk, ht]

theorem goesOn_register (c : Catalog) (r : Registration) :
  c.GoesOn (c.register r).2
  := by
  unfold register
  split
  · exact .refl c
  · apply goesOn_append

theorem goesOn_replace
    {c : Catalog} (h : c.typeIds.Nodup) {typeId : String} {t t' : ManagedType}
    (ht : c.type? typeId = some t) (hgoes : t.GoesOn t') :
  c.GoesOn (c.replace t')
  := by
  intro k u hu
  refine ⟨if u.typeId = t'.typeId then t' else u, ?_, ?_⟩
  · rw [replace, List.getElem?_map, hu]
    rfl
  · split
    · next hid =>
        have hmem := List.mem_of_getElem? hu
        have hfind := (type?_eq_some_iff h).mp ht
        have hsame : u = t := by
          apply List.inj_on_of_nodup_map h hmem hfind.1
          rw [hid, hgoes.typeId]
        rw [hsame]
        exact hgoes
    · exact .refl u

/-- A registration is accepted if and only if the type is registered afterwards. -/
theorem register_fst (c : Catalog) (r : Registration) :
  (c.register r).1 = ((c.register r).2.type? r.typeId).isSome
  := by
  unfold register
  split
  · next hknown => exact hknown.symm
  · next hunknown =>
      have hnone := Option.not_isSome_iff_eq_none.mp hunknown
      have hfind : type? ⟨c.types ++ r.offer?.toList⟩ r.typeId
          = r.offer?.toList.find? fun t => t.typeId == r.typeId := by
        rw [type?, List.find?_append, show c.types.find? _ = none from hnone, Option.none_or]
      rw [hfind]
      cases hoffer : r.offer? with
      | none => rfl
      | some t =>
          obtain ⟨schema, -, rfl⟩ := Option.map_eq_some_iff.mp hoffer
          simp

end Catalog

/-! ### Reports -/

namespace Catalog

/-- The instances of all types, in the order of registration and attachment. -/
def placements (c : Catalog) : List (ManagedType × String × Handle) :=
  c.types.flatMap fun t => t.instances.map fun (id, handle) => (t, id, handle)

variable {M : Type} [ManagedObject M]

/-- The summaries tell the instances one by one, by the ids they report for themselves. -/
theorem summaries_eq_placements (c : Catalog) (store : Store M) :
  ((c.summaries store).flatMap fun summary =>
      summary.instanceIds.map fun id => (summary.typeId, id))
    = c.placements.map fun (t, _, handle) =>
        (t.typeId, ManagedObject.instanceId (store handle))
  := by
  simp only [summaries, placements, ManagedType.summary, List.flatMap_map, List.map_flatMap,
    List.map_map]
  rfl

/-- The reports tell the instances one by one, by their addresses. -/
theorem reports_eq_placements (c : Catalog) (store : Store M) :
  c.reports store
    = c.placements.map fun (t, id, handle) => ⟨t.clientUri id, t.report (store handle)⟩
  := by
  simp only [reports, placements, ManagedType.reports, List.map_flatMap, List.map_map]
  rfl

end Catalog

/-! ### Runs -/

namespace Inventory

variable {M : Type} [ManagedObject M] {i : Inventory M}

theorem grown_perform
    {offers : List ManagedType} (h : i.catalog.Grown offers) (op : Operation M) :
  (i.perform op).2.catalog.Grown (offers ++ op.offer?.toList)
  := by
  unfold Operation.offer?
  cases hregistration : op.registration? with
  | some r =>
      rw [perform_registration hregistration]
      exact h.register r
  | none =>
      rw [Option.bind_none, Option.toList_none, List.append_nil]
      cases hrequest : op.request? with
      | none =>
          rw [(perform_other hregistration hrequest).1]
          exact h
      | some q =>
          obtain ⟨-, -, hsame⟩ | ⟨-, -, t, id, ht, hid, -, hafter⟩ :=
            perform_request hrequest (i := i)
          · rw [hsame]
            exact h
          · obtain ⟨before, after, hsplit, hreplace⟩ :=
              Catalog.exists_replace_eq h.typeIds_nodup ht
            rw [hafter, hreplace (t.withInstance id q.handle) rfl]
            exact h.append_instance hsplit hid q.handle

theorem goesOn_perform (h : i.catalog.typeIds.Nodup) (op : Operation M) :
  i.catalog.GoesOn (i.perform op).2.catalog
  := by
  cases hregistration : op.registration? with
  | some r =>
      rw [perform_registration hregistration]
      apply Catalog.goesOn_register
  | none =>
      cases hrequest : op.request? with
      | none =>
          rw [(perform_other hregistration hrequest).1]
          exact .refl _
      | some q =>
          obtain ⟨-, -, hsame⟩ | ⟨-, -, t, id, ht, -, -, hafter⟩ :=
            perform_request hrequest (i := i)
          · rw [hsame]
            exact .refl _
          · rw [hafter]
            exact Catalog.goesOn_replace h ht (t.goesOn_withInstance id q.handle)

/-- A run has grown by what its operations have offered. -/
theorem grown_after (store : Store M) (ops : List (Operation M)) :
  (after store ops).catalog.Grown (ops.filterMap Operation.offer?)
  := by
  induction ops using List.reverseRecOn with
  | nil => exact Catalog.grown_empty
  | append_singleton ops op ih =>
      have hlast : [op].filterMap Operation.offer? = op.offer?.toList := by
        rw [List.filterMap_cons, List.filterMap_nil]
        cases op.offer? with
        | none => rfl
        | some t => rfl
      rw [after_append_singleton, List.filterMap_append, hlast]
      exact grown_perform ih op

/-- Whatever has been there goes on during the rest of a run. -/
theorem goesOn_after (store : Store M) (ops more : List (Operation M)) :
  (after store ops).catalog.GoesOn (after store (ops ++ more)).catalog
  := by
  induction more using List.reverseRecOn with
  | nil =>
      rw [List.append_nil]
      exact .refl _
  | append_singleton more op ih =>
      rw [← List.append_assoc, after_append_singleton]
      exact ih.trans (goesOn_perform (grown_after store (ops ++ more)).typeIds_nodup op)

/-- A run from the empty catalog only appends to it. Its types have distinct ids, in the order in
which readable descriptions were first offered for them, and have the address and the schema of
that first offer for good. The instances of a type have distinct ids, and whatever instances
there are stay under their ids, before any new ones. A registration tells whether the type is
registered afterwards. What is refused changes nothing, be it in the catalog or in the objects.
An attachment is accepted whenever it is admitted, and then appends one instance to one type and
tells the object once. The summaries and the reports list the same instances in the same order. -/
theorem after_appends_only (store : Store M) (ops : List (Operation M)) :
  let i := after store ops
  let offers := ops.filterMap Operation.offer?
  (i.catalog.typeIds.Nodup ∧
    i.catalog.typeIds = (offers.map ManagedType.typeId).eraseDups ∧
    (∀ typeId t, i.catalog.type? typeId = some t ↔ t ∈ i.catalog.types ∧ t.typeId = typeId) ∧
    ∀ t ∈ i.catalog.types,
      (offers.find? fun offer => offer.typeId == t.typeId) = some { t with instances := [] }) ∧
  ((∀ t ∈ i.catalog.types, t.instanceIds.Nodup) ∧
    ∀ more, i.catalog.GoesOn (after store (ops ++ more)).catalog) ∧
  ((∀ op, (i.perform op).1.refuses = true → (i.perform op).2 = i) ∧
    (∀ op r, op.registration? = some r →
      (i.perform op).1 = .told ((i.perform op).2.catalog.type? r.typeId).isSome) ∧
    (∀ op q, op.request? = some q →
      ((i.perform op).1.refuses = false ↔ i.catalog.Admits i.store q)) ∧
    ∀ op q, op.request? = some q → (i.perform op).1.refuses = false →
      ∃ before t after id, i.catalog.types = before ++ t :: after ∧ t.typeId = q.typeId ∧
        id ∉ t.instanceIds ∧ (∀ wanted, q.requested = some wanted → id = wanted) ∧
        (i.perform op).2 = ⟨⟨before ++ t.withInstance id q.handle :: after⟩,
          i.store.modify q.handle ManagedObject.onAttach⟩) ∧
  ∀ objects : Store M,
    (i.catalog.summaries objects).map TypeSummary.typeId = i.catalog.typeIds ∧
    ((i.catalog.summaries objects).flatMap fun summary =>
        summary.instanceIds.map fun id => (summary.typeId, id))
      = i.catalog.placements.map (fun (t, _, handle) =>
          (t.typeId, ManagedObject.instanceId (objects handle))) ∧
    i.catalog.reports objects
      = i.catalog.placements.map fun (t, id, handle) =>
          ⟨t.clientUri id, t.report (objects handle)⟩
  := by
  intro i offers
  have hgrown : i.catalog.Grown offers := grown_after store ops
  refine ⟨⟨hgrown.typeIds_nodup, hgrown.typeIds_eq, ?_, hgrown.find?_offers⟩,
    ⟨hgrown.instanceIds_nodup, goesOn_after store ops⟩, ⟨?_, ?_, ?_, ?_⟩, ?_⟩
  · intro typeId t
    exact Catalog.type?_eq_some_iff hgrown.typeIds_nodup
  · intro op hrefuses
    exact perform_refused hrefuses
  · intro op r hregistration
    rw [perform_registration hregistration, Catalog.register_fst]
  · intro op q hrequest
    exact perform_request_accepted_iff hrequest
  · intro op q hrequest haccepted
    obtain ⟨-, hrefuses, -⟩ | ⟨-, -, t, id, ht, hid, hwanted, hafter⟩ :=
      perform_request hrequest (i := i)
    · rw [haccepted] at hrefuses
      cases hrefuses
    · obtain ⟨before, after, hsplit, hreplace⟩ :=
        Catalog.exists_replace_eq hgrown.typeIds_nodup ht
      refine ⟨before, t, after, id, hsplit, ?_, hid, hwanted, ?_⟩
      · exact ((Catalog.type?_eq_some_iff hgrown.typeIds_nodup).mp ht).2
      · rw [hafter, hreplace (t.withInstance id q.handle) rfl]
  · intro objects
    refine ⟨?_, i.catalog.summaries_eq_placements objects, i.catalog.reports_eq_placements objects⟩
    unfold Catalog.summaries
    rw [List.map_map]
    rfl

/-- An object that is attached twice has two instances, and an id that is taken is refused. -/
theorem after_appends_only_duplicate_id :
  let store : Store MemoryObject := fun _ => .empty "t"
  let ops : List (Operation MemoryObject) :=
    [.registerXml "t" "<MgmtTree><Node/></MgmtTree>" none, .registerXml "u" "" none,
      .attach "t" 0 none, .attachLogged "t" 0 (some "x")]
  let i := after store ops
  i.catalog.typeIds = ["t"] ∧
    (i.perform (.attach "t" 1 (some "x"))).2 = i ∧
    ∃ before t after id, i.catalog.types = before ++ t :: after ∧ id ∉ t.instanceIds ∧
      (i.perform (.attach "t" 0 none)).2.catalog.types
        = before ++ t.withInstance id 0 :: after
  := by
  intro store ops i
  obtain ⟨⟨-, hids, -⟩, -, ⟨hrefused, -, -, haccepted⟩, -⟩ := after_appends_only store ops
  refine ⟨?_, ?_, ?_⟩
  · rw [show i.catalog.typeIds = _ from hids]
    decide +kernel
  · apply hrefused
    decide +kernel
  · obtain ⟨before, t, after, id, hsplit, -, hid, -, hafter⟩ :=
      haccepted (.attach "t" 0 none) ⟨"t", 0, none⟩ rfl (by decide +kernel)
    exact ⟨before, t, after, id, hsplit, hid, congrArg (fun i => i.catalog.types) hafter⟩

end Inventory

end DeviceManagement
