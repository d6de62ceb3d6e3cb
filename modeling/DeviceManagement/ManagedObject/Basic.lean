import DeviceManagement.Json.Value

/-!
# Managed objects

A managed object holds the data of one instance of a type. `ManagedObject M` says what the
values of a type `M` have to provide to be managed objects: reading and changing nodes, which
are addressed by paths from the root of the object, and telling which types they serve.

Several parts of a program may share an object, so it is referred to by a handle, and a
`Store` gives the present state of the object behind each handle.
-/

namespace DeviceManagement

/-- What reading a node of a managed object gives. -/
structure Reading where
  data : String
  /-- The node is present in the object. -/
  exist : Bool
  /-- The data is meaningful; a node may be present and hold no valid value yet. -/
  valid : Bool
  deriving DecidableEq, Repr

namespace Reading

/-- The reading of a node that is present and holds valid data. -/
def present (data : String) : Reading :=
  ⟨data, true, true⟩

/-- The reading of a node that is not present. -/
def missing : Reading :=
  ⟨"", false, true⟩

/-- Whether a reading belongs into a report. -/
def isReportable (r : Reading) : Bool :=
  r.exist && r.valid

end Reading

/-- The types of managed objects. An operation that changes an object gives its new state,
and whether it was accepted. -/
class ManagedObject (M : Type) where
  /-- Reads a node. -/
  read : M → (path : String) → Reading
  /-- Writes a node. -/
  write : M → (path data : String) → Bool × M
  /-- Removes a node with all below it. -/
  remove : M → (path : String) → Bool × M
  /-- Runs an executable node. -/
  execute : M → (path : String) → Bool × M
  /-- Tells whether the object serves a type. -/
  serves : M → (typeId : String) → Bool
  /-- The object after it has been attached to a type. -/
  onAttach : M → M
  /-- The object after the client has shut down. -/
  onClose : M → M
  /-- The whole content of the object. -/
  content : M → Json.Value
  /-- The instance id that the object reports for itself. -/
  instanceId : M → String

/-- A reference to a managed object. -/
abbrev Handle : Type := Nat

/-- The present state of the object behind each handle. -/
abbrev Store (M : Type) : Type := Handle → M

/-- The store after the object behind a handle has changed. -/
def Store.modify {M : Type} (store : Store M) (handle : Handle) (change : M → M) : Store M :=
  fun h => if h = handle then change (store h) else store h

@[simp]
theorem Store.modify_self {M : Type} (store : Store M) (handle : Handle) (change : M → M) :
  store.modify handle change handle = change (store handle)
  := by
  simp [modify]

theorem Store.modify_of_ne {M : Type} {handle other : Handle} (h : other ≠ handle)
    (store : Store M) (change : M → M) :
  store.modify handle change other = store other
  := by
  simp [modify, h]

end DeviceManagement
