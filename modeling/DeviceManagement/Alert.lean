/-!
# Alerts

Alerts wait in a queue until the first package of a session takes them along. `flush` gives
the alerts that wait and marks them as in transit; they stay in the queue, so that none is
sent twice.
-/

namespace DeviceManagement

/-- The types of alert. -/
inductive AlertType where
  /-- The client has started a session. -/
  | clientInitiated
  /-- The client has started a session because the server asked for it. -/
  | serverInitiated
  /-- Any other type, given by its URN. -/
  | other (urn : String)
  deriving DecidableEq, Repr

namespace AlertType

/-- The URN of the alert of a session that the client starts. -/
def clientInitiatedUrn : String := "urn:oma:at:dm:2.0:ClientInitiatedMgmt"

/-- The URN of the alert of a session that the server asks for. -/
def serverInitiatedUrn : String := "urn:oma:at:dm:2.0:ServerInitiatedMgmt"

/-- The type with the given URN. -/
def ofUrn (urn : String) : AlertType :=
  if urn = clientInitiatedUrn then clientInitiated
  else if urn = serverInitiatedUrn then serverInitiated
  else other urn

/-- The URN of a type. -/
def urn : AlertType → String
  | clientInitiated => clientInitiatedUrn
  | serverInitiated => serverInitiatedUrn
  | other urn => urn

/-- The type of the alert of a session. -/
def ofSession (serverInitiated : Bool) : AlertType :=
  if serverInitiated then .serverInitiated else .clientInitiated

/-- A URN stays the same when it is taken as a type. -/
@[simp]
theorem urn_ofUrn (s : String) :
  (ofUrn s).urn = s
  := by
  unfold ofUrn
  split
  · simp [urn, *]
  · split <;> simp [urn, *]

end AlertType

/-- An alert. -/
structure Alert where
  type : AlertType
  source : String
  target : String
  mark : String
  dataType : String
  data : String
  /-- The alert has been taken into a package. -/
  inTransit : Bool
  deriving DecidableEq, Repr

namespace Alert

/-- The alert of the given type that has nothing more to say. -/
def ofType (type : AlertType) : Alert :=
  ⟨type, "", "", "", "", "", false⟩

/-- An alert is blank if it says nothing but its type. -/
def isBlank (a : Alert) : Bool :=
  [a.source, a.target, a.mark, a.dataType, a.data].all String.isEmpty

end Alert

/-- The alerts of a client, in the order in which they were added. -/
structure AlertQueue where
  alerts : List Alert
  deriving Repr

namespace AlertQueue

/-- The queue without alerts. -/
def empty : AlertQueue :=
  ⟨[]⟩

/-- The queue with one more alert. -/
def add (q : AlertQueue) (alert : Alert) : AlertQueue :=
  ⟨q.alerts ++ [alert]⟩

/-- The alerts that wait. -/
def pending (q : AlertQueue) : List Alert :=
  q.alerts.filter fun alert => !alert.inTransit

/-- The number of all alerts, be they in transit or not. -/
def length (q : AlertQueue) : Nat :=
  q.alerts.length

/-- The number of the alerts that wait. -/
def pendingCount (q : AlertQueue) : Nat :=
  q.pending.length

/-- The URNs of the alerts that wait, and the queue in which none waits any more. -/
def flush (q : AlertQueue) : List String × AlertQueue :=
  (q.pending.map fun alert => alert.type.urn,
    ⟨q.alerts.map fun alert => { alert with inTransit := true }⟩)

/-- An alert that is added waits behind the others, unless it is in transit already. -/
@[simp]
theorem pending_add (q : AlertQueue) (alert : Alert) :
  (q.add alert).pending = q.pending ++ [alert].filter fun alert => !alert.inTransit
  := by
  simp [add, pending]

/-- After a flush no alert waits. -/
@[simp]
theorem pending_flush (q : AlertQueue) :
  q.flush.2.pending = []
  := by
  simp [flush, pending]

end AlertQueue

end DeviceManagement
