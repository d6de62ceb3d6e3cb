import DeviceManagement.Event

/-!
# Networks and activities

`Network N` says that the values of a type `N` are states of a network from which resources
can be fetched. An `Activity N α` runs on such a network: it yields a value of type `α`, the
network as it leaves it, and its actions, in order. Activities follow each other by the
operations of a monad, and an activity that is a sequence of others takes their actions one
after the other.
-/

namespace DeviceManagement

/-- The states of a network from which resources can be fetched. -/
class Network (N : Type) where
  /-- The outcome of fetching a resource, and the network afterwards. -/
  get : N → Address → Except Fault String × N

/-- What an activity does on the way. -/
inductive Action where
  | log (event : Event)
  | post (url : String) (headers : List (String × String)) (body : String)
  | get (address : Address)
  | wait (milliseconds : Nat)

/-- The result of an activity. -/
structure Result (N α : Type) where
  value : α
  network : N
  actions : List Action

/-- An activity on a network. -/
def Activity (N α : Type) : Type :=
  N → Result N α

namespace Activity

variable {N α β : Type}

instance : Monad (Activity N) where
  pure a := fun network => ⟨a, network, []⟩
  bind x f := fun network =>
    let first := x network
    let second := f first.value first.network
    ⟨second.value, second.network, first.actions ++ second.actions⟩

/-- The activity that consists of an action. -/
def act (action : Action) : Activity N Unit :=
  fun network => ⟨(), network, [action]⟩

/-- The activity that writes an event into the log. -/
def log (event : Event) : Activity N Unit :=
  act (.log event)

/-- The activity that yields a value and writes the events on the way to it into the log. -/
def ofLogged (x : Logged α) : Activity N α :=
  fun network => ⟨x.value, network, x.events.map .log⟩

/-- The activity that fetches a resource. -/
def get [Network N] (address : Address) : Activity N (Except Fault String) :=
  fun network =>
    let (outcome, network) := Network.get network address
    ⟨outcome, network, [.get address]⟩

@[simp]
theorem pure_apply (a : α) (network : N) :
  (pure a : Activity N α) network = ⟨a, network, []⟩
  := rfl

@[simp]
theorem bind_apply (x : Activity N α) (f : α → Activity N β) (network : N) :
  (x >>= f) network =
    ⟨(f (x network).value (x network).network).value,
      (f (x network).value (x network).network).network,
      (x network).actions ++ (f (x network).value (x network).network).actions⟩
  := rfl

@[simp]
theorem act_apply (action : Action) (network : N) :
  act action network = ⟨(), network, [action]⟩
  := rfl

@[simp]
theorem ofLogged_apply (x : Logged α) (network : N) :
  ofLogged x network = ⟨x.value, network, x.events.map .log⟩
  := rfl

/-- The actions of a sequence do not depend on how its parts are grouped. -/
instance : LawfulMonad (Activity N) :=
  LawfulMonad.mk' (Activity N)
    (fun x => by
      funext network
      simp [Functor.map, Function.comp])
    (fun a f => by
      funext network
      simp [bind, pure])
    (fun x f g => by
      funext network
      simp [bind])

end Activity

end DeviceManagement
