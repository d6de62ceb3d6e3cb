import DeviceManagement.Network

/-!
# Requests of activities

The requests among some actions are the packages posted and the resources got, in order; what
is logged and waited for is left out. `posts` and `addresses` are the two kinds apart: actions
that post nothing are determined by the addresses they get. `logLines` are the lines that actions
write into a log. `Result.quiet` is a result with nothing but its requests as its actions, and a
sequence of activities is quiet part by part.

A `Script` is a network that answers from a list, whatever it is asked for.
-/

namespace DeviceManagement

namespace Action

/-- Whether an action is a request to the outside. -/
def isRequest : Action → Bool
  | post _ _ _ | get _ => true
  | log _ | wait _ => false

/-- Whether an action posts a package. -/
def isPost : Action → Bool
  | post _ _ _ => true
  | _ => false

/-- The address of the resource that an action gets. -/
def address? : Action → Option Address
  | get address => some address
  | _ => none

end Action

/-- The requests among some actions. -/
def requests (actions : List Action) : List Action :=
  actions.filter Action.isRequest

/-- The posts among some actions. -/
def posts (actions : List Action) : List Action :=
  actions.filter Action.isPost

/-- The addresses that some actions get. -/
def addresses (actions : List Action) : List Address :=
  actions.filterMap Action.address?

@[simp]
theorem requests_nil :
  requests [] = []
  := rfl

@[simp]
theorem requests_append (first second : List Action) :
  requests (first ++ second) = requests first ++ requests second
  := List.filter_append ..

@[simp]
theorem posts_append (first second : List Action) :
  posts (first ++ second) = posts first ++ posts second
  := List.filter_append ..

theorem addresses_append (first second : List Action) :
  addresses (first ++ second) = addresses first ++ addresses second
  := List.filterMap_append

/-- What is written into the log makes no request. -/
@[simp]
theorem requests_map_log (events : List Event) :
  requests (events.map .log) = []
  := by
  simp [requests, Action.isRequest]

/-- Actions that post nothing make no requests but those for the addresses they get. -/
theorem requests_eq_of_posts_eq_nil {actions : List Action} (h : posts actions = []) :
  requests actions = (addresses actions).map .get
  := by
  induction actions with
  | nil => rfl
  | cons action actions ih =>
      cases action with
      | post => simp [posts, Action.isPost] at h
      | get address => exact congrArg (Action.get address :: ·) (ih h)
      | log | wait => exact ih h

/-- Every post is a request. -/
theorem posts_requests (actions : List Action) :
  posts (requests actions) = posts actions
  := by
  rw [posts, requests, List.filter_filter]
  apply List.filter_congr
  intro action _
  cases action <;> rfl

theorem posts_map_get (targets : List Address) :
  posts (targets.map .get) = []
  := by
  simp [posts, Action.isPost]

theorem posts_cons_of_isPost {action : Action} (h : action.isPost) (actions : List Action) :
  posts (action :: actions) = action :: posts actions
  := by
  rw [posts, List.filter_cons, if_pos h]
  rfl

/-- Where a package is posted before each group of resources is got, the packages are what is
posted. -/
theorem posts_flatMap_cons_map_get
    {package : Nat → Action} (h : ∀ k, (package k).isPost) (targets : Nat → List Address)
    (numbers : List Nat) :
  posts (numbers.flatMap fun k => package k :: (targets k).map .get) = numbers.map package
  := by
  induction numbers with
  | nil => rfl
  | cons k numbers ih =>
      rw [List.flatMap_cons, posts_append, posts_cons_of_isPost (h k), posts_map_get, ih]
      rfl

/-! ### Lines of a log -/

/-- The line that an action writes into the log. -/
def Action.line? : Action → Option (Level × String)
  | log event => some (event.level, event.text)
  | _ => none

/-- The lines that some actions write into the log. -/
def logLines (actions : List Action) : List (Level × String) :=
  actions.filterMap Action.line?

theorem logLines_append (first second : List Action) :
  logLines (first ++ second) = logLines first ++ logLines second
  := List.filterMap_append

/-! ### Quiet results -/

/-- A result without what has been logged and waited for. -/
def Result.quiet {N α : Type} (r : Result N α) : Result N α :=
  { r with actions := requests r.actions }

namespace Activity

variable {N α β : Type}

/-- A sequence makes the requests of its parts one after the other. -/
theorem quiet_bind (x : Activity N α) (f : α → Activity N β) (network : N) :
  ((x >>= f) network).quiet =
    ⟨(f (x network).quiet.value (x network).quiet.network).quiet.value,
      (f (x network).quiet.value (x network).quiet.network).quiet.network,
      (x network).quiet.actions
        ++ (f (x network).quiet.value (x network).quiet.network).quiet.actions⟩
  := by
  simp [Result.quiet]

@[simp]
theorem quiet_pure (a : α) (network : N) :
  ((pure a : Activity N α) network).quiet = ⟨a, network, []⟩
  := rfl

@[simp]
theorem quiet_log (event : Event) (network : N) :
  (log event network).quiet = ⟨(), network, []⟩
  := rfl

@[simp]
theorem quiet_ofLogged (x : Logged α) (network : N) :
  (ofLogged x network).quiet = ⟨x.value, network, []⟩
  := by
  simp [Result.quiet]

end Activity

/-! ### Scripted networks -/

/-- A network that answers from a list, whatever it is asked for. When the list is used up,
the connection is refused. -/
structure Script where
  outcomes : List (Except Fault String)

instance : Network Script where
  get script _ :=
    (script.outcomes.headD (.error (.transport "connection refused")), ⟨script.outcomes.tail⟩)

end DeviceManagement
