import DeviceManagement.Proofs.Retries

/-!
# Execution of commands

What executing commands comes to, told without the catalog. `download` is the part of a fetch
that asks the network, `answer` the status code a command is answered with, `fetches` the
addresses it gets, and `leave` the network as it leaves it. In `schedule` every command stands
with the network it finds; `executeAll` answers and fetches by the schedule, in its order.
-/

namespace DeviceManagement

/-! ### Schedules -/

/-- Some elements, each with the state it finds after the ones before it, where `leave` gives the
state that an element leaves. -/
def schedule {α N : Type} (leave : α → N → N) : List α → N → List (α × N)
  | [], _ => []
  | a :: rest, network => (a, network) :: schedule leave rest (leave a network)

/-- A schedule leaves nothing out. -/
theorem map_fst_schedule {α N : Type} (leave : α → N → N) (elements : List α) (network : N) :
  (schedule leave elements network).map Prod.fst = elements
  := by
  induction elements generalizing network with
  | nil => rfl
  | cons a rest ih => rw [schedule, List.map_cons, ih]

namespace Command

variable {N : Type} [Network N]

/-- Fetches the resource that a fetch command names. -/
def download (retry : RetryPolicy) (c : Command) : Activity N (Except Fault String) :=
  match c.fetchTarget with
  | .error fault => return .error fault
  | .ok (address, _) => fetch retry address (retry.maxAttempts.toNat - 1) 1

/-- The addresses that a command gets on a network. Only a fetch gets any. -/
def fetches (retry : RetryPolicy) (c : Command) (network : N) : List Address :=
  if c.kind = .hget then addresses (c.download retry network).actions else []

/-- The network that a command leaves. Only a fetch changes it. -/
def leave (retry : RetryPolicy) (c : Command) (network : N) : N :=
  if c.kind = .hget then (c.download retry network).network else network

/-- The status code that a command is answered with on a network, if it is answered. -/
def answer (policy : ExecutionPolicy) (c : Command) (network : N) : Option StatusCode :=
  if c.kind = .hget then
    match (c.download policy.retry network).value with
    | .ok _ => some .ok
    | .error fault => if policy.reportFailedFetches then some fault.status else none
  else
    some .notImplemented

/-- The network that some commands leave. -/
def leaveAll (retry : RetryPolicy) (commands : List Command) (network : N) : N :=
  commands.foldl (fun network c => c.leave retry network) network

/-! ### Fetching -/

/-- However many attempts a fetch makes, it posts nothing. -/
theorem posts_fetch (retry : RetryPolicy) (address : Address) (more attempt : Nat) (network : N) :
  posts (fetch retry address more attempt network).actions = []
  := by
  obtain ⟨details, -, -, -, hfetch⟩ := exists_fetch_eq retry address more attempt network
  rw [hfetch, posts_append, posts_retriedAttempts]
  rfl

/-- A fetch gets its resource a number of times, and nothing else. -/
theorem addresses_fetch
    (retry : RetryPolicy) (address : Address) (more attempt : Nat) (network : N) :
  ∃ attempts ≤ more + 1,
    addresses (fetch retry address more attempt network).actions
      = List.replicate attempts address
  := by
  obtain ⟨details, hle, -, -, hfetch⟩ := exists_fetch_eq retry address more attempt network
  use details.length + 1, Nat.succ_le_succ hle
  rw [hfetch, addresses_append, addresses_retriedAttempts, List.replicate_succ']
  rfl

theorem posts_download (retry : RetryPolicy) (c : Command) (network : N) :
  posts (c.download retry network).actions = []
  := by
  unfold download
  cases c.fetchTarget with
  | error fault => rfl
  | ok target => apply posts_fetch

/-- A command that gets anything is a fetch, and what it gets is the resource it names, at most
as often as the policy allows. -/
theorem exists_fetches_eq_replicate
    {retry : RetryPolicy} {c : Command} {network : N} (h : c.fetches retry network ≠ []) :
  c.kind = .hget ∧ ∃ address clientUri attempts, c.fetchTarget = .ok (address, clientUri) ∧
    attempts ≤ max 1 retry.maxAttempts.toNat ∧
    c.fetches retry network = List.replicate attempts address
  := by
  unfold fetches download at h ⊢
  split at h
  · rename_i hkind
    rw [if_pos hkind]
    refine ⟨hkind, ?_⟩
    cases htarget : c.fetchTarget with
    | error fault =>
        rw [htarget] at h
        exact absurd rfl h
    | ok target =>
        obtain ⟨attempts, hle, hfetch⟩ :=
          addresses_fetch retry target.1 (retry.maxAttempts.toNat - 1) 1 network
        exact ⟨target.1, target.2, attempts, rfl, by omega, hfetch⟩
  · exact absurd rfl h

/-- Executing a fetch does what its download does; what becomes of the body stays inside the
client, and a body that cannot be stored is no failure. -/
theorem quiet_executeFetch
    (retry : RetryPolicy) (catalog : Catalog) (c : Command) (network : N) :
  (c.executeFetch retry catalog network).quiet
    = ⟨(c.download retry network).value.map fun _ => (), (c.download retry network).network,
        (addresses (c.download retry network).actions).map .get⟩
  := by
  rw [← requests_eq_of_posts_eq_nil (posts_download retry c network)]
  unfold executeFetch download
  cases c.fetchTarget with
  | error fault => rfl
  | ok target =>
      simp only [Activity.quiet_bind, Activity.quiet_log, List.nil_append]
      generalize fetch retry target.1 (retry.maxAttempts.toNat - 1) 1 network = fetched
      obtain ⟨outcome, left, actions⟩ := fetched
      cases outcome with
      | error fault => simp only [Result.quiet, Activity.pure_apply, requests_nil,
          List.append_nil, Except.map]
      | ok body => simp only [Result.quiet, Activity.bind_apply, Activity.ofLogged_apply,
          Activity.pure_apply, List.append_nil, requests_map_log, Except.map]

/-! ### Executing -/

/-- Executing a command answers it, fetches what it fetches, and leaves the network it
leaves. -/
theorem quiet_execute
    (policy : ExecutionPolicy) (catalog : Catalog) (c : Command) (network : N) :
  (c.execute policy catalog network).quiet
    = ⟨((c.answer policy network).map Status.ofCode).toList, c.leave policy.retry network,
        (c.fetches policy.retry network).map .get⟩
  := by
  by_cases h : c.kind = .hget
  · simp only [execute, h, answer, leave, fetches, if_pos, Activity.quiet_bind,
      quiet_executeFetch]
    cases (c.download policy.retry network).value with
    | ok body => simp only [Except.map, Activity.quiet_pure, List.append_nil]; rfl
    | error fault =>
        simp only [Except.map, Activity.quiet_bind, Activity.quiet_log, Activity.quiet_pure,
          List.append_nil]
        cases policy.reportFailedFetches with
        | false => rfl
        | true => rfl
  · simp only [execute, answer, leave, fetches, if_neg h]
    cases hk : c.kind with
    | hget => exact absurd hk h
    | _ => rfl

/-- Executing commands one after the other goes by their schedule. -/
theorem quiet_executeAll
    (policy : ExecutionPolicy) (catalog : Catalog) (commands : List Command) (network : N) :
  (executeAll policy catalog commands network).quiet
    = ⟨(schedule (leave policy.retry) commands network).filterMap fun (c, network) =>
          (c.answer policy network).map Status.ofCode,
        leaveAll policy.retry commands network,
        ((schedule (leave policy.retry) commands network).flatMap fun (c, network) =>
          c.fetches policy.retry network).map .get⟩
  := by
  induction commands generalizing network with
  | nil => rfl
  | cons c commands ih =>
      simp only [executeAll, Activity.quiet_bind, quiet_execute, ih, Activity.quiet_pure,
        List.append_nil, schedule, List.flatMap_cons, List.map_append, List.filterMap_cons]
      cases c.answer policy network with
      | none => rfl
      | some code => rfl

end Command

end DeviceManagement
