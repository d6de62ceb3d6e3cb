import DeviceManagement.Command.Queue
import DeviceManagement.Proofs.Requests
import Mathlib.Data.ENat.Lattice

/-!
# Fetches with retries

A fetch gets its resource again and again while the connection fails, as often as its policy
allows. `Command.exists_fetch_eq` tells everything that a fetch does, given the outcomes that the
network has for it one after the other, and `min_firstSettled` tells the number of its attempts
from them. `CommandQueue.drain_hget_cons` is the whole way of a fetch command: from its parameters
to the status that it leaves in the queue.
-/

namespace DeviceManagement

variable {N : Type} [Network N]

/-! ### Outcomes in a row -/

namespace Network

/-- The network after a resource has been got a number of times. -/
def leftBy (address : Address) : (times : Nat) → N → N
  | 0, network => network
  | times + 1, network => leftBy address times (get network address).2

/-- The outcome of getting a resource that has been got a number of times before. -/
def outcomeAfter (network : N) (address : Address) (times : Nat) : Except Fault String :=
  (get (leftBy address times network) address).1

end Network

/-- An outcome is settled unless the connection has failed. -/
def IsSettled (outcome : Except Fault String) : Prop :=
  ∀ detail, outcome ≠ .error (.transport detail)

/-- The position, counted from one, of the first of some outcomes that is settled; infinite if
none is. -/
noncomputable def firstSettled (outcomes : Nat → Except Fault String) : ℕ∞ :=
  ⨅ i, ⨅ _ : IsSettled (outcomes i), ((i + 1 : ℕ) : ℕ∞)

/-- Attempts that go on up to a bound, and no further than the first settled outcome, are as many
as the smaller of both numbers. -/
theorem min_firstSettled
    {outcomes : Nat → Except Fault String} {count bound : Nat} (hle : count + 1 ≤ bound)
    (hfaults : ∀ i < count, ¬ IsSettled (outcomes i))
    (hlast : count + 1 < bound → IsSettled (outcomes count)) :
  min (bound : ℕ∞) (firstSettled outcomes) = ((count + 1 : ℕ) : ℕ∞)
  := by
  apply le_antisymm
  · by_cases hbound : count + 1 < bound
    · apply min_le_of_right_le
      apply iInf₂_le count (hlast hbound)
    · apply min_le_of_left_le
      rw [Nat.cast_le]
      apply Nat.le_of_not_lt hbound
  · apply le_min
    · rw [Nat.cast_le]
      apply hle
    · apply le_iInf₂
      intro i hi
      rw [Nat.cast_le, Nat.succ_le_succ_iff]
      by_contra hlt
      apply hfaults i (Nat.lt_of_not_le hlt) hi

namespace Command

/-! ### Attempts -/

/-- What a fetch does for an attempt that is not its last: it gets the resource, tells that the
connection has failed, and waits, one backoff longer after each attempt. -/
def retriedAttempt (retry : RetryPolicy) (address : Address) (attempt : Nat) (detail : String) :
    List Action :=
  [.get address, .log (.fetchRetried address attempt retry.maxAttempts.toNat (.transport detail)),
    .wait (min (attempt * retry.backoff.toNat) (2 ^ 64 - 1))]

/-- The line that tells of an attempt that is not the last. It is a warning. -/
def retryLine (retry : RetryPolicy) (address : Address) (attempt : Nat) (detail : String) :
    Level × String :=
  (.warn, "GET " ++ address.display ++ " failed (attempt " ++ attempt.repr ++ "/"
    ++ retry.maxAttempts.toNat.repr ++ "): " ++ (Fault.transport detail).message)

theorem logLines_retriedAttempt
    (retry : RetryPolicy) (address : Address) (attempt : Nat) (detail : String) :
  logLines (retriedAttempt retry address attempt detail)
    = [retryLine retry address attempt detail]
  := rfl

section

variable (retry : RetryPolicy) (address : Address) (more attempt : Nat) {network : N}

/-- A fetch ends with an outcome that is settled. -/
theorem fetch_of_isSettled (h : IsSettled (Network.outcomeAfter network address 0)) :
  fetch retry address more attempt network
    = ⟨Network.outcomeAfter network address 0, Network.leftBy address 1 network, [.get address]⟩
  := by
  cases more with
  | zero => rfl
  | succ more =>
      have hvalue : (Activity.get address network).value
          = Network.outcomeAfter network address 0 := rfl
      rw [fetch, Activity.bind_apply, hvalue]
      cases houtcome : Network.outcomeAfter network address 0 with
      | ok body => rfl
      | error fault =>
          have htransient : fault.transient = false := by
            cases fault with
            | transport detail => exact absurd houtcome (h detail)
            | _ => rfl
          dsimp only
          rw [htransient]
          rfl

/-- After a fault of the connection, a fetch goes on with the next attempt, if it has one. -/
theorem fetch_succ_of_transport
    {detail : String} (h : Network.outcomeAfter network address 0 = .error (.transport detail)) :
  fetch retry address (more + 1) attempt network
    = ⟨(fetch retry address more (attempt + 1) (Network.leftBy address 1 network)).value,
        (fetch retry address more (attempt + 1) (Network.leftBy address 1 network)).network,
        retriedAttempt retry address attempt detail
          ++ (fetch retry address more (attempt + 1) (Network.leftBy address 1 network)).actions⟩
  := by
  have hvalue : (Activity.get address network).value = .error (.transport detail) := h
  rw [fetch, Activity.bind_apply, hvalue, retriedAttempt, Nat.mul_comm]
  rfl

/-- A fetch tries again after faults of the connection only, told by their details, until an
outcome is settled or no attempt is left. -/
theorem exists_fetch_eq (network : N) :
  ∃ details : List String, details.length ≤ more ∧
    (∀ i (h : i < details.length),
      Network.outcomeAfter network address i = .error (.transport details[i])) ∧
    (details.length < more → IsSettled (Network.outcomeAfter network address details.length)) ∧
    fetch retry address more attempt network
      = ⟨Network.outcomeAfter network address details.length,
          Network.leftBy address (details.length + 1) network,
          (details.mapIdx fun i detail => retriedAttempt retry address (attempt + i) detail).flatten
            ++ [.get address]⟩
  := by
  induction more generalizing attempt network with
  | zero =>
      use []
      exact ⟨Nat.le_refl 0, fun _ => nofun, nofun, rfl⟩
  | succ more ih =>
      by_cases h : IsSettled (Network.outcomeAfter network address 0)
      · use []
        refine ⟨Nat.zero_le _, fun _ => nofun, fun _ => h, ?_⟩
        rw [fetch_of_isSettled retry address _ attempt h]
        rfl
      · obtain ⟨detail, hdetail⟩ := not_forall_not.mp h
        obtain ⟨details, hle, hfaults, hlast, hfetch⟩ :=
          ih (attempt + 1) (Network.leftBy address 1 network)
        use detail :: details
        refine ⟨Nat.succ_le_succ hle, ?_, ?_, ?_⟩
        · intro i hi
          cases i with
          | zero => apply hdetail
          | succ i => apply hfaults i (Nat.lt_of_succ_lt_succ hi)
        · intro hlt
          apply hlast (Nat.lt_of_succ_lt_succ hlt)
        · -- The attempts of the rest are counted from the next number on.
          have hnumber : ∀ i, attempt + 1 + i = attempt + (i + 1) := by omega
          rw [fetch_succ_of_transport retry address more attempt hdetail, hfetch, List.mapIdx_cons]
          simp only [hnumber]
          rw [List.flatten_cons, List.append_assoc]
          rfl

end

section

variable (retry : RetryPolicy) (address : Address) (number : Nat → Nat) (details : List String)

/-- What every attempt has one of, the attempts have one by one. -/
theorem filterMap_retriedAttempts
    {β : Type} (f : Action → Option β) (value : Nat → String → β)
    (h : ∀ attempt detail,
      (retriedAttempt retry address attempt detail).filterMap f = [value attempt detail]) :
  (details.mapIdx fun i detail =>
      retriedAttempt retry address (number i) detail).flatten.filterMap f
    = details.mapIdx fun i detail => value (number i) detail
  := by
  induction details generalizing number with
  | nil => rfl
  | cons detail details ih =>
      rw [List.mapIdx_cons, List.flatten_cons, List.filterMap_append, h, ih fun i => number (i + 1),
        List.mapIdx_cons]
      rfl

/-- Every attempt gets the resource once. -/
theorem addresses_retriedAttempts :
  addresses (details.mapIdx fun i detail =>
      retriedAttempt retry address (number i) detail).flatten
    = List.replicate details.length address
  := by
  rw [addresses, filterMap_retriedAttempts retry address number details Action.address?
    (fun _ _ => address) fun _ _ => rfl]
  apply List.mapIdx_eq_replicate_iff.mpr
  intro i hi
  rfl

/-- Every attempt is told in one line. -/
theorem logLines_retriedAttempts :
  logLines (details.mapIdx fun i detail =>
      retriedAttempt retry address (number i) detail).flatten
    = details.mapIdx fun i detail => retryLine retry address (number i) detail
  := by
  apply filterMap_retriedAttempts
  apply logLines_retriedAttempt

/-- No attempt posts anything. -/
theorem posts_retriedAttempts :
  posts (details.mapIdx fun i detail =>
      retriedAttempt retry address (number i) detail).flatten = []
  := by
  induction details generalizing number with
  | nil => rfl
  | cons detail details ih =>
      rw [List.mapIdx_cons, List.flatten_cons, posts_append, ih fun i => number (i + 1)]
      rfl

end

/-! ### Commands -/

/-- What is told about storing the outcome of a fetch. -/
def storeActions (catalog : Catalog) (clientUri : String) : Except Fault String → List Action
  | .ok body => (storeBody catalog clientUri body).events.map .log
  | .error _ => []

theorem addresses_storeActions
    (catalog : Catalog) (clientUri : String) (outcome : Except Fault String) :
  addresses (storeActions catalog clientUri outcome) = []
  := by
  cases outcome with
  | ok body => simp [storeActions, addresses, Action.address?]
  | error fault => rfl

/-- The statuses that a fetch leaves with its result. Where the body went plays no part. -/
def fetchStatuses (policy : ExecutionPolicy) : Except Fault Unit → List Status
  | .ok () => [.ofCode 200]
  | .error fault => if policy.reportFailedFetches then [.ofCode fault.status] else []

/-- What is told about the result of a fetch. -/
def failureActions : Except Fault Unit → List Action
  | .ok () => []
  | .error fault => [.log (.fetchFailed fault)]

/-- A parameter that is missing is missed before any other is looked at. -/
theorem fetchTarget_of_length_lt {parameters : List String} (h : parameters.length < 2) :
  (Command.mk .hget parameters).fetchTarget
    = .error (.missingParameter .hget parameters.length)
  := by
  match parameters with
  | [] => rfl
  | [_] => rfl

theorem fetchTarget_cons_cons (url clientUri : String) (more : List String) :
  (Command.mk .hget (url :: clientUri :: more)).fetchTarget
    = (Address.parse url).map fun address => (address, clientUri)
  := by
  have htarget : (Command.mk .hget (url :: clientUri :: more)).fetchTarget
      = (Address.parse url).bind fun address => .ok (address, clientUri) := rfl
  rw [htarget]
  cases Address.parse url with
  | ok address => rfl
  | error fault => rfl

section

variable {c : Command} (retry : RetryPolicy) (catalog : Catalog) (network : N)

/-- A fetch without an address does nothing. -/
theorem executeFetch_of_error {fault : Fault} (h : c.fetchTarget = .error fault) :
  c.executeFetch retry catalog network = ⟨.error fault, network, []⟩
  := by
  rw [executeFetch, h]
  rfl

variable {address : Address} {clientUri : String} (h : c.fetchTarget = .ok (address, clientUri))

include h

theorem executeFetch_of_ok :
  let fetched := fetch retry address (retry.maxAttempts.toNat - 1) 1 network
  c.executeFetch retry catalog network
    = ⟨fetched.value.map fun _ => (), fetched.network,
        .log (.fetching address clientUri)
          :: (fetched.actions ++ storeActions catalog clientUri fetched.value)⟩
  := by
  rw [executeFetch, h]
  dsimp only
  rw [Activity.bind_apply, Activity.bind_apply, Activity.log, Activity.act_apply]
  generalize fetch retry address (retry.maxAttempts.toNat - 1) 1 network = fetched
  obtain ⟨outcome, left, actions⟩ := fetched
  cases outcome with
  | error fault => rfl
  | ok body => simp [storeActions, Except.map]

/-- What a fetch does once it has an address: as many attempts as there are up to the first settled
outcome, or up to the bound. -/
theorem exists_executeFetch_eq :
  let outcomes := Network.outcomeAfter network address
  ∃ details : List String,
    min ((max 1 retry.maxAttempts.toNat : ℕ) : ℕ∞) (firstSettled outcomes)
      = ((details.length + 1 : ℕ) : ℕ∞) ∧
    (∀ i (h : i < details.length), outcomes i = .error (.transport details[i])) ∧
    c.executeFetch retry catalog network
      = ⟨(outcomes details.length).map fun _ => (),
          Network.leftBy address (details.length + 1) network,
          .log (.fetching address clientUri)
            :: ((details.mapIdx fun i detail =>
                retriedAttempt retry address (i + 1) detail).flatten
              ++ .get address :: storeActions catalog clientUri (outcomes details.length))⟩
  := by
  intro outcomes
  obtain ⟨details, hle, hfaults, hlast, hfetch⟩ :=
    exists_fetch_eq retry address (retry.maxAttempts.toNat - 1) 1 network
  use details
  refine ⟨?_, hfaults, ?_⟩
  · apply min_firstSettled
    · omega
    · intro i hi hsettled
      apply hsettled _ (hfaults i hi)
    · intro hlt
      apply hlast
      omega
  · rw [executeFetch_of_ok retry catalog network h, hfetch]
    simp only [Nat.add_comm 1, List.append_assoc]
    rfl

end

end Command

/-- A text that is no address is told with the reason. -/
theorem Address.exists_reason_of_parse
    {url : String} {fault : Fault} (h : parse url = .error fault) :
  ∃ reason, fault = .address (url ++ ": " ++ reason)
  := by
  rw [parse] at h
  split at h
  · cases h
  · cases h
    exact ⟨_, rfl⟩

/-- A 32-bit counter that has not reached a 32-bit bound can be increased. -/
theorem toNat_ofNat_add_one {count : Nat} (bound : UInt32) (h : count < max 1 bound.toNat) :
  (UInt32.ofNat count + 1).toNat = count + 1
  := by
  have hbound := bound.toNat_lt
  have hcount : count + 1 < 2 ^ 32 := by omega
  have hlt : count < UInt32.size := Nat.lt_of_succ_lt hcount
  rw [UInt32.toNat_add, UInt32.toNat_ofNat_of_lt' hlt, UInt32.toNat_one, Nat.mod_eq_of_lt hcount]

namespace CommandQueue

/-- A fetch at the front of a queue is executed, and leaves its statuses behind those that are
there, before the rest is executed. -/
theorem drain_cons_of_hget
    (policy : ExecutionPolicy) (parameters : List String) (rest : List Command)
    (statuses : List Status) (catalog : Catalog) (network : N) :
  let c : Command := ⟨.hget, parameters⟩
  let executed := c.executeFetch policy.retry catalog network
  let further := (CommandQueue.mk policy rest
    (statuses ++ Command.fetchStatuses policy executed.value)).drain catalog executed.network
  (CommandQueue.mk policy (c :: rest) statuses).drain catalog network
    = ⟨further.value, further.network,
        executed.actions ++ Command.failureActions executed.value ++ further.actions⟩
  := by
  dsimp only
  simp only [drain, Command.executeAll, Command.execute, bind_assoc, Activity.bind_apply]
  generalize Command.executeFetch policy.retry catalog ⟨.hget, parameters⟩ network = executed
  obtain ⟨result, left, actions⟩ := executed
  cases result with
  | error fault =>
      simp [Command.fetchStatuses, Command.failureActions, addStatuses, Activity.log]
  | ok stored =>
      simp [Command.fetchStatuses, Command.failureActions, addStatuses, StatusCode.ok]

/-- The whole way of a fetch command in a queue. A parameter that is missing, or an address that is
none, is its result, with nothing done. Otherwise the resource is got as often as the policy allows,
but no further than the first settled outcome, and the last outcome is the result; each attempt but
the last is told by a warning and waited after, and a 32-bit number is enough to count them. The
result leaves its statuses behind those that are in the queue. -/
theorem drain_hget_cons
    (policy : ExecutionPolicy) (parameters : List String) (rest : List Command)
    (statuses : List Status) (catalog : Catalog) (network : N) :
  let c : Command := ⟨.hget, parameters⟩
  let executed := c.executeFetch policy.retry catalog network
  let further := (CommandQueue.mk policy rest
    (statuses ++ Command.fetchStatuses policy executed.value)).drain catalog executed.network
  (CommandQueue.mk policy (c :: rest) statuses).drain catalog network
      = ⟨further.value, further.network,
          executed.actions ++ Command.failureActions executed.value ++ further.actions⟩ ∧
    (parameters.length < 2 →
      executed = ⟨.error (.missingParameter .hget parameters.length), network, []⟩) ∧
    ∀ url clientUri more, parameters = url :: clientUri :: more →
      (∀ fault, Address.parse url = .error fault →
        (∃ reason, fault = .address (url ++ ": " ++ reason)) ∧
          executed = ⟨.error fault, network, []⟩) ∧
      ∀ address, Address.parse url = .ok address →
        let outcomes := Network.outcomeAfter network address
        ∃ details : List String,
          min ((max 1 policy.retry.maxAttempts.toNat : ℕ) : ℕ∞) (firstSettled outcomes)
            = ((details.length + 1 : ℕ) : ℕ∞) ∧
          (∀ i (h : i < details.length), outcomes i = .error (.transport details[i])) ∧
          (∀ attempt ≤ details.length, (UInt32.ofNat attempt + 1).toNat = attempt + 1) ∧
          addresses executed.actions = List.replicate (details.length + 1) address ∧
          logLines executed.actions
            = (.info, "HGET " ++ address.display ++ " -> " ++ clientUri)
              :: ((details.mapIdx fun i detail =>
                  Command.retryLine policy.retry address (i + 1) detail)
                ++ logLines (Command.storeActions catalog clientUri (outcomes details.length))) ∧
          executed
            = ⟨(outcomes details.length).map fun _ => (),
                Network.leftBy address (details.length + 1) network,
                .log (.fetching address clientUri)
                  :: ((details.mapIdx fun i detail =>
                      Command.retriedAttempt policy.retry address (i + 1) detail).flatten
                    ++ .get address
                      :: Command.storeActions catalog clientUri (outcomes details.length))⟩
  := by
  refine ⟨drain_cons_of_hget policy parameters rest statuses catalog network, ?_, ?_⟩
  · intro h
    apply Command.executeFetch_of_error
    apply Command.fetchTarget_of_length_lt h
  · rintro url clientUri more rfl
    have htarget := Command.fetchTarget_cons_cons url clientUri more
    constructor
    · intro fault hfault
      rw [hfault] at htarget
      use Address.exists_reason_of_parse hfault
      apply Command.executeFetch_of_error _ _ _ htarget
    · intro address haddress outcomes
      rw [haddress] at htarget
      obtain ⟨details, hcount, hfaults, hexecuted⟩ :=
        Command.exists_executeFetch_eq policy.retry catalog network htarget
      have hbound : details.length + 1 ≤ max 1 policy.retry.maxAttempts.toNat := by
        rw [← Nat.cast_le (α := ℕ∞), ← hcount]
        apply min_le_left
      use details, hcount, hfaults
      refine ⟨?_, ?_, ?_, hexecuted⟩
      · intro attempt hattempt
        apply toNat_ofNat_add_one policy.retry.maxAttempts
        omega
      · have hget : addresses (.get address
            :: Command.storeActions catalog clientUri (outcomes details.length)) = [address] :=
          congrArg (address :: ·) (Command.addresses_storeActions _ _ _)
        rw [hexecuted, ← List.singleton_append, addresses_append, addresses_append, hget,
          Command.addresses_retriedAttempts, List.replicate_succ']
        rfl
      · rw [hexecuted, ← List.singleton_append, logLines_append, logLines_append,
          Command.logLines_retriedAttempts]
        rfl

/-- A body that is no text is not fetched again, however often the policy allows it, and with one
parameter only there is nothing to fetch, be it an address or not. -/
theorem drain_hget_cons_decode_fault :
  let policy : ExecutionPolicy := ⟨true, ⟨4294967295, 18446744073709551615⟩⟩
  let address : Address := ⟨.http, none, "h", 8080, "/x"⟩
  let network : Script :=
    ⟨[.error (.transport "reset"), .error (.transport "refused"), .error (.decode "no text")]⟩
  let executed (parameters : List String) :=
    Command.executeFetch policy.retry .empty ⟨.hget, parameters⟩ network
  Address.parse "http://h/x" = .ok address ∧
    min ((max 1 4294967295 : ℕ) : ℕ∞) (firstSettled (Network.outcomeAfter network address))
      = ((3 : ℕ) : ℕ∞) ∧
    addresses (executed ["http://h/x", "t/1/a", "more"]).actions = [address, address, address] ∧
    executed ["ftp://h/x"] = ⟨.error (.missingParameter .hget 1), network, []⟩
  := by
  intro policy address network executed
  have hparse : Address.parse "http://h/x" = .ok address := by
    decide +kernel
  have hthree : addresses (executed ["http://h/x", "t/1/a", "more"]).actions
      = [address, address, address] := by
    decide +kernel
  obtain ⟨-, -, hlong⟩ :=
    drain_hget_cons policy ["http://h/x", "t/1/a", "more"] [] [] .empty network
  obtain ⟨-, hok⟩ := hlong _ _ _ rfl
  obtain ⟨details, hcount, -, -, haddresses, -⟩ := hok address hparse
  have hlength : details.length + 1 = 3 := by
    simpa using congrArg List.length (haddresses.symm.trans hthree)
  rw [hlength] at hcount
  obtain ⟨-, hshort, -⟩ := drain_hget_cons policy ["ftp://h/x"] [] [] .empty network
  exact ⟨hparse, hcount, hthree, hshort (by decide)⟩

end CommandQueue

end DeviceManagement
