import DeviceManagement.Proofs.SessionRun

/-!
# Positions of statuses

A status does not name its command, so a server can tell them apart only by their positions.
`Exchange.outcomes` are the outcomes of the commands of a text in the order of the text, where
unknown commands stand among the others. The response has all of them, but those of the unknown
commands first. `map_filter_append_eq_map_iff` tells when that makes no difference: when whatever
comes before an unknown command has the outcome of an unknown command too.
-/

namespace DeviceManagement

/-! ### Moving elements to the front -/

section

variable {α β : Type} {b : β}

/-- An element can be moved over copies of one value if there are none, or if it is that value
itself. -/
theorem append_cons_eq_cons_iff
    {front : List β} (h : ∀ a ∈ front, a = b) {x : β} {rest all : List β} :
  front ++ x :: rest = x :: all ↔ (front ≠ [] → x = b) ∧ front ++ rest = all
  := by
  cases front with
  | nil => simp
  | cons a front =>
      obtain rfl := h a List.mem_cons_self
      have hfront : front = List.replicate front.length a :=
        List.eq_replicate_of_mem fun y hy => h y (List.mem_cons_of_mem a hy)
      have hmove : front ++ a :: rest = (a :: front) ++ rest := by
        rw [hfront, ← List.replicate_succ, List.replicate_succ', List.append_assoc]
        rfl
      constructor
      · intro heq
        obtain ⟨rfl, htail⟩ := List.cons_eq_cons.mp heq
        constructor
        · intro _
          rfl
        · rw [← hmove]
          exact htail
      · rintro ⟨hx, htail⟩
        obtain rfl := hx (List.cons_ne_nil _ _)
        rw [← htail, ← hmove]
        rfl

/-- When the elements of a kind all have the same value, moving them to the front keeps the
values in place exactly if all that comes before an element of the kind has that value. -/
theorem map_filter_append_eq_map_iff
    {p : α → Bool} {f : α → β} (h : ∀ x, p x → f x = b) (l : List α) :
  (l.filter p ++ l.filter (!p ·)).map f = l.map f
    ↔ l.Pairwise fun x y => p y → ¬ p x → f x = b
  := by
  induction l with
  | nil => simp
  | cons x l ih =>
      rw [List.pairwise_cons, ← ih]
      cases hx : p x with
      | true => simp [hx]
      | false =>
          have hfront : ∀ a ∈ (l.filter p).map f, a = b := by
            intro a ha
            obtain ⟨y, hy, rfl⟩ := List.mem_map.mp ha
            apply h
            exact (List.mem_filter.mp hy).2
          have hnone : (l.filter p).map f ≠ [] ↔ ∃ y ∈ l, p y := by
            simp [List.filter_eq_nil_iff]
          simp only [List.filter_cons, hx, Bool.not_false, if_true, Bool.false_eq_true, if_false,
            List.map_append, List.map_cons, append_cons_eq_cons_iff hfront, hnone,
            not_false_eq_true, forall_const]
          apply and_congr_left
          intro _
          constructor
          · intro hvalue y hy hpy
            apply hvalue
            exact ⟨y, hy, hpy⟩
          · rintro hvalue ⟨y, hy, hpy⟩
            apply hvalue y hy hpy

end

variable {N : Type} [Network N]

/-! ### Outcomes -/

namespace Command

/-- The outcome of a command on a network, answered or not. -/
def outcome (retry : RetryPolicy) (c : Command) (network : N) : StatusCode :=
  if c.kind = .hget then
    match (c.download retry network).value with
    | .ok _ => .ok
    | .error fault => fault.status
  else
    .notImplemented

/-- Where failures are reported, every command is answered with its outcome. -/
theorem answer_eq_outcome {policy : ExecutionPolicy} (h : policy.reportFailedFetches = true)
    (c : Command) (network : N) :
  c.answer policy network = some (c.outcome policy.retry network)
  := by
  unfold answer outcome
  split
  · cases (c.download policy.retry network).value with
    | ok body => rfl
    | error fault => rfl
  · rfl

end Command

namespace RawCommand

/-- The network that a raw command leaves. Only one that is a command to execute changes it. -/
def leave (retry : RetryPolicy) (raw : RawCommand) (network : N) : N :=
  match raw.command? with
  | some c => c.leave retry network
  | none => network

/-- The outcome of a raw command on a network. What is no command to execute is not
implemented. -/
def outcome (retry : RetryPolicy) (raw : RawCommand) (network : N) : StatusCode :=
  match raw.command? with
  | some c => c.outcome retry network
  | none => .notImplemented

theorem command?_eq_none_of_isUnknown {raw : RawCommand} (h : raw.isUnknown) :
  raw.command? = none
  := by
  unfold isUnknown at h
  rw [command?, Option.isNone_iff_eq_none.mp h]

/-- A raw command that does not end a session is unknown or to be executed. -/
theorem command?_eq_some_of_not_isUnknown {raw : RawCommand} (h : ¬ raw.isUnknown)
    (hend : CommandKind.ofName? raw.name ≠ some .endSession) :
  ∃ c, raw.command? = some c
  := by
  unfold isUnknown at h
  unfold command?
  split
  · rename_i hname
    exact absurd hname hend
  · exact ⟨_, rfl⟩
  · rename_i hname
    simp [hname] at h

/-- What is unknown is not implemented. -/
theorem outcome_of_isUnknown (retry : RetryPolicy) {raw : RawCommand} (h : raw.isUnknown)
    (network : N) :
  raw.outcome retry network = .notImplemented
  := by
  rw [outcome, command?_eq_none_of_isUnknown h]

/-- Where raw commands are unknown, they are not implemented. -/
theorem filter_isUnknown_schedule
    (retry : RetryPolicy) (raws : List RawCommand) (network : N) :
  ((schedule (leave retry) raws network).filter (·.1.isUnknown)).map
      (fun p => p.1.outcome retry p.2)
    = (raws.filter isUnknown).map fun _ => .notImplemented
  := by
  have hraws : raws.filter isUnknown
      = ((schedule (leave retry) raws network).filter (·.1.isUnknown)).map Prod.fst := by
    conv => lhs; rw [← map_fst_schedule (leave retry) raws network, List.filter_map]
    rfl
  rw [hraws, List.map_map]
  apply List.map_congr_left
  intro p hp
  apply outcome_of_isUnknown
  exact (List.mem_filter.mp hp).2

/-- Where no raw command ends the session, those that are not unknown go by the schedule of
their commands. -/
theorem filter_schedule
    (retry : RetryPolicy) {raws : List RawCommand}
    (h : ∀ raw ∈ raws, CommandKind.ofName? raw.name ≠ some .endSession) (network : N) :
  ((schedule (leave retry) raws network).filter (!·.1.isUnknown)).map
      (fun p => p.1.outcome retry p.2)
    = (schedule (Command.leave retry) (raws.filterMap command?) network).map
        fun p => p.1.outcome retry p.2
  := by
  induction raws generalizing network with
  | nil => rfl
  | cons raw raws ih =>
      have hrest := ih (fun raw' hmem => h raw' (List.mem_cons_of_mem raw hmem))
        (raw.leave retry network)
      by_cases hunknown : raw.isUnknown
      · have hnone := command?_eq_none_of_isUnknown hunknown
        have hleave : raw.leave retry network = network := by rw [leave, hnone]
        rw [hleave] at hrest
        rw [schedule, hleave, List.filter_cons_of_neg (by simpa using hunknown), hrest,
          List.filterMap_cons_none hnone]
      · obtain ⟨c, hc⟩ := command?_eq_some_of_not_isUnknown hunknown (h raw List.mem_cons_self)
        have hleave : raw.leave retry network = c.leave retry network := by rw [leave, hc]
        have houtcome : raw.outcome retry network = c.outcome retry network := by rw [outcome, hc]
        rw [hleave] at hrest
        rw [schedule, hleave, List.filter_cons_of_pos (by simpa using hunknown), List.map_cons,
          hrest, houtcome, List.filterMap_cons_some hc]
        rfl

end RawCommand

/-- No command of a text that continues the session ends it. -/
theorem Request.ofName?_ne_endSession_of_continues {text : String} (h : Continues text) :
  ∀ raw ∈ rawCommands text, CommandKind.ofName? raw.name ≠ some .endSession
  := by
  obtain ⟨entries, hentries, hcontinues⟩ := h
  intro raw hraw hend
  rw [rawCommands, hentries] at hraw
  obtain ⟨entry, hentry, hof⟩ := List.mem_filterMap.mp hraw
  apply hcontinues entry hentry
  apply (Session.Entry.isEnding_ofJson_iff entry).mp
  rw [Session.Entry.ofJson, hof]
  dsimp only
  rw [hend]
  rfl

namespace Exchange

/-- The commands of a text in its order, unknown ones among the others, each with the network
it finds. -/
def received (e : Exchange N) (k : Nat) : List (RawCommand × N) :=
  schedule (RawCommand.leave e.policy.retry) (Request.rawCommands (e.text k)) (e.networkAt k)

/-- The outcomes of the commands of a text, in its order. -/
def outcomes (e : Exchange N) (k : Nat) : List StatusCode :=
  (e.received k).map fun p => p.1.outcome e.policy.retry p.2

/-- The outcomes of the commands of a text, those of the unknown ones first. -/
def unknownFirst (e : Exchange N) (k : Nat) : List StatusCode :=
  ((e.received k).filter (·.1.isUnknown) ++ (e.received k).filter (!·.1.isUnknown)).map
    fun p => p.1.outcome e.policy.retry p.2

/-- Unknown commands come first only for the order: no outcome is left out or made up. -/
theorem unknownFirst_perm_outcomes (e : Exchange N) (k : Nat) :
  (e.unknownFirst k).Perm (e.outcomes k)
  := by
  apply List.Perm.map
  apply List.filter_append_perm

/-- Every command of a text has one outcome. -/
theorem length_outcomes (e : Exchange N) (k : Nat) :
  (e.outcomes k).length = (Request.rawCommands (e.text k)).length
  := by
  rw [outcomes, List.length_map, ← map_fst_schedule (RawCommand.leave e.policy.retry)
    (Request.rawCommands (e.text k)) (e.networkAt k), List.length_map]
  rfl

/-- Unknown commands come first at no cost exactly if what stands before them is not implemented
either. -/
theorem unknownFirst_eq_outcomes_iff (e : Exchange N) (k : Nat) :
  e.unknownFirst k = e.outcomes k
    ↔ (e.received k).Pairwise fun earlier later => later.1.isUnknown → ¬ earlier.1.isUnknown →
        earlier.1.outcome e.policy.retry earlier.2 = .notImplemented
  := by
  apply map_filter_append_eq_map_iff
  intro p hp
  apply RawCommand.outcome_of_isUnknown
  exact hp

/-- Where everything is reported, a text that continues the session is answered with the outcomes
of its commands, those of the unknown ones first. -/
theorem statuses_eq_unknownFirst
    {e : Exchange N} (hunknown : e.reportUnknownCommands = true)
    (hfailed : e.policy.reportFailedFetches = true) {k : Nat}
    (h : Request.Continues (e.text k)) :
  e.statuses k = (e.unknownFirst k).map .ofCode
  := by
  rw [statuses, Request.statuses, unknownFirst, List.map_append, List.map_append]
  congr 1
  · rw [received, RawCommand.filter_isUnknown_schedule, List.map_map, Request.unknownStatuses,
      hunknown, if_pos rfl]
    rfl
  · have hends := Request.ofName?_ne_endSession_of_continues h
    rw [received, RawCommand.filter_schedule e.policy.retry hends, List.map_map, Request.commands]
    simp only [Command.answer_eq_outcome hfailed, Option.map_some]
    rw [← List.filterMap_eq_map]
    rfl

end Exchange

/-! ### Responses -/

namespace Client

variable {M : Type} [ManagedObject M] {settings : Settings} {c : Client}

/-- Where everything is reported, the response to a text that continues the session has exactly
one status for every command of the text, its outcome. The statuses stand in the order of the
commands exactly if every command before an unknown one is answered as if it were unknown too:
otherwise the unknown command is answered before it. -/
theorem start_answers_in_position_iff
    (h : Reachable settings c) (hunknown : settings.reportUnknownCommands = true)
    (hfailed : settings.reportFailedFetches = true) (store : Store M) (serverInitiated : Bool)
    (replies : List Reply) (network : N) {n k : Nat}
    (hn : (exchange settings replies network).StopsAt n) (hk : k < n) :
  let e := exchange settings replies network
  let run := c.start store serverInitiated replies network
  ∃ codes : List StatusCode,
    (posts run.actions)[k + 1]? =
      some (settings.posting c.session.deviceId "application/vnd.oma.dm.response+json"
        (Response.text ⟨codes.map .ofCode⟩)) ∧
    codes.length = (Request.rawCommands (e.text k)).length ∧
    codes.Perm (e.outcomes k) ∧
    (codes = e.outcomes k ↔
      (e.received k).Pairwise fun earlier later =>
        later.1.isUnknown → ¬ earlier.1.isUnknown →
          earlier.1.outcome settings.retry earlier.2 = .notImplemented)
  := by
  intro e run
  have hstatuses : e.statuses k = (e.unknownFirst k).map .ofCode :=
    Exchange.statuses_eq_unknownFirst hunknown hfailed (hn.continues k hk)
  have hperm := e.unknownFirst_perm_outcomes k
  refine ⟨e.unknownFirst k, ?_, ?_, hperm, e.unknownFirst_eq_outcomes_iff k⟩
  · rw [← hstatuses]
    apply h.atRest.getElem?_posts_start
    · exact hn
    · exact hk
  · rw [hperm.length_eq, e.length_outcomes]

/-- A fetch behind an unknown command is answered in its position. -/
theorem start_answers_in_position_iff_unknown_hget :
  let settings :=
    { Settings.default with reportUnknownCommands := true, reportFailedFetches := true }
  let c := (ofSettings settings).value
  let replies : List Reply :=
    [.ok "\x7b\"CMD\":[[\"FOO\"],[\"HGET\",\"http://h/x\",\"t/1/a\"]]\x7d"]
  let e := exchange settings replies (Script.mk [.ok "body"])
  let run := c.start (fun _ => MemoryObject.empty "t") false replies (Script.mk [.ok "body"])
  (posts run.actions)[1]? =
    some (settings.posting "omadm-device" "application/vnd.oma.dm.response+json"
      (Response.text ⟨(e.outcomes 0).map .ofCode⟩))
  := by
  intro settings c replies e run
  have hc : Reachable settings c := .created
  have hn : e.StopsAt 1 := by decide +kernel
  obtain ⟨codes, hpost, -, -, hposition⟩ := start_answers_in_position_iff hc rfl rfl
    (fun _ => MemoryObject.empty "t") false replies (Script.mk [.ok "body"]) hn Nat.one_pos
  have hcodes : codes = e.outcomes 0 := by
    apply hposition.mpr
    decide +kernel
  rw [← hcodes]
  exact hpost

/-- An unknown command behind a fetch is answered before it, so that the statuses are not in the
positions of the commands. -/
theorem start_answers_out_of_position :
  let settings :=
    { Settings.default with reportUnknownCommands := true, reportFailedFetches := true }
  let c := (ofSettings settings).value
  let replies : List Reply :=
    [.ok "\x7b\"CMD\":[[\"HGET\",\"http://h/x\",\"t/1/a\"],[\"FOO\"]]\x7d"]
  let e := exchange settings replies (Script.mk [.ok "body"])
  let run := c.start (fun _ => MemoryObject.empty "t") false replies (Script.mk [.ok "body"])
  e.StopsAt 1 ∧ e.outcomes 0 = [.ok, .notImplemented] ∧
    (posts run.actions)[1]? =
      some (settings.posting "omadm-device" "application/vnd.oma.dm.response+json"
        (Response.text ⟨[.ofCode .notImplemented, .ofCode .ok]⟩)) ∧
    Response.text ⟨[.ofCode .notImplemented, .ofCode .ok]⟩
      ≠ Response.text ⟨(e.outcomes 0).map .ofCode⟩
  := by
  intro settings c replies e run
  have hc : Reachable settings c := .created
  have hn : e.StopsAt 1 := by decide +kernel
  have hstatuses : e.statuses 0 = [.ofCode .notImplemented, .ofCode .ok] := by decide +kernel
  refine ⟨hn, by decide +kernel, ?_, by decide +kernel⟩
  rw [← hstatuses]
  exact hc.atRest.getElem?_posts_start (fun _ => MemoryObject.empty "t") false replies
    (Script.mk [.ok "body"]) hn Nat.one_pos

end Client

end DeviceManagement
