import DeviceManagement.Client
import DeviceManagement.Proofs.Entries
import DeviceManagement.Proofs.Execution

/-!
# Exchanges

An `Exchange` is what the run of a session depends on once the first package has been posted:
how commands are executed, the texts that the server sends, and the network. In it, every text
finds the network that the texts before it leave, and it has `statuses` and `fetches` of its
own. `quiet_takeTurn_of_continues` and `quiet_takeTurn_of_not_continues` tell what a client does
about one text, and `quiet_converse` what it does about all of them, by induction on the
answers of the server: it goes on until a text does not continue the session.
-/

namespace DeviceManagement

variable {N : Type} [Network N]

namespace Request

/-- The statuses that answer a text: first those of its unknown commands, then those of the
commands that are executed. -/
def statuses (report : Bool) (policy : ExecutionPolicy) (text : String) (network : N) :
    List Status :=
  unknownStatuses report text
    ++ (schedule (Command.leave policy.retry) (commands text) network).filterMap fun (c, network) =>
      (c.answer policy network).map Status.ofCode

/-- The addresses that the commands of a text get. -/
def fetches (retry : RetryPolicy) (text : String) (network : N) : List Address :=
  (schedule (Command.leave retry) (commands text) network).flatMap fun (c, network) =>
    c.fetches retry network

/-- The network that the commands of a text leave. -/
def leave (retry : RetryPolicy) (text : String) (network : N) : N :=
  Command.leaveAll retry (commands text) network

theorem fetches_of_entries?_eq_none {text : String} (h : entries? text = none)
    (retry : RetryPolicy) (network : N) :
  fetches retry text network = []
  := by
  rw [fetches, commands_of_entries?_eq_none h]
  rfl

theorem leave_of_entries?_eq_none {text : String} (h : entries? text = none)
    (retry : RetryPolicy) (network : N) :
  leave retry text network = network
  := by
  rw [leave, commands_of_entries?_eq_none h]
  rfl

end Request

/-- What the run of a session depends on after its first package. -/
structure Exchange (N : Type) where
  /-- Unknown commands are answered with a status. -/
  reportUnknownCommands : Bool
  policy : ExecutionPolicy
  /-- The texts that the server sends, counted from zero. -/
  text : Nat → String
  network : N

namespace Exchange

/-- The network that a text finds. -/
def networkAt (e : Exchange N) : Nat → N
  | 0 => e.network
  | k + 1 => Request.leave e.policy.retry (e.text k) (e.networkAt k)

/-- The statuses that answer a text. -/
def statuses (e : Exchange N) (k : Nat) : List Status :=
  Request.statuses e.reportUnknownCommands e.policy (e.text k) (e.networkAt k)

/-- The commands that are executed for a text, each with the network it finds. -/
def executed (e : Exchange N) (k : Nat) : List (Command × N) :=
  schedule (Command.leave e.policy.retry) (Request.commands (e.text k)) (e.networkAt k)

/-- The addresses that the commands of a text get. -/
def fetches (e : Exchange N) (k : Nat) : List Address :=
  Request.fetches e.policy.retry (e.text k) (e.networkAt k)

/-- An exchange after its first text. -/
def next (e : Exchange N) : Exchange N :=
  { e with
    text := fun k => e.text (k + 1)
    network := e.networkAt 1 }

@[simp]
theorem networkAt_next (e : Exchange N) (k : Nat) :
  e.next.networkAt k = e.networkAt (k + 1)
  := by
  induction k with
  | zero => rfl
  | succ k ih => rw [networkAt, ih, networkAt]; rfl

@[simp]
theorem statuses_next (e : Exchange N) (k : Nat) :
  e.next.statuses k = e.statuses (k + 1)
  := by
  rw [statuses, networkAt_next]
  rfl

@[simp]
theorem fetches_next (e : Exchange N) (k : Nat) :
  e.next.fetches k = e.fetches (k + 1)
  := by
  rw [fetches, networkAt_next]
  rfl

end Exchange

/-! ### Sending -/

/-- The action that posts a package. -/
def Session.post (s : Session) (mediaType package : String) : Action :=
  .post s.serverUrl (s.headers mediaType) (s.encoding.encode package)

omit [Network N] in
theorem Session.quiet_send
    (s : Session) (mediaType package : String) (reply : Reply) (failure : Fault → Event)
    (network : N) :
  (s.send mediaType package reply failure network).quiet
    = ⟨s.readReply reply, network, [s.post mediaType package]⟩
  := by
  simp only [send, Activity.quiet_bind]
  cases s.readReply reply with
  | ok text => rfl
  | error fault => rfl

/-! ### Turns -/

/-- Draining a queue leaves the statuses of its commands behind those that waited. -/
theorem CommandQueue.quiet_drain (q : CommandQueue) (catalog : Catalog) (network : N) :
  (q.drain catalog network).quiet
    = ⟨⟨q.policy, [], q.statuses
          ++ (schedule (Command.leave q.policy.retry) q.commands network).filterMap
            fun (c, network) => (c.answer q.policy network).map Status.ofCode⟩,
        Command.leaveAll q.policy.retry q.commands network,
        ((schedule (Command.leave q.policy.retry) q.commands network).flatMap fun (c, network) =>
          c.fetches q.policy.retry network).map .get⟩
  := by
  simp only [drain, Activity.quiet_bind, Command.quiet_executeAll, Activity.quiet_pure,
    List.append_nil]
  rfl

/-- Draining an empty queue into which a text has been received leaves the statuses that answer
the text. -/
theorem Session.quiet_drain_enqueue
    (s : Session) (policy : ExecutionPolicy) (text : String) (catalog : Catalog) (network : N) :
  ((s.enqueue (.empty policy) text).drain catalog network).quiet
    = ⟨⟨policy, [], Request.statuses s.reportUnknownCommands policy text network⟩,
        Request.leave policy.retry text network,
        (Request.fetches policy.retry text network).map .get⟩
  := CommandQueue.quiet_drain _ catalog network

namespace Client

/-- A text that continues the session is answered with its statuses, after its commands have
been executed, and nothing waits afterwards. -/
theorem quiet_takeTurn_of_continues
    (catalog : Catalog) (session : Session) (policy : ExecutionPolicy) {text : String}
    (h : Request.Continues text) (network : N) :
  (takeTurn catalog session (.empty policy) text network).quiet
    = ⟨(.respond ⟨Request.statuses session.reportUnknownCommands policy text network⟩,
          { session with phase := .responding }, .empty policy),
        Request.leave policy.retry text network,
        (Request.fetches policy.retry text network).map .get⟩
  := by
  simp only [takeTurn, Activity.quiet_bind, Activity.quiet_ofLogged,
    Session.receive_of_continues session _ h, Session.quiet_drain_enqueue, Activity.quiet_pure,
    List.nil_append, List.append_nil]
  rfl

/-- A text that does not continue the session ends it, after the commands have been executed
that it may have brought along. Nothing waits afterwards. -/
theorem quiet_takeTurn_of_not_continues
    (catalog : Catalog) (session : Session) (policy : ExecutionPolicy) {text : String}
    (h : ¬ Request.Continues text) (network : N) :
  ∃ reason, (reason = .endCommand ↔ Request.Ends text) ∧
    (takeTurn catalog session (.empty policy) text network).quiet
      = ⟨(.over reason, { session with phase := .ended }, .empty policy),
          Request.leave policy.retry text network,
          (Request.fetches policy.retry text network).map .get⟩
  := by
  obtain hcontinues | hends | hnone := Request.continues_or_ends_or_none text
  · exact absurd hcontinues h
  · refine ⟨.endCommand, by simp [hends], ?_⟩
    simp only [takeTurn, Activity.quiet_bind, Activity.quiet_ofLogged,
      Session.receive_of_ends session _ hends, Session.quiet_drain_enqueue,
      CommandQueue.takeStatuses, List.nil_append]
    -- dropped statuses are logged, which makes no request
    cases (Request.statuses session.reportUnknownCommands policy text network).isEmpty with
    | false => exact congrArg (Result.mk _ _) (List.append_nil _)
    | true => exact congrArg (Result.mk _ _) (List.append_nil _)
  · refine ⟨.decodeFailure, by simp [Request.not_ends_of_entries?_eq_none hnone], ?_⟩
    rw [Request.fetches_of_entries?_eq_none hnone, Request.leave_of_entries?_eq_none hnone]
    simp only [takeTurn, Activity.quiet_bind, Activity.quiet_ofLogged,
      Session.receive_of_entries?_eq_none session _ hnone, Activity.quiet_pure, List.nil_append]
    rfl

/-! ### Conversations -/

theorem flatMap_range_succ {α : Type} (f : Nat → List α) (n : Nat) :
  (List.range (n + 1)).flatMap f = f 0 ++ (List.range n).flatMap fun k => f (k + 1)
  := by
  rw [List.range_succ_eq_map, List.flatMap_cons, List.flatMap_map]

/-- The text that an answer delivers: its body, or the text whose bytes the base64 letters of its
body stand for, with any white space around them. Where there is no answer, or its body stands for
no text, that is the empty text. -/
def delivered : Encoding → Reply → String
  | .json, .ok body => body
  | .base64, .ok body =>
    match Text.Base64.decode? (Text.trim body.toList) with
    | some bytes => (Text.ofUtf8 bytes).toOption.getD ""
    | none => ""
  | _, .error _ => ""

/-- A session goes on with the text that an answer delivers. -/
theorem toOption_readReply (s : Session) (reply : Reply) :
  (s.readReply reply).toOption.getD "" = delivered s.encoding reply
  := by
  cases reply with
  | error fault => cases s.encoding <;> rfl
  | ok body =>
      rw [Session.readReply, Except.bind]
      cases s.encoding with
      | json => rfl
      | base64 =>
          rw [Encoding.decode, delivered]
          cases Text.Base64.decode? (Text.trim body.toList) with
          | none => rfl
          | some bytes =>
              dsimp only
              cases Text.ofUtf8 bytes <;> rfl

/-- The text that answers the package with the given number, counted from zero. -/
def answerText (encoding : Encoding) (replies : List Reply) (k : Nat) : String :=
  (replies[k]?.map (delivered encoding)).getD ""

/-- When the answers are used up, the text is empty. -/
theorem answerText_of_length_le {replies : List Reply} {k : Nat} (h : replies.length ≤ k)
    (encoding : Encoding) :
  answerText encoding replies k = ""
  := by
  rw [answerText, List.getElem?_eq_none h]
  rfl

/-- The texts of a server that has sent `text` and will answer with `replies`. -/
def textsFrom (encoding : Encoding) (text : String) (replies : List Reply) : Nat → String
  | 0 => text
  | k + 1 => answerText encoding replies k

/-- Without answers nothing after `text` continues a conversation. -/
theorem not_continues_textsFrom_nil (encoding : Encoding) (text : String) (k : Nat) :
  ¬ Request.Continues (textsFrom encoding text [] (k + 1))
  := by
  rw [textsFrom, answerText_of_length_le (Nat.zero_le k)]
  apply Request.not_continues_of_entries?_eq_none Request.entries?_empty

/-- The exchange of a session that has received `text`. -/
def exchangeFrom (session : Session) (policy : ExecutionPolicy) (text : String)
    (replies : List Reply) (network : N) : Exchange N :=
  ⟨session.reportUnknownCommands, policy, textsFrom session.encoding text replies, network⟩

theorem exchangeFrom_next
    (session : Session) (policy : ExecutionPolicy) (text : String) (reply : Reply)
    (replies : List Reply) (network : N) :
  (exchangeFrom session policy text (reply :: replies) network).next
    = exchangeFrom { session with phase := .responding } policy
        ((session.readReply reply).toOption.getD "") replies
        (Request.leave policy.retry text network)
  := by
  have htexts : (fun k => textsFrom session.encoding text (reply :: replies) (k + 1))
      = textsFrom session.encoding ((session.readReply reply).toOption.getD "") replies := by
    funext k
    rw [toOption_readReply]
    cases k <;> rfl
  exact congrArg (Exchange.mk _ _ · _) htexts

/-- A conversation is over with a text that does not continue it. -/
theorem quiet_converse_of_not_continues
    (catalog : Catalog) (policy : ExecutionPolicy) (replies : List Reply) (session : Session)
    {text : String} (h : ¬ Request.Continues text) (sent : Nat) (network : N) :
  ∃ reason, (reason = .endCommand ↔ Request.Ends text) ∧
    (converse catalog replies session (.empty policy) text sent network).quiet
      = ⟨⟨⟨sent, reason⟩, { session with phase := .ended }, .empty policy, replies⟩,
          Request.leave policy.retry text network,
          (Request.fetches policy.retry text network).map .get⟩
  := by
  obtain ⟨reason, hreason, hturn⟩ :=
    quiet_takeTurn_of_not_continues catalog session policy h network
  refine ⟨reason, hreason, ?_⟩
  cases replies with
  | nil => simp only [converse, Activity.quiet_bind, hturn, Activity.quiet_pure, List.append_nil]
  | cons reply replies =>
      simp only [converse, Activity.quiet_bind, hturn, Activity.quiet_pure, List.append_nil]

/-- A text that continues a conversation is answered, and what the server answers to that is
the next text. -/
theorem quiet_converse_cons_of_continues
    (catalog : Catalog) (policy : ExecutionPolicy) (reply : Reply) (replies : List Reply)
    (session : Session) {text : String} (h : Request.Continues text) (sent : Nat)
    (network : N) :
  let statuses := Request.statuses session.reportUnknownCommands policy text network
  let rest := (converse catalog replies { session with phase := .responding } (.empty policy)
    ((session.readReply reply).toOption.getD "") (sent + 1)
    (Request.leave policy.retry text network)).quiet
  (converse catalog (reply :: replies) session (.empty policy) text sent network).quiet
    = ⟨rest.value, rest.network, (Request.fetches policy.retry text network).map .get
        ++ session.post Response.mediaType (Response.text ⟨statuses⟩) :: rest.actions⟩
  := by
  simp only [converse, Activity.quiet_bind, quiet_takeTurn_of_continues catalog session policy h,
    Session.sendResponse, Session.quiet_send]
  rfl

/-- A text that continues a conversation is answered, and when the answers of the server are
used up the conversation is over. -/
theorem quiet_converse_nil_of_continues
    (catalog : Catalog) (policy : ExecutionPolicy) (session : Session) {text : String}
    (h : Request.Continues text) (sent : Nat) (network : N) :
  let statuses := Request.statuses session.reportUnknownCommands policy text network
  (converse catalog [] session (.empty policy) text sent network).quiet
    = ⟨⟨⟨sent + 1, .decodeFailure⟩, { session with phase := .ended }, .empty policy, []⟩,
        Request.leave policy.retry text network,
        (Request.fetches policy.retry text network).map .get
          ++ [session.post Response.mediaType (Response.text ⟨statuses⟩)]⟩
  := by
  simp only [converse, Activity.quiet_bind, quiet_takeTurn_of_continues catalog session policy h,
    Session.sendResponse, Session.quiet_send, Activity.quiet_ofLogged,
    Session.receive_of_entries?_eq_none _ _ Request.entries?_empty]
  rfl

/-- A conversation goes on until a text does not continue it, the one with the number `n`. Up
to then every text is answered by its statuses, after the addresses of its commands have been
got. -/
theorem quiet_converse
    (catalog : Catalog) (policy : ExecutionPolicy) (replies : List Reply) (session : Session)
    (text : String) (sent : Nat) (network : N) (n : Nat)
    (hcontinues : ∀ k < n, Request.Continues (textsFrom session.encoding text replies k))
    (hstops : ¬ Request.Continues (textsFrom session.encoding text replies n)) :
  let e := exchangeFrom session policy text replies network
  ∃ reason, (reason = .endCommand ↔ Request.Ends (e.text n)) ∧
    (converse catalog replies session (.empty policy) text sent network).quiet
      = ⟨⟨⟨sent + n, reason⟩, { session with phase := .ended }, .empty policy,
            replies.drop n⟩,
          e.networkAt (n + 1),
          (e.fetches 0).map .get ++ (List.range n).flatMap fun k =>
            session.post Response.mediaType (Response.text ⟨e.statuses k⟩)
              :: (e.fetches (k + 1)).map .get⟩
  := by
  intro e
  induction n generalizing replies session text sent network with
  | zero =>
      obtain ⟨reason, hreason, h⟩ :=
        quiet_converse_of_not_continues catalog policy replies session hstops sent network
      refine ⟨reason, hreason, ?_⟩
      rw [List.range_zero, List.flatMap_nil, List.append_nil]
      exact h
  | succ n ih =>
      have htext : Request.Continues text := hcontinues 0 (Nat.succ_pos n)
      cases replies with
      | nil =>
          -- the text after this one is empty, so that the conversation stops with it
          obtain rfl : n = 0 := by
            by_contra hn
            apply not_continues_textsFrom_nil session.encoding text 0 (hcontinues 1 (by omega))
          have hempty : e.text 1 = "" :=
            answerText_of_length_le (List.length_nil.le) session.encoding
          have hnone := Request.entries?_empty
          have hnetwork : e.networkAt 2 = Request.leave policy.retry text network :=
            Request.leave_of_entries?_eq_none hnone _ _
          have hfetches : e.fetches 1 = [] := Request.fetches_of_entries?_eq_none hnone _ _
          refine ⟨.decodeFailure, by simp [hempty, Request.not_ends_of_entries?_eq_none hnone], ?_⟩
          rw [quiet_converse_nil_of_continues catalog policy session htext sent network, hnetwork,
            flatMap_range_succ, List.range_zero, List.flatMap_nil, List.append_nil, hfetches]
          rfl
      | cons reply replies =>
          have hnext := exchangeFrom_next session policy text reply replies network
          have htexts : ∀ k, textsFrom session.encoding ((session.readReply reply).toOption.getD "")
              replies k = textsFrom session.encoding text (reply :: replies) (k + 1) :=
            fun k => congrFun (congrArg Exchange.text hnext.symm) k
          obtain ⟨reason, hreason, hrest⟩ := ih replies { session with phase := .responding }
            ((session.readReply reply).toOption.getD "") (sent + 1)
            (Request.leave policy.retry text network)
            (fun k hk => htexts k ▸ hcontinues (k + 1) (by omega)) (htexts n ▸ hstops)
          rw [← hnext] at hreason hrest
          refine ⟨reason, hreason, ?_⟩
          rw [quiet_converse_cons_of_continues catalog policy reply replies session htext sent
            network, hrest, flatMap_range_succ, Exchange.networkAt_next, Exchange.fetches_next,
            Nat.add_right_comm]
          simp only [Exchange.statuses_next, Exchange.fetches_next]
          rfl

end Client

end DeviceManagement
