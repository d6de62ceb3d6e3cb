import DeviceManagement.Proofs.Exchange
import DeviceManagement.Proofs.Likeness

/-!
# Sessions side by side

Two clients run sessions that correspond if their catalogs take bodies alike, their sessions post
alike, and the answers of their servers read the same. `start_eq_proceed` cuts a session behind
its first package: only that package has been made from the objects of the client, and what
follows, `proceed`, knows nothing but the catalog, the queue and the answers. By induction on
the answers, `Correspond.proceed` tells that it corresponds.
-/

namespace DeviceManagement

/-- Sessions are alike if they post alike, treat unknown commands the same, and read the same
from any two answers that are `heard` on either side. -/
structure Likeness.Sessions {N : Type} [Network N] (l : Likeness N)
    (heard : Reply → Reply → Prop) (s s' : Session) : Prop where
  reportUnknownCommands : s.reportUnknownCommands = s'.reportUnknownCommands
  post (mediaType package : String) :
    l.action (s.post mediaType package) (s'.post mediaType package)
  read {reply reply' : Reply} (h : heard reply reply') : s.readReply reply = s'.readReply reply'

/-- Two sessions at the same phase, which are otherwise as the given ones. -/
def Session.SamePhase (s s' : Session) (now now' : Session) : Prop :=
  ∃ phase, now = { s with phase := phase } ∧ now' = { s' with phase := phase }

variable {N : Type}

/-! ### Cutting a session behind its first package -/

/-- What the answer to a package tells, where a failure is logged as the given event. -/
def Session.hear (s : Session) (reply : Reply) (failure : Fault → Event) :
    Activity N (Except Fault String) :=
  match s.readReply reply with
  | .ok text => return .ok text
  | .error fault => do
    Activity.log (failure fault)
    return .error fault

theorem Session.send_eq_hear
    (s : Session) (mediaType package : String) (reply : Reply) (failure : Fault → Event) :
  s.send mediaType package reply failure
    = (do
        Activity.act (s.post mediaType package)
        s.hear reply failure : Activity N (Except Fault String))
  := rfl

namespace Client

/-- The client after a session that has left the given queue. -/
def after (c : Client) (serverInitiated : Bool) (queue : CommandQueue) : Client :=
  { c with
    queue := queue
    session := c.session.finish
    alerts := (c.alerts.add (.ofType (.ofSession serverInitiated))).flush.2 }

variable [Network N]

/-- What a session does after its first package has been posted. -/
def proceed (c : Client) (serverInitiated : Bool) (replies : List Reply) :
    Activity N (SessionReport × Client × List Reply) := do
  let answer ← c.session.hear (replies.headD refused) .initiationFailed
  let conclusion ←
    converse c.catalog replies.tail { c.session with phase := .initiating } c.queue
      (answer.toOption.getD "") 0
  Activity.log (.sessionFinished conclusion.report.responses conclusion.report.reason)
  return (conclusion.report,
    { c.after serverInitiated conclusion.queue with session := conclusion.session.finish },
    conclusion.replies)

/-- A session posts its first package, for which alone it reads the objects, and proceeds. -/
theorem start_eq_proceed {M : Type} [ManagedObject M]
    (c : Client) (store : Store M) (serverInitiated : Bool) (replies : List Reply) :
  c.start store serverInitiated replies
    = (do
        Activity.log (.sessionStarting serverInitiated)
        Activity.act (c.session.post Initiation.mediaType (c.initiation store
          (c.alerts.add (.ofType (.ofSession serverInitiated))).flush.1).text)
        c.proceed serverInitiated replies : Activity N (SessionReport × Client × List Reply))
  := by
  simp only [start, Session.sendInitiation, Session.send_eq_hear, proceed, bind_assoc, pure_bind]
  rfl

theorem start_apply {M : Type} [ManagedObject M]
    (c : Client) (store : Store M) (serverInitiated : Bool) (replies : List Reply) (network : N) :
  let rest := c.proceed serverInitiated replies network
  c.start store serverInitiated replies network
    = ⟨rest.value, rest.network,
        .log (.sessionStarting serverInitiated) :: c.session.post Initiation.mediaType
          (c.initiation store (c.alerts.add (.ofType (.ofSession serverInitiated))).flush.1).text
          :: rest.actions⟩
  := by
  rw [start_eq_proceed]
  rfl

end Client

/-! ### Corresponding sessions -/

/-- Sessions that treat unknown commands the same read a request the same. -/
theorem Session.receive_eq
    {s s' : Session} (h : s.reportUnknownCommands = s'.reportUnknownCommands)
    (queue : CommandQueue) (text : String) :
  ∃ outcome phase queue' events,
    s.receive queue text = ⟨⟨outcome, { s with phase := phase }, queue'⟩, events⟩ ∧
    s'.receive queue text = ⟨⟨outcome, { s' with phase := phase }, queue'⟩, events⟩
  := by
  unfold receive
  rw [h]
  cases Request.ofText text with
  | error fault => exact ⟨_, _, _, _, rfl, rfl⟩
  | ok request =>
      dsimp only
      split
      · exact ⟨_, _, _, _, rfl, rfl⟩
      · exact ⟨_, _, _, _, rfl, rfl⟩

namespace Likeness

variable [Network N] {l : Likeness N} {heard : Reply → Reply → Prop} {s s' : Session}

theorem Sessions.withPhase (h : l.Sessions heard s s') (phase : Phase) :
  l.Sessions heard { s with phase := phase } { s' with phase := phase }
  := ⟨h.reportUnknownCommands, h.post, h.read⟩

theorem Correspond.hear
    {reply reply' : Reply} (h : s.readReply reply = s'.readReply reply')
    (failure : Fault → Event) :
  l.Correspond Eq (s.hear reply failure) (s'.hear reply' failure)
  := by
  unfold Session.hear
  rw [h]
  cases s'.readReply reply' with
  | ok text => exact Correspond.pure rfl
  | error fault =>
      apply Correspond.bind (Correspond.log _)
      rintro _ _ -
      exact Correspond.pure rfl

theorem Correspond.sendResponse
    (hs : l.Sessions heard s s') {reply reply' : Reply}
    (h : s.readReply reply = s'.readReply reply') (package : String) :
  l.Correspond Eq (s.sendResponse package reply) (s'.sendResponse package reply')
  := by
  unfold Session.sendResponse
  rw [Session.send_eq_hear, Session.send_eq_hear]
  apply Correspond.bind (Correspond.act (hs.post _ _))
  rintro _ _ -
  exact Correspond.hear h _

/-- What two sessions make of a request: the same outcome and queue, at the same phase. -/
structure Receptions (s s' : Session) (r r' : Session.Reception) : Prop where
  outcome : r.outcome = r'.outcome
  session : s.SamePhase s' r.session r'.session
  queue : r.queue = r'.queue

theorem Correspond.receive (hs : l.Sessions heard s s') (queue : CommandQueue) (text : String) :
  l.Correspond (Receptions s s') (Activity.ofLogged (s.receive queue text))
    (Activity.ofLogged (s'.receive queue text))
  := by
  obtain ⟨outcome, phase, queue', events, hreceive, hreceive'⟩ :=
    Session.receive_eq hs.reportUnknownCommands queue text
  rw [hreceive, hreceive']
  apply Correspond.ofLogged
  · exact ⟨rfl, ⟨phase, rfl, rfl⟩, rfl⟩
  · apply actions_log

/-- What a turn comes to on either side: the same, at the same phase, with the same queue. -/
structure Turns (s s' : Session) (r r' : Client.Turn × Session × CommandQueue) : Prop where
  turn : r.1 = r'.1
  session : s.SamePhase s' r.2.1 r'.2.1
  queue : r.2.2 = r'.2.2

theorem Correspond.takeTurn
    {catalog catalog' : Catalog} (hstores : l.Stores catalog catalog')
    (hs : l.Sessions heard s s')
    (queue : CommandQueue) (text : String) :
  l.Correspond (Turns s s') (Client.takeTurn catalog s queue text)
    (Client.takeTurn catalog' s' queue text)
  := by
  apply Correspond.bind (Correspond.receive hs queue text)
  rintro ⟨outcome, _, queue⟩ ⟨_, _, _⟩ ⟨rfl, ⟨phase, rfl, rfl⟩, rfl⟩
  have hdrain : l.Correspond Eq (queue.drain catalog) (queue.drain catalog') :=
    Correspond.drain hstores queue (List.forall₂_same.mpr fun c _ => commands_refl c)
  cases outcome with
  | unreadable => exact Correspond.pure ⟨rfl, ⟨phase, rfl, rfl⟩, rfl⟩
  | «continue» =>
      apply Correspond.bind hdrain
      rintro drained _ rfl
      exact Correspond.pure ⟨rfl, ⟨phase, rfl, rfl⟩, rfl⟩
  | ended =>
      apply Correspond.bind hdrain
      rintro drained _ rfl
      dsimp only
      cases drained.takeStatuses.1.isEmpty with
      | true => exact Correspond.pure ⟨rfl, ⟨phase, rfl, rfl⟩, rfl⟩
      | false =>
          apply Correspond.bind (Correspond.log _)
          rintro _ _ -
          exact Correspond.pure ⟨rfl, ⟨phase, rfl, rfl⟩, rfl⟩

/-- What an exchange leaves behind on either side: the same report and queue, sessions at the
same phase, and further answers that would be heard. -/
structure Conclusions (heard : Reply → Reply → Prop) (s s' : Session) (r r' : Client.Conclusion) :
    Prop where
  report : r.report = r'.report
  session : s.SamePhase s' r.session r'.session
  queue : r.queue = r'.queue
  replies : List.Forall₂ heard r.replies r'.replies

/-- Exchanges correspond, answer by answer, at whatever phase they start. -/
theorem Correspond.converse
    {catalog catalog' : Catalog} (hstores : l.Stores catalog catalog')
    (hs : l.Sessions heard s s')
    {replies replies' : List Reply} (h : List.Forall₂ heard replies replies') (phase : Phase)
    (queue : CommandQueue) (text : String) (sent : Nat) :
  l.Correspond (Conclusions heard s s')
    (Client.converse catalog replies { s with phase := phase } queue text sent)
    (Client.converse catalog' replies' { s' with phase := phase } queue text sent)
  := by
  induction h generalizing phase queue text sent with
  | nil =>
      apply Correspond.bind (Correspond.takeTurn hstores (hs.withPhase phase) queue text)
      rintro ⟨turn, _, queue⟩ ⟨_, _, _⟩ ⟨rfl, ⟨phase, rfl, rfl⟩, rfl⟩
      cases turn with
      | «over» reason => exact Correspond.pure ⟨rfl, ⟨phase, rfl, rfl⟩, rfl, .nil⟩
      | respond response =>
          have hrefused : s.readReply Client.refused = s'.readReply Client.refused := rfl
          apply Correspond.bind
            (Correspond.sendResponse (hs.withPhase phase) hrefused response.text)
          rintro _ _ -
          apply Correspond.bind (Correspond.receive (hs.withPhase phase) queue "")
          rintro ⟨_, _, queue⟩ ⟨_, _, _⟩ ⟨rfl, ⟨phase, rfl, rfl⟩, rfl⟩
          exact Correspond.pure ⟨rfl, ⟨phase, rfl, rfl⟩, rfl, .nil⟩
  | cons hreply hreplies ih =>
      apply Correspond.bind (Correspond.takeTurn hstores (hs.withPhase phase) queue text)
      rintro ⟨turn, _, queue⟩ ⟨_, _, _⟩ ⟨rfl, ⟨phase, rfl, rfl⟩, rfl⟩
      cases turn with
      | «over» reason =>
          exact Correspond.pure ⟨rfl, ⟨phase, rfl, rfl⟩, rfl, .cons hreply hreplies⟩
      | respond response =>
          apply Correspond.bind
            (Correspond.sendResponse (hs.withPhase phase) (hs.read hreply) response.text)
          rintro answer _ rfl
          apply ih

/-- What a session yields on either side: the same report, clients with the same queue, and
further answers that would be heard. -/
structure Yields (heard : Reply → Reply → Prop) (c c' : Client) (serverInitiated : Bool)
    (r r' : SessionReport × Client × List Reply) : Prop where
  report : r.1 = r'.1
  client : ∃ queue, r.2.1 = c.after serverInitiated queue ∧ r'.2.1 = c'.after serverInitiated queue
  replies : List.Forall₂ heard r.2.2 r'.2.2

/-- Clients with the same queue proceed alike in sessions that are alike. -/
theorem Correspond.proceed
    {c c' : Client} (hstores : l.Stores c.catalog c'.catalog)
    (hs : l.Sessions heard c.session c'.session) (hqueue : c.queue = c'.queue)
    {replies replies' : List Reply} (h : List.Forall₂ heard replies replies')
    (serverInitiated : Bool) :
  l.Correspond (Yields heard c c' serverInitiated) (c.proceed serverInitiated replies)
    (c'.proceed serverInitiated replies')
  := by
  have hhead : c.session.readReply (replies.headD Client.refused)
      = c'.session.readReply (replies'.headD Client.refused) := by
    cases h with
    | nil => rfl
    | cons hreply _ => exact hs.read hreply
  have htail : List.Forall₂ heard replies.tail replies'.tail := by
    cases h with
    | nil => exact .nil
    | cons _ hreplies => exact hreplies
  unfold Client.proceed
  rw [hqueue]
  apply Correspond.bind (Correspond.hear hhead _)
  rintro answer _ rfl
  apply Correspond.bind (Correspond.converse hstores hs htail _ _ _ _)
  rintro ⟨report, _, queue, replies⟩ ⟨_, _, _, replies'⟩ ⟨rfl, ⟨phase, rfl, rfl⟩, rfl, hreplies⟩
  apply Correspond.bind (Correspond.log _)
  rintro _ _ -
  exact Correspond.pure ⟨rfl, ⟨queue, rfl, rfl⟩, hreplies⟩

end Likeness

end DeviceManagement
