import DeviceManagement.Proofs.Exchange

/-!
# Reachable clients

`Client.Reachable settings` are the clients that can come about from some settings by what can
be done to a client. Between two sessions all of them are `AtRest`: nothing waits in the queue,
the session is the one of the settings but for the device, and no alert waits. `quiet_start`
tells what a session of a client at rest comes to, and that it leaves the client as it was but
for its alerts.
-/

namespace DeviceManagement

/-- An exchange stops at the first text that does not continue it. -/
structure Exchange.StopsAt {N : Type} (e : Exchange N) (n : Nat) : Prop where
  continues : ∀ k < n, Request.Continues (e.text k)
  stops : ¬ Request.Continues (e.text n)

theorem Exchange.stopsAt_iff {N : Type} {e : Exchange N} {n : Nat} :
  ((∀ k < n, Request.Continues (e.text k)) ∧ ¬ Request.Continues (e.text n)) ↔ e.StopsAt n
  := by
  constructor
  · rintro ⟨hcontinues, hstops⟩
    exact ⟨hcontinues, hstops⟩
  · intro h
    exact ⟨h.continues, h.stops⟩

instance {N : Type} (e : Exchange N) (n : Nat) : Decidable (e.StopsAt n) :=
  decidable_of_iff _ Exchange.stopsAt_iff

/-- An exchange stops only once. -/
theorem Exchange.StopsAt.unique {N : Type} {e : Exchange N} {n m : Nat} (hn : e.StopsAt n)
    (hm : e.StopsAt m) :
  n = m
  := by
  obtain hlt | heq | hgt := Nat.lt_trichotomy n m
  · apply absurd (hm.continues n hlt) hn.stops
  · exact heq
  · apply absurd (hn.continues m hgt) hm.stops

namespace Client

/-- The clients that can come about from some settings. Types are registered, objects are
attached, and the catalog is given out for any other change too; the tree dump and the device
can be set; and sessions are run, on any network and with any answers of the server. What a
client does when it shuts down changes nothing but the objects. -/
inductive Reachable (settings : Settings) : Client → Prop
  | created : Reachable settings (ofSettings settings).value
  | registeredXml {c : Client} (h : Reachable settings c) (typeId xml : String)
      (schemaUrl : Option String) :
      Reachable settings { c with catalog := (c.catalog.registerXml typeId xml schemaUrl).value.2 }
  | registeredFile {c : Client} (h : Reachable settings c) (typeId path : String)
      (file : Option (List UInt8)) (schemaUrl : Option String) :
      Reachable settings
        { c with catalog := (c.catalog.registerFile typeId path file schemaUrl).value.2 }
  | attached {c : Client} (h : Reachable settings c) {M : Type} [ManagedObject M]
      (store : Store M) (typeId : String) (handle : Handle) (requested : Option String) :
      Reachable settings
        { c with catalog := (c.catalog.attachLogged store typeId handle requested).value.2.1 }
  | catalogChanged {c : Client} (h : Reachable settings c) (catalog : Catalog) :
      Reachable settings { c with catalog := catalog }
  | dumpTreeSet {c : Client} (h : Reachable settings c) (dumpTree : Bool) :
      Reachable settings { c with dumpTree := dumpTree }
  | deviceIdSet {c : Client} (h : Reachable settings c) (deviceId : String) :
      Reachable settings { c with session := { c.session with deviceId := deviceId } }
  | started {c : Client} (h : Reachable settings c) {N : Type} [Network N] {M : Type}
      [ManagedObject M] (store : Store M) (serverInitiated : Bool) (replies : List Reply)
      (network : N) :
      Reachable settings (c.start store serverInitiated replies network).value.2.1

/-- A client is at rest if nothing is left over from a session. -/
structure AtRest (settings : Settings) (c : Client) : Prop where
  queue : c.queue = .empty (.ofSettings settings)
  session : c.session = { Session.ofSettings settings with deviceId := c.session.deviceId }
  alerts : c.alerts.pending = []

variable {N : Type} [Network N] {M : Type} [ManagedObject M]

/-- The exchange of a session with the given answers of the server. -/
def exchange (settings : Settings) (replies : List Reply) (network : N) : Exchange N :=
  ⟨settings.reportUnknownCommands, .ofSettings settings, answerText settings.encoding replies,
    network⟩

omit [Network N] in
/-- Every exchange stops, at the latest when the answers are used up. -/
theorem exists_stopsAt (settings : Settings) (replies : List Reply) (network : N) :
  ∃ n, (exchange settings replies network).StopsAt n
  := by
  have hempty : (exchange settings replies network).text replies.length = "" :=
    answerText_of_length_le (Nat.le_refl _) _
  have hused : ¬ Request.Continues ((exchange settings replies network).text replies.length) := by
    rw [hempty]
    apply Request.not_continues_of_entries?_eq_none
    apply Request.entries?_empty
  generalize exchange settings replies network = e at hused
  generalize replies.length = m at hused
  induction m using Nat.strongRecOn with
  | ind m ih =>
      by_cases hearlier : ∃ k < m, ¬ Request.Continues (e.text k)
      · obtain ⟨k, hk, hstops⟩ := hearlier
        exact ih k hk hstops
      · refine ⟨m, ?_, hused⟩
        intro k hk
        apply Classical.byContradiction
        intro hstops
        exact hearlier ⟨k, hk, hstops⟩

/-- The package with the given number: first the one that starts the session, with no alert but
the one of the session, and then the responses to the texts, one by one. -/
def packageAt (c : Client) (store : Store M) (serverInitiated : Bool) (e : Exchange N) :
    Nat → Action
  | 0 =>
    c.session.post Initiation.mediaType
      (c.initiation store [(AlertType.ofSession serverInitiated).urn]).text
  | k + 1 => c.session.post Response.mediaType (Response.text ⟨e.statuses k⟩)

theorem isPost_packageAt
    (c : Client) (store : Store M) (serverInitiated : Bool) (e : Exchange N) (k : Nat) :
  (c.packageAt store serverInitiated e k).isPost
  := by
  cases k with
  | zero => rfl
  | succ k => rfl

namespace AtRest

variable {settings : Settings} {c : Client} (h : AtRest settings c)

include h

/-- The alert of a session is the only one that its first package takes along. -/
theorem urns_flush (serverInitiated : Bool) :
  (c.alerts.add (.ofType (.ofSession serverInitiated))).flush.1
    = [(AlertType.ofSession serverInitiated).urn]
  := by
  rw [AlertQueue.flush, AlertQueue.pending_add, h.alerts]
  rfl

omit [Network N] in
/-- The exchange that the answer to the first package starts is the one of the session. -/
theorem exchangeFrom_eq (replies : List Reply) (network : N) :
  exchangeFrom { c.session with phase := .initiating } (.ofSettings settings)
      ((c.session.readReply (replies.headD refused)).toOption.getD "") replies.tail network
    = exchange settings replies network
  := by
  have hencoding : c.session.encoding = settings.encoding := by rw [h.session]; rfl
  have hreport : c.session.reportUnknownCommands = settings.reportUnknownCommands := by
    rw [h.session]; rfl
  have htexts : textsFrom settings.encoding
      ((c.session.readReply (replies.headD refused)).toOption.getD "") replies.tail
      = answerText settings.encoding replies := by
    funext k
    rw [toOption_readReply, hencoding]
    cases k <;> cases replies <;> cases settings.encoding <;> rfl
  simp only [exchangeFrom, exchange, hencoding, hreport, htexts]

/-- A session of a client at rest makes a request of every package and, behind each, of the
addresses that the commands of its answer get. It leaves the client as it was but for its
alerts. -/
theorem quiet_start
    (store : Store M) (serverInitiated : Bool) (replies : List Reply) (network : N) {n : Nat}
    (hn : (exchange settings replies network).StopsAt n) :
  let e := exchange settings replies network
  ∃ reason, (reason = .endCommand ↔ Request.Ends (e.text n)) ∧
    (c.start store serverInitiated replies network).quiet
      = ⟨(⟨n, reason⟩,
            { c with alerts := (c.alerts.add (.ofType (.ofSession serverInitiated))).flush.2 },
            replies.drop (n + 1)),
          e.networkAt (n + 1),
          (List.range (n + 1)).flatMap fun k =>
            c.packageAt store serverInitiated e k :: (e.fetches k).map .get⟩
  := by
  intro e
  have hexchange := h.exchangeFrom_eq replies network
  have htexts : ∀ k, textsFrom c.session.encoding
      ((c.session.readReply (replies.headD refused)).toOption.getD "") replies.tail k
      = e.text k := fun k => congrFun (congrArg Exchange.text hexchange) k
  obtain ⟨reason, hreason, hconverse⟩ := quiet_converse c.catalog (.ofSettings settings)
    replies.tail { c.session with phase := .initiating }
    ((c.session.readReply (replies.headD refused)).toOption.getD "") 0 network n
    (fun k hk => htexts k ▸ hn.continues k hk) (htexts n ▸ hn.stops)
  rw [hexchange] at hreason hconverse
  refine ⟨reason, hreason, ?_⟩
  have hfinish : Session.finish { c.session with phase := .ended } = c.session := by
    rw [h.session]
    rfl
  rw [← h.queue] at hconverse
  dsimp only at hconverse
  simp only [start, Activity.quiet_bind, Activity.quiet_log, Session.sendInitiation,
    Session.quiet_send, Activity.quiet_pure, List.nil_append, List.append_nil, h.urns_flush,
    hconverse, hfinish, Nat.zero_add, List.drop_tail, flatMap_range_succ]
  rfl

/-- A session leaves a client at rest. -/
theorem start
    (store : Store M) (serverInitiated : Bool) (replies : List Reply) (network : N) :
  AtRest settings (c.start store serverInitiated replies network).value.2.1
  := by
  obtain ⟨n, hn⟩ := exists_stopsAt settings replies network
  obtain ⟨reason, -, hstart⟩ := h.quiet_start store serverInitiated replies network hn
  have hclient := congrArg (fun r => r.value.2.1) hstart
  rw [show (c.start store serverInitiated replies network).value.2.1 = _ from hclient]
  exact ⟨h.queue, h.session, AlertQueue.pending_flush _⟩

end AtRest

/-- Every reachable client is at rest. -/
theorem Reachable.atRest {settings : Settings} {c : Client} (h : Reachable settings c) :
  AtRest settings c
  := by
  induction h with
  | created => exact ⟨rfl, rfl, rfl⟩
  | registeredXml _ _ _ _ ih => exact ⟨ih.queue, ih.session, ih.alerts⟩
  | registeredFile _ _ _ _ _ ih => exact ⟨ih.queue, ih.session, ih.alerts⟩
  | attached _ _ _ _ _ ih => exact ⟨ih.queue, ih.session, ih.alerts⟩
  | catalogChanged _ _ ih => exact ⟨ih.queue, ih.session, ih.alerts⟩
  | dumpTreeSet _ _ ih => exact ⟨ih.queue, ih.session, ih.alerts⟩
  | deviceIdSet _ deviceId ih =>
      refine ⟨ih.queue, ?_, ih.alerts⟩
      rw [ih.session]
  | started _ _ _ _ _ ih =>
      apply ih.start

end Client

end DeviceManagement
