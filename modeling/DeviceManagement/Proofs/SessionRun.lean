import DeviceManagement.ManagedObject.Memory
import DeviceManagement.Proofs.Reachable

/-!
# Runs of sessions

What a session of any reachable client does towards the server. It posts one package to start
with and one response for every text that continues it, and it is over with the first text that
does not. The response to a text is made of the statuses of that text alone, and the resources
that a text asks for are got after the text has come in and before it is answered.
`Settings.posting` tells what is sent with a package: its headers and its body.
-/

namespace DeviceManagement

/-- The action that posts a package as some settings ask for. Its headers tell the device, what is
accepted as an answer, and what is sent; its body is the package, or the base64 letters for the
bytes of the package. -/
def Settings.posting (settings : Settings) (deviceId mediaType package : String) : Action :=
  .post settings.serverUrl
    [("OMADM-DevID", deviceId), ("Accept", "application/vnd.oma.dm.request+json"),
      ("Content-Type", mediaType)]
    (match settings.encoding with
      | .json => package
      | .base64 => String.ofList (Text.Base64.encode (Text.utf8 package)))

/-- The alert of a session tells who has asked for it. -/
theorem AlertType.urn_ofSession (serverInitiated : Bool) :
  (ofSession serverInitiated).urn
    = if serverInitiated then "urn:oma:at:dm:2.0:ServerInitiatedMgmt"
      else "urn:oma:at:dm:2.0:ClientInitiatedMgmt"
  := by
  cases serverInitiated <;> rfl

namespace Client

variable {N : Type} [Network N] {M : Type} [ManagedObject M]
variable {settings : Settings} {c : Client}

namespace AtRest

omit [Network N] in
/-- Packages are posted as the settings ask for. -/
theorem post_eq (h : AtRest settings c) (mediaType package : String) :
  c.session.post mediaType package
    = settings.posting c.session.deviceId mediaType package
  := by
  have hurl : c.session.serverUrl = settings.serverUrl := by rw [h.session]; rfl
  have hencoding : c.session.encoding = settings.encoding := by rw [h.session]; rfl
  rw [Session.post, hurl, hencoding, Settings.posting]
  cases settings.encoding <;> rfl

/-- The package that starts a session tells the types, the alert of the session and no other, and
the whole tree if that is to be dumped. -/
theorem exists_packageAt_zero
    (h : AtRest settings c) (store : Store M) (serverInitiated : Bool) (e : Exchange N) :
  ∃ first : Initiation,
    first.types = c.catalog.summaries store ∧
    first.alerts = [if serverInitiated then "urn:oma:at:dm:2.0:ServerInitiatedMgmt"
      else "urn:oma:at:dm:2.0:ClientInitiatedMgmt"] ∧
    first.tree = (if c.dumpTree then some (c.catalog.reports store) else none) ∧
    c.packageAt store serverInitiated e 0 = settings.posting c.session.deviceId
      "application/vnd.oma.dm.initiation+json" first.text
  := by
  use c.initiation store [(AlertType.ofSession serverInitiated).urn]
  refine ⟨rfl, ?_, rfl, ?_⟩
  · rw [initiation, AlertType.urn_ofSession]
  · apply h.post_eq

/-- The other packages are responses. -/
theorem packageAt_succ
    (h : AtRest settings c) (store : Store M) (serverInitiated : Bool) (e : Exchange N) (k : Nat) :
  c.packageAt store serverInitiated e (k + 1) = settings.posting c.session.deviceId
    "application/vnd.oma.dm.response+json" (Response.text ⟨e.statuses k⟩)
  := by
  apply h.post_eq

/-- A session posts its packages, one by one. -/
theorem posts_start
    (h : AtRest settings c) (store : Store M) (serverInitiated : Bool) (replies : List Reply)
    (network : N) {n : Nat} (hn : (exchange settings replies network).StopsAt n) :
  posts (c.start store serverInitiated replies network).actions
    = (List.range (n + 1)).map
        (c.packageAt store serverInitiated (exchange settings replies network))
  := by
  obtain ⟨reason, -, hstart⟩ := h.quiet_start store serverInitiated replies network hn
  have hrequests := congrArg Result.actions hstart
  rw [← posts_requests, show requests _ = _ from hrequests]
  apply posts_flatMap_cons_map_get
  apply isPost_packageAt

/-- The package behind a text that continues the session has the statuses of the text. -/
theorem getElem?_posts_start
    (h : AtRest settings c) (store : Store M) (serverInitiated : Bool) (replies : List Reply)
    (network : N) {n k : Nat} (hn : (exchange settings replies network).StopsAt n) (hk : k < n) :
  (posts (c.start store serverInitiated replies network).actions)[k + 1]?
    = some (settings.posting c.session.deviceId "application/vnd.oma.dm.response+json"
        (Response.text ⟨(exchange settings replies network).statuses k⟩))
  := by
  have hrange : (List.range (n + 1))[k + 1]? = some (k + 1) :=
    List.getElem?_range (Nat.succ_lt_succ hk)
  rw [h.posts_start store serverInitiated replies network hn, List.getElem?_map, hrange,
    Option.map_some, h.packageAt_succ]

end AtRest

/-- A session of a reachable client goes on while the texts of the server continue it, up to the
text with the number `n`: it posts the package that starts it and, for every text before that
one, a response, all of them to the server of the settings. The first package tells the types, the
alert of the session and no other, and the whole tree if that is to be dumped. The session ends by
command exactly if the text with the number `n` ends it. What the commands of a text get, is got
between the package that the text answers and the next one. No answer of the server is asked for
beyond that text. -/
theorem start_goes_on_while_texts_continue
    (h : Reachable settings c) (store : Store M) (serverInitiated : Bool)
    (replies : List Reply) (network : N) :
  let e := exchange settings replies network
  let run := c.start store serverInitiated replies network
  ∃ n, e.StopsAt n ∧
    run.value.1.responses = n ∧
    (run.value.1.reason = .endCommand ↔ Request.Ends (e.text n)) ∧
    (run.value.1.reason = .decodeFailure ↔ ¬ Request.Ends (e.text n)) ∧
    run.value.2.2 = replies.drop (n + 1) ∧
    run.network = e.networkAt (n + 1) ∧
    ∃ (first : Initiation) (response : Nat → Response) (package : Nat → Action),
      first.types = c.catalog.summaries store ∧
      first.alerts = [if serverInitiated then "urn:oma:at:dm:2.0:ServerInitiatedMgmt"
        else "urn:oma:at:dm:2.0:ClientInitiatedMgmt"] ∧
      first.tree = (if c.dumpTree then some (c.catalog.reports store) else none) ∧
      (∀ k, (response k).statuses = e.statuses k) ∧
      package 0 = settings.posting c.session.deviceId
        "application/vnd.oma.dm.initiation+json" first.text ∧
      (∀ k, package (k + 1) = settings.posting c.session.deviceId
        "application/vnd.oma.dm.response+json" (response k).text) ∧
      posts run.actions = (List.range (n + 1)).map package ∧
      requests run.actions = (List.range (n + 1)).flatMap fun k =>
        package k :: (e.fetches k).map .get
  := by
  intro e run
  obtain ⟨n, hn⟩ := exists_stopsAt settings replies network
  obtain ⟨reason, hreason, hstart⟩ := h.atRest.quiet_start store serverInitiated replies network hn
  have hreport : run.value.1 = ⟨n, reason⟩ := congrArg (fun r => r.value.1) hstart
  obtain ⟨first, htypes, halerts, htree, hfirst⟩ :=
    h.atRest.exists_packageAt_zero store serverInitiated e
  refine ⟨n, hn, ?_, ?_, ?_, ?_, ?_, first, fun k => ⟨e.statuses k⟩,
    c.packageAt store serverInitiated e, htypes, halerts, htree, fun _ => rfl, hfirst, ?_, ?_, ?_⟩
  · rw [hreport]
  · rw [hreport]
    apply hreason
  · rw [hreport, ← hreason]
    cases reason with
    | endCommand => simp
    | decodeFailure => simp
  · exact congrArg (fun r => r.value.2.2) hstart
  · exact congrArg (fun r => r.network) hstart
  · intro k
    apply h.atRest.packageAt_succ
  · apply h.atRest.posts_start
    exact hn
  · exact congrArg (fun r => r.actions) hstart

/-- With one text that continues the session and one that ends it, a session posts twice. -/
theorem start_goes_on_while_texts_continue_get_end :
  let c := (ofSettings .default).value
  let replies : List Reply :=
    [.ok "\x7b\"CMD\":[[\"GET\",\"t/1/a\"]]\x7d", .ok "\x7b\"CMD\":[[\"END\"]]\x7d"]
  let run := c.start (fun _ => MemoryObject.empty "t") false replies (Script.mk [])
  let headers (mediaType : String) :=
    [("OMADM-DevID", "omadm-device"), ("Accept", "application/vnd.oma.dm.request+json"),
      ("Content-Type", mediaType)]
  let initiation :=
    "\x7b\"MOS\":[],\"Alert\":[\x7b\"AlertType\":\"urn:oma:at:dm:2.0:ClientInitiatedMgmt\"\x7d]\x7d"
  let answer := "\x7b\"SC\":[\x7b\"sc\":501,\"URI\":[]\x7d]\x7d"
  posts run.actions
      = [.post "http://localhost:9988/path" (headers "application/vnd.oma.dm.initiation+json")
          initiation,
        .post "http://localhost:9988/path" (headers "application/vnd.oma.dm.response+json")
          answer] ∧
    run.value.1.reason = .endCommand
  := by
  intro c replies run headers initiation answer
  have hc : Reachable .default c := .created
  have hstops : (exchange .default replies (Script.mk [])).StopsAt 1 := by decide +kernel
  have hends : Request.Ends ((exchange .default replies (Script.mk [])).text 1) := by
    decide +kernel
  obtain ⟨n, hn, -, hreason, -, -, -, first, response, package, htypes, halerts, htree, hstatuses,
      hfirst, hresponse, hposts, -⟩ :=
    start_goes_on_while_texts_continue hc (fun _ => MemoryObject.empty "t") false replies
      (Script.mk [])
  obtain rfl := hn.unique hstops
  have hinitiation : first.text = initiation := by
    obtain ⟨types, alerts, tree⟩ := first
    obtain rfl : types = [] := htypes
    obtain rfl : alerts = ["urn:oma:at:dm:2.0:ClientInitiatedMgmt"] := halerts
    obtain rfl : tree = none := htree
    decide +kernel
  have hanswer : (response 0).text = answer := by
    have hstatus : (exchange .default replies (Script.mk [])).statuses 0 = [⟨501, []⟩] := by
      decide +kernel
    have hresponse : response 0 = ⟨[⟨501, []⟩]⟩ := by
      rw [← hstatus, ← hstatuses]
    rw [hresponse]
    decide +kernel
  constructor
  · have htwo : posts run.actions = [package 0, package 1] := hposts
    rw [htwo, hfirst, hresponse, hinitiation, hanswer]
    rfl
  · apply hreason.mpr
    exact hends

/-- The response to a text that continues the session tells first that the unknown commands of
the text are not implemented, if that is to be reported, and then how each of its commands went,
in order, where the commands find the network as the ones before them have left it. Nothing else
makes a status, and no status has a URI. The resources that are got for a text are those of its
fetches, in order. -/
theorem start_answers_every_text
    (h : Reachable settings c) (store : Store M) (serverInitiated : Bool)
    (replies : List Reply) (network : N) {n : Nat}
    (hn : (exchange settings replies network).StopsAt n) :
  let e := exchange settings replies network
  let run := c.start store serverInitiated replies network
  (∀ k < n, ∃ response : Response,
    (posts run.actions)[k + 1]? =
      some (settings.posting c.session.deviceId "application/vnd.oma.dm.response+json"
        response.text) ∧
    response.statuses =
      (if settings.reportUnknownCommands then
        ((Request.rawCommands (e.text k)).filter RawCommand.isUnknown).map fun _ =>
          ⟨.notImplemented, []⟩
      else []) ++
      (e.executed k).filterMap fun (command, network) =>
        (command.answer (.ofSettings settings) network).map fun code => ⟨code, []⟩) ∧
  (∀ k, (e.executed k).map Prod.fst = Request.commands (e.text k)) ∧
  (∀ k, e.networkAt (k + 1) =
    Command.leaveAll settings.retry (Request.commands (e.text k)) (e.networkAt k)) ∧
  (∃ package : Nat → Action, (∀ k, (package k).isPost) ∧
    requests run.actions = (List.range (n + 1)).flatMap fun k =>
      package k :: (e.executed k).flatMap fun (command, network) =>
        (command.fetches settings.retry network).map .get) ∧
  ∀ (command : Command) (network : N), command.fetches settings.retry network ≠ [] →
    command.kind = .hget ∧ ∃ address clientUri attempts,
      command.fetchTarget = .ok (address, clientUri) ∧
      command.fetches settings.retry network = List.replicate attempts address
  := by
  intro e run
  obtain ⟨reason, -, hstart⟩ := h.atRest.quiet_start store serverInitiated replies network hn
  refine ⟨?_, ?_, ?_, ⟨c.packageAt store serverInitiated e, ?_, ?_⟩, ?_⟩
  · intro k hk
    refine ⟨⟨e.statuses k⟩, ?_, rfl⟩
    apply h.atRest.getElem?_posts_start
    · exact hn
    · exact hk
  · intro k
    apply map_fst_schedule
  · intro k
    rfl
  · apply isPost_packageAt
  · have hrequests : requests run.actions = _ := congrArg Result.actions hstart
    have hfetches : ∀ k, (e.fetches k).map Action.get
        = (e.executed k).flatMap fun (command, network) =>
          (command.fetches settings.retry network).map .get := fun k => List.map_flatMap ..
    apply hrequests.trans
    apply congrArg ((List.range (n + 1)).flatMap ·)
    funext k
    rw [← hfetches]
  · intro command network hne
    obtain ⟨hkind, address, clientUri, attempts, htarget, -, hfetches⟩ :=
      Command.exists_fetches_eq_replicate hne
    constructor
    · exact hkind
    · exact ⟨address, clientUri, attempts, htarget, hfetches⟩

/-- An unknown command behind a fetch is answered before the fetch. -/
theorem start_answers_every_text_hget_unknown :
  let settings := { Settings.default with reportUnknownCommands := true }
  let c := (ofSettings settings).value
  let replies : List Reply :=
    [.ok "\x7b\"CMD\":[[\"HGET\",\"http://h/x\",\"t/1/a\"],[\"FOO\"]]\x7d"]
  let run := c.start (fun _ => MemoryObject.empty "t") false replies (Script.mk [.ok "body"])
  ∃ response : Response,
    (posts run.actions)[1]? =
      some (settings.posting "omadm-device" "application/vnd.oma.dm.response+json"
        response.text) ∧
    response.statuses = [⟨.notImplemented, []⟩, ⟨.ok, []⟩]
  := by
  intro settings c replies run
  have hc : Reachable settings c := .created
  have hn : (exchange settings replies (Script.mk [.ok "body"])).StopsAt 1 := by decide +kernel
  obtain ⟨hposts, -⟩ := start_answers_every_text hc (fun _ => MemoryObject.empty "t") false replies
    (Script.mk [.ok "body"]) hn
  obtain ⟨response, hpost, hstatuses⟩ := hposts 0 Nat.one_pos
  refine ⟨response, hpost, ?_⟩
  rw [hstatuses]
  decide +kernel

end Client

end DeviceManagement
