import DeviceManagement.Proofs.SessionRun

/-!
# Isolation of sessions

A session does not notice the ones before it. `Client.renewed` is a new client with the settings,
the device, the types, the objects and the tree dump of a client; the clients that are reachable
differ from it only in the alerts that have been sent. As those do not go into a session, both
run it alike.
-/

namespace DeviceManagement

namespace Client

/-- The client that is new but for what it has been told: its types and objects, whether to dump
its tree, and its device. -/
def renewed (settings : Settings) (c : Client) : Client :=
  let new := (ofSettings settings).value
  { new with
    catalog := c.catalog
    dumpTree := c.dumpTree
    session := { new.session with deviceId := c.session.deviceId } }

variable {N : Type} [Network N] {M : Type} [ManagedObject M]
variable {settings : Settings} {c : Client}

/-- A renewed client can come about from the settings. -/
theorem reachable_renewed (settings : Settings) (c : Client) :
  Reachable settings (c.renewed settings)
  := by
  apply Reachable.deviceIdSet (c := { (ofSettings settings).value with
    catalog := c.catalog, dumpTree := c.dumpTree })
  apply Reachable.dumpTreeSet (c := { (ofSettings settings).value with catalog := c.catalog })
  apply Reachable.catalogChanged
  apply Reachable.created

/-- A client at rest differs from its renewal only in its alerts. -/
theorem AtRest.eq_renewed (h : AtRest settings c) :
  c = { c.renewed settings with alerts := c.alerts }
  := by
  obtain ⟨catalog, queue, session, alerts, dumpTree⟩ := c
  obtain ⟨rfl, hsession, -⟩ := h
  dsimp only at hsession
  rw [hsession]
  rfl

/-- Nothing that is seen of a session depends on the alerts of its client, but for those that
its first package takes along. -/
theorem start_congr_alerts
    (c : Client) (alerts : AlertQueue) (store : Store M) (serverInitiated : Bool)
    (replies : List Reply) (network : N)
    (h : (alerts.add (.ofType (.ofSession serverInitiated))).flush.1
      = (c.alerts.add (.ofType (.ofSession serverInitiated))).flush.1) :
  let run := ({ c with alerts := alerts } : Client).start store serverInitiated replies network
  let run' := c.start store serverInitiated replies network
  run.actions = run'.actions ∧ run.value.1 = run'.value.1 ∧ run.value.2.2 = run'.value.2.2 ∧
    run.network = run'.network
  := by
  intro run run'
  unfold run run' start
  dsimp only
  rw [h]
  exact ⟨rfl, rfl, rfl, rfl⟩

/-- A session of a reachable client is the session of a client that is new but for what it has
been told: the same requests and the same events, in the same order, the same report, and the
same answers of the server that have not been asked for. Nothing waits in the client when it
starts, and it starts with a package that has no alert but the one of the session. -/
theorem start_eq_start_renewed
    (h : Reachable settings c) (store : Store M) (serverInitiated : Bool)
    (replies : List Reply) (network : N) :
  let run := c.start store serverInitiated replies network
  let new := (c.renewed settings).start store serverInitiated replies network
  run.actions = new.actions ∧ run.value.1 = new.value.1 ∧ run.value.2.2 = new.value.2.2 ∧
    run.network = new.network ∧
    c.queue.commands = [] ∧ c.queue.statuses = [] ∧
    ∃ (first : Initiation) (rest : List Action),
      first.types = c.catalog.summaries store ∧
      first.alerts = [if serverInitiated then "urn:oma:at:dm:2.0:ServerInitiatedMgmt"
        else "urn:oma:at:dm:2.0:ClientInitiatedMgmt"] ∧
      first.tree = (if c.dumpTree then some (c.catalog.reports store) else none) ∧
      requests run.actions =
        settings.posting c.session.deviceId "application/vnd.oma.dm.initiation+json" first.text
          :: rest
  := by
  intro run new
  have hrest := h.atRest
  have hurns := (reachable_renewed settings c).atRest.urns_flush serverInitiated
  rw [← hrest.urns_flush serverInitiated] at hurns
  have hsame := start_congr_alerts (c.renewed settings) c.alerts store serverInitiated replies
    network hurns.symm
  rw [← hrest.eq_renewed] at hsame
  obtain ⟨hactions, hreport, hreplies, hnetwork⟩ := hsame
  refine ⟨hactions, hreport, hreplies, hnetwork, ?_, ?_, ?_⟩
  · rw [hrest.queue]
    rfl
  · rw [hrest.queue]
    rfl
  · obtain ⟨n, hn⟩ := exists_stopsAt settings replies network
    obtain ⟨reason, -, hstart⟩ := hrest.quiet_start store serverInitiated replies network hn
    obtain ⟨first, htypes, halerts, htree, hfirst⟩ :=
      hrest.exists_packageAt_zero store serverInitiated (exchange settings replies network)
    have hrequests : requests run.actions = _ := congrArg Result.actions hstart
    dsimp only at hrequests
    rw [flatMap_range_succ, hfirst] at hrequests
    exact ⟨first, _, htypes, halerts, htree, hrequests⟩

/-- A session that the server ends between its commands leaves nothing for the next one, which
starts with its own alert. -/
theorem start_eq_start_renewed_after_end :
  let settings := { Settings.default with reportUnknownCommands := true }
  let store : Store MemoryObject := fun _ => MemoryObject.empty "t"
  let ended : List Reply := [.ok "\x7b\"CMD\":[[\"FOO\"],[\"END\"],[\"GET\"]]\x7d"]
  let c := ((ofSettings settings).value.start store false ended (Script.mk [])).value.2.1
  let replies : List Reply := [.ok "\x7b\"CMD\":[[\"GET\"]]\x7d"]
  let run := c.start store true replies (Script.mk [])
  let new := (c.renewed settings).start store true replies (Script.mk [])
  let initiation :=
    "\x7b\"MOS\":[],\"Alert\":[\x7b\"AlertType\":\"urn:oma:at:dm:2.0:ServerInitiatedMgmt\"\x7d]\x7d"
  run.actions = new.actions ∧ run.value.1 = new.value.1 ∧
    ∃ rest, requests run.actions =
      .post "http://localhost:9988/path"
        [("OMADM-DevID", "omadm-device"), ("Accept", "application/vnd.oma.dm.request+json"),
          ("Content-Type", "application/vnd.oma.dm.initiation+json")] initiation :: rest
  := by
  intro settings store ended c replies run new initiation
  have hc : Reachable settings c := .started .created store false ended (Script.mk [])
  obtain ⟨hactions, hreport, -, -, -, -, ⟨types, alerts, tree⟩, rest, htypes, halerts, htree,
    hrequests⟩ := start_eq_start_renewed hc store true replies (Script.mk [])
  obtain rfl : types = [] := htypes
  obtain rfl : alerts = ["urn:oma:at:dm:2.0:ServerInitiatedMgmt"] := halerts
  obtain rfl : tree = none := htree
  have hinitiation : (Initiation.mk [] ["urn:oma:at:dm:2.0:ServerInitiatedMgmt"] none).text
      = initiation := by
    decide +kernel
  have hdevice : c.session.deviceId = "omadm-device" := by decide +kernel
  rw [hinitiation, hdevice] at hrequests
  exact ⟨hactions, hreport, rest, hrequests⟩

end Client

end DeviceManagement
