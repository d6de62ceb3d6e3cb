import DeviceManagement.Json.Form
import DeviceManagement.Json.Printer
import DeviceManagement.ManagedType.Basic

/-!
# The first package

The package by which a client starts a session. It tells the server the types with their
instances, the alerts, and the whole tree if that is wanted.
-/

namespace DeviceManagement

/-- The first package of a session. -/
structure Initiation where
  types : List TypeSummary
  /-- The URNs of the alerts. -/
  alerts : List String
  /-- The reports of all instances, if the tree is wanted. -/
  tree : Option (List InstanceReport)

namespace Initiation

/-- The media type of the package. -/
def mediaType : String := "application/vnd.oma.dm.initiation+json"

/-- A type in the package. -/
def ofSummary (summary : TypeSummary) : Json.Value :=
  .object ((summary.schemaUrl.map fun url => ("DDF", Json.Value.string url)).toList
    ++ [("MOID", .string summary.typeId), ("MIID", .ofStrings summary.instanceIds)])

/-- An alert in the package. -/
def ofAlert (urn : String) : Json.Value :=
  .object [("AlertType", .string urn)]

/-- An instance in the package. -/
def ofReport (report : InstanceReport) : Json.Value :=
  .object [("MOData", report.tree), ("ClientURI", .string report.clientUri)]

/-- The package as a JSON value. -/
def toJson (p : Initiation) : Json.Value :=
  .object ([("MOS", .array (p.types.map ofSummary)), ("Alert", .array (p.alerts.map ofAlert))]
    ++ (p.tree.map fun reports => ("MgmtTree", Json.Value.array (reports.map ofReport))).toList)

/-- The package as text. -/
def text (p : Initiation) : String :=
  p.toJson.text

open Json.Form in
/-- The type that a form stands for. -/
def readSummary? (form : Json.Form) : Option TypeSummary := do
  let [ddf, moid, miid] ← form.fields? ["DDF", "MOID", "MIID"] | none
  let schemaUrl ← orDefault? none (nullable? text?) ddf
  let typeId ← text? (← moid)
  let instanceIds ← list? text? (← miid)
  return ⟨schemaUrl, typeId, instanceIds⟩

open Json.Form in
/-- The alert that a form stands for. -/
def readAlert? (form : Json.Form) : Option String := do
  let [type] ← form.fields? ["AlertType"] | none
  text? (← type)

/-- The number of arrays and objects around the content of an instance. -/
def contentDepth : Nat := 3

open Json.Form in
/-- The instance that a form stands for. -/
def readReport? (form : Json.Form) : Option InstanceReport := do
  let [data, uri] ← form.fields? ["MOData", "ClientURI"] | none
  let tree ← (← data).value? (Json.maxDepth - contentDepth)
  let clientUri ← text? (← uri)
  return ⟨clientUri, tree⟩

open Json.Form in
/-- The package that a form stands for. -/
def ofForm? (form : Json.Form) : Option Initiation := do
  let [types, alerts, tree] ← form.fields? ["MOS", "Alert", "MgmtTree"] | none
  let types ← list? readSummary? (← types)
  let alerts ← list? readAlert? (← alerts)
  let tree ← orDefault? none (nullable? (list? readReport?)) tree
  return ⟨types, alerts, tree⟩

/-- The package that a text stands for. -/
def ofText? (text : String) : Option Initiation := do
  let form ← Json.Form.ofText? text
  ofForm? form

end Initiation

end DeviceManagement
