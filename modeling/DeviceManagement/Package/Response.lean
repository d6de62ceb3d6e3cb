import DeviceManagement.Command.Basic
import DeviceManagement.Json.Form

/-!
# Responses

The package by which a client answers a request: the statuses of its commands, in order.
-/

namespace DeviceManagement

/-- A package with statuses for the server. -/
structure Response where
  statuses : List Status
  deriving DecidableEq, Repr

namespace Response

/-- The media type of the package. -/
def mediaType : String := "application/vnd.oma.dm.response+json"

/-- A status in the package. -/
def ofStatus (status : Status) : Json.Value :=
  .object [("sc", .ofNat status.code.toNat), ("URI", .ofStrings status.uris)]

/-- The package as a JSON value. -/
def toJson (p : Response) : Json.Value :=
  .object [("SC", .array (p.statuses.map ofStatus))]

/-- The package as text. -/
def text (p : Response) : String :=
  p.toJson.text

open Json.Form in
/-- The status that a form stands for. -/
def readStatus? (form : Json.Form) : Option Status := do
  let [code, uris] ← form.fields? ["sc", "URI"] | none
  let code ← natural? (UInt16.size - 1) (← code)
  let uris ← orDefault? [] (list? text?) uris
  return ⟨UInt16.ofNat code, uris⟩

open Json.Form in
/-- The package that a form stands for. -/
def ofForm? (form : Json.Form) : Option Response := do
  let [statuses] ← form.fields? ["SC"] | none
  let statuses ← list? readStatus? (← statuses)
  return ⟨statuses⟩

/-- The package that a text stands for. -/
def ofText? (text : String) : Option Response := do
  let form ← Json.Form.ofText? text
  ofForm? form

end Response

end DeviceManagement
