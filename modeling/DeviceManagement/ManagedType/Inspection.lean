import DeviceManagement.ManagedType.Basic
import DeviceManagement.Text.Quoted

/-!
# Inspecting types

The text by which a type is shown to whoever looks for a mistake: its id, the address of its
description, the name of its root, and the ids of its instances.
-/

namespace DeviceManagement.ManagedType

/-- The text by which a type is shown. -/
def inspect (t : ManagedType) : String :=
  let url :=
    match t.schemaUrl with
    | some url => "Some(" ++ Text.quote url ++ ")"
    | none => "None"
  "MoTypeHandler \x7b type_id: " ++ Text.quote t.typeId ++ ", schema_url: " ++ url
    ++ ", schema: " ++ Text.quote t.schema.name
    ++ ", instances: " ++ Text.quoteAll t.instanceIds ++ " \x7d"

end DeviceManagement.ManagedType
