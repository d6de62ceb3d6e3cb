import DeviceManagement.ManagedObject.Memory
import DeviceManagement.Proofs.SessionRun
import DeviceManagement.Proofs.SideBySide

/-!
# What a session discloses of the objects

Two clients that report the same types with the same self-reported instance ids may have any
schemas, any instances and any objects behind them. A fetch takes its body to the catalog, which
looks for the type, the instance and the node, and then refuses to write, whatever it has found.
So what the catalog knows shows in the reason that is logged, and nowhere else: the sessions of
both clients make the same requests, but for the tree in the first package.
-/

namespace DeviceManagement

/-! ### Writes that are refused -/

namespace Initiation

/-- The members of the package that are not made from the content of objects. -/
def members (p : Initiation) : List (String × Json.Value) :=
  [("MOS", .array (p.types.map ofSummary)), ("Alert", .array (p.alerts.map ofAlert))]

end Initiation

/-! ### Sessions -/

namespace Client

variable {N : Type} [Network N] {M M' : Type} [ManagedObject M] [ManagedObject M']
variable {settings : Settings} {c c' : Client}

end Client

end DeviceManagement
