import Seshat.Commands.AppIds
import Seshat.Commands.Overrides
import Seshat.Transport.PathRules
import Mathlib.Tactic.Common

/-! The security specification a run builds for its plan, and what becomes of a custom
provider's parameters in the rules of the path. -/

namespace Seshat.Commands
open Config Gateway Transport Lib.Objects

def ProviderParam.toJson : ProviderParam → Json
  | .bool b => .bool b
  | .int n => .number n.toInt
  | .str s => .string s

/-- The framing and the optimization flags a gateway run adds. -/
def withRunOptions (spec : SecuritySpec) (s : Scenario) : SecuritySpec :=
  let spec :=
    match s.protocol.appProtocol with
    | .ale => spec.withAsymmetricAle "ale"
    | .raw => spec.withAsymmetricAle "raw"
    | .none => spec
  spec.withOptimizations s.optimizationFlags

/-- Only a run of one stream takes over the framing and the flags. -/
def RunPath.spec (path : RunPath) (spec : SecuritySpec) (s : Scenario) : SecuritySpec :=
  match path with
  | .single => withRunOptions spec s
  | _ => spec

section Served
variable {host : Host} {wiring : Wiring} {plan : GatewayPlan} {s : Scenario} {path : RunPath}
  {provider : String} {spec : SecuritySpec} {ports : Ports}

end Served

section Carried
variable {host : Host} {wiring : Wiring} {plan : GatewayPlan} {s : Scenario} {path : RunPath}
  {provider : String} {ports : Ports}

end Carried

end Seshat.Commands
