/-
One pass over the provisioning plan. A pass creates at most one child: it stops there, and also
while the runtime is not ready, so later entries wait for earlier ones.
-/
import Tenancy.Operator.Ensure
import Tenancy.Operator.Models
import Tenancy.Tenant.Plan

namespace Tenancy.Operator

/-- How far a pass over the plan came. -/
inductive Outcome where
  | created (kind : Object.Kind) (name : String)
  | awaitingReadiness
  | complete
  deriving DecidableEq, Repr

/-- Reads the settings from their configuration map. -/
def loadSettings (config : Config) : Operation Settings := do
  let ns := config.settingsNamespace
  let name := config.settingsConfigMap
  match ← Operation.configMap ns name with
  | none => throw (.settings (.notFound ns name))
  | some m => ExceptT.mk (return (Settings.ofConfigMap m).mapError .settings)

/-- Goes through the entries of a plan up to the first that is not settled. -/
def follow (config : Config) (ws : Workspace) : List Tenant.Entry → Operation Outcome
  | [] => return .complete
  | .ensure child :: rest => do
    match ← ensure ws child with
    | .created => return .created child.kind child.name
    | .present => follow config ws rest
  | .readiness :: rest => do
    match ← syncRuntime config ws with
    | .notReady => return .awaitingReadiness
    | .synced => follow config ws rest

/-- One pass over the plan of a workspace under the settings as they are now. -/
def provision (config : Config) (ws : Workspace) : Operation Outcome := do
  let settings ← loadSettings config
  follow config ws (Tenant.plan ws settings config)

end Tenancy.Operator
