/-
The provisioning plan of a workspace: its children in the order in which they depend on each other,
and the point at which the model runtime has to be ready.
-/
import Tenancy.Operator.Config
import Tenancy.Tenant.Manifest
import Tenancy.Tenant.Names
import Tenancy.Tenant.Settings
import Tenancy.Workspace.Basic

namespace Tenancy.Tenant

open Object Labels

/-- One entry of a plan. -/
inductive Entry where
  | ensure (child : Child)
  /-- Wait for the model runtime and bring its models up to date. -/
  | readiness
  deriving Repr

def Entry.key? : Entry → Option Key
  | .ensure child => some child.key
  | .readiness => none

/-- The labels of an object of a tenant. -/
def labelled (tenant name : String) (c : Component) : Labels := standard tenant name c.label

/-- What the model runtime needs, and the runtime itself. -/
def runtimeEntries (tenant : String) (settings : Settings) : List Entry :=
  let quota := quotaName tenant
  let chat := chatName tenant
  let runtime := runtimeName tenant
  [.ensure (Manifest.home tenant (labelled tenant tenant .namespace)),
    .ensure (Manifest.resourceQuota tenant quota (labelled tenant quota .resourceQuota)),
    .ensure (Manifest.volumeClaim tenant chat Manifest.chatVolumeSize
      (labelled tenant chat .volumeClaim)),
    .ensure (Manifest.serviceAccount tenant chat (labelled tenant chat .serviceAccount)),
    .ensure (Manifest.serviceAccount tenant runtime (labelled tenant runtime .serviceAccount)),
    .ensure (Manifest.runtime tenant runtime Manifest.runtimePort settings.runtimeTag
      Manifest.runtimeVolumeSize (labelled tenant runtime .modelRuntime)),
    .ensure (Manifest.clusterService tenant runtime Manifest.runtimePort
      (labelled tenant runtime .service))]

/-- The chat front-end, and the ways to both. -/
def chatEntries (tenant environment : String) (settings : Settings) (clusterDomain : String) :
    List Entry :=
  let chat := chatName tenant
  let runtime := runtimeName tenant
  let interceptor := interceptorName tenant
  [.ensure (Manifest.chat tenant chat Manifest.chatPort settings.chatTag
      ⟨tenant, environment, runtimeUrl tenant clusterDomain Manifest.runtimePort⟩
      (labelled tenant chat .chatFront)),
    .ensure (Manifest.clusterService tenant chat Manifest.chatPort
      (labelled tenant chat .service)),
    .ensure (Manifest.externalService tenant interceptor Manifest.interceptorHost
      (labelled tenant interceptor .service)),
    .ensure (Manifest.ingress tenant chat (chatHost tenant settings.defaultDomain) chat
      Manifest.chatPort (labelled tenant chat .ingress)),
    .ensure (Manifest.ingress tenant runtime (runtimeHost tenant settings.defaultDomain) runtime
      Manifest.runtimePort (labelled tenant runtime .ingress))]

/-- The scaling of the chat front-end. -/
def scalingEntries (tenant : String) (settings : Settings) : List Entry :=
  let chat := chatName tenant
  [.ensure (Manifest.scaledObject tenant chat Manifest.chatPort
    [chatHost tenant settings.defaultDomain] (labelled tenant chat .autoscaling))]

/-- The plan of a workspace. -/
def plan (ws : Workspace) (settings : Settings) (config : Operator.Config) : List Entry :=
  let tenant := ws.workspaceName
  runtimeEntries tenant settings ++ .readiness ::
    chatEntries tenant ws.spec.workspaceEnv settings config.clusterDomain ++
    if config.scaleToZero then scalingEntries tenant settings else []

end Tenancy.Tenant
