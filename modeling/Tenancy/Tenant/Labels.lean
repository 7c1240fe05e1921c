/-
The labels that every object of a tenant carries, and those that select the pods of a workload.
-/
import Tenancy.Dict

namespace Tenancy.Tenant

/-- Labels by key. -/
abbrev Labels := Dict String String

namespace Labels

/-! ## Keys -/

def nameKey : String := "app.kubernetes.io/name"

def partOfKey : String := "app.kubernetes.io/part-of"

def componentKey : String := "app.kubernetes.io/component"

def versionKey : String := "app.kubernetes.io/version"

def managedByKey : String := "app.kubernetes.io/managed-by"

def workspaceKey : String := "aichatworkspace"

/-! ## Values -/

def manager : String := "aichat-workspace-operator"

def version : String := "0.1.0"

/-- The parts that an object may play in a tenant. -/
inductive Component where
  | namespace
  | resourceQuota
  | volumeClaim
  | serviceAccount
  | service
  | modelRuntime
  | chatFront
  | ingress
  | autoscaling
  deriving DecidableEq, Repr

def Component.label : Component → String
  | .namespace => "aichatworkspace"
  | .resourceQuota => "resourceQuota"
  | .volumeClaim => "pvc"
  | .serviceAccount => "sa"
  | .service => "svc"
  | .modelRuntime => "ollama"
  | .chatFront => "openwebui"
  | .ingress => "ingress"
  | .autoscaling => "autoscaling"

/-- The labels of the object `name` that plays the part `component` for a tenant. -/
def standard (tenant name component : String) : Labels :=
  Dict.ofList [(nameKey, name), (partOfKey, "aichat-workspace-" ++ tenant),
    (componentKey, component), (versionKey, version), (managedByKey, manager),
    (workspaceKey, tenant)]

/-- The labels by which the pods of the workload `name` are found. -/
def selector (name : String) : Labels := [(nameKey, name)]

/-- The selector that finds every managed object. -/
def managedSelector : String := managedByKey ++ "=" ++ manager

/-- Whether that selector finds an object with the given labels. -/
def managed (labels : Labels) : Bool := Dict.get? labels managedByKey = some manager

end Labels
end Tenancy.Tenant
