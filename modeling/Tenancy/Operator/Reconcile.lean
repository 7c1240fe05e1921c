/-
One pass over a workspace: read it, select its step, run the step, and report a failure. The error
of a pass is the error of its step, whatever becomes of the report. Besides time, a change of the
workspace makes the operator look at it again, and so does a change of a managed child that it
controls.
-/
import Tenancy.Operator.Finalizer
import Tenancy.Operator.Provision
import Tenancy.Operator.Report
import Tenancy.Workspace.Lifecycle

namespace Tenancy.Operator

open Lifecycle

/-! ## Passes -/

/-- The event that announces a new workspace. -/
def createdEvent (ws : Workspace) : Event :=
  { reference := ws.reference, type := .normal, reason := "Created", action := "Provision"
    note := some ("Workspace " ++ ws.workspaceName ++ " provisioned") }

/-- Follows the plan and reports how far it came. The first complete pass marks the workspace as
created and announces it. -/
def provisionPass (config : Config) (step : Step) (ws : Workspace) : Operation Requeue := do
  match ← provision config ws with
  | .created kind child =>
    report ws.name false (some (.progressing ("created " ++ kind.label ++ " " ++ child)))
    return if step = .update then .immediate else .success
  | .awaitingReadiness =>
    report ws.name false (some (.progressing "waiting for the model runtime to become ready"))
    return .readiness
  | .complete =>
    let first : Bool := decide (step = .create)
    report ws.name first (some .ready)
    if first then Operation.publish (createdEvent ws)
    return .success

def runStep (config : Config) (ws : Workspace) : Step → Operation Requeue
  | .finalizer => do
    attach ws
    return .immediate
  | .create => provisionPass config .create ws
  | .update => provisionPass config .update ws
  | .abandon => return .success
  | .delete => do
    teardown ws
    return .never

/-- Reports the failure of a step, unless it was cancelled; a report that fails is forgotten. -/
def reportFailure (name : String) (e : Error) : Program Unit :=
  if e.isCancelled then return ()
  else do
    let _ ← (report name false (some (.failed e))).run
    return ()

/-- Runs a step and reports its failure. -/
def settle (config : Config) (name : String) (ws : Workspace) (step : Step) :
    Program (Except Error Requeue) := do
  match ← (runStep config ws step).run with
  | .ok requeue => return .ok requeue
  | .error e =>
    reportFailure name e
    return .error e

/-- One pass over the workspace `name`. -/
def pass (config : Config) (name : String) : Operation Requeue := do
  match ← Operation.workspace name with
  | none => return .never
  | some ws =>
    match select (.of ws) with
    | none => return .success
    | some step => ExceptT.mk (settle config name ws step)

/-! ## What brings the next look -/

/-- The time after which a workspace is looked at again, if time brings the next look. -/
def reconcile (config : Config) (ws : Workspace) : Operation (Option Duration) := do
  return (← pass config ws.name).after config

/-- The time after which a workspace whose pass failed is looked at again. -/
def errorDelay (config : Config) : Duration := .ofSeconds config.intervals.error

namespace Watch

/-- The kinds of children whose changes are watched. -/
def kinds (config : Config) : List Object.Kind :=
  [.namespace, .resourceQuota, .volumeClaim, .serviceAccount, .statefulSet, .service, .deployment,
    .ingress] ++ if config.scaleToZero then [.scaledObject] else []

/-- Whether changes of a child are watched, by its labels. -/
def selects (m : Object.Meta) : Bool := Tenant.Labels.managed (m.labels.getD [])

/-- The workspace that controls an object: the first owner that is a workspace and in control. -/
def workspace? (m : Object.Meta) : Option String :=
  ((m.ownerReferences.getD []).find? fun o =>
    decide (o.kind = Workspace.kind ∧ o.controller = some true)).map (·.name)

end Watch
end Tenancy.Operator
