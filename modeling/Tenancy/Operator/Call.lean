/-
The calls by which a reconciler acts: on the cluster that stores workspaces and their children, on
the model runtimes of the tenants, and on the clock. What a call answers depends on the call.
-/
import Tenancy.Model.Entry
import Tenancy.Model.File
import Tenancy.Object.Child
import Tenancy.Operator.Error
import Tenancy.Workspace.Basic

namespace Tenancy.Operator

/-- Whether an event is good news. -/
inductive EventType where
  | normal
  | warning
  deriving DecidableEq, Repr

def EventType.label : EventType → String
  | .normal => "Normal"
  | .warning => "Warning"

/-- A note to those who watch a workspace. -/
structure Event where
  reference : Object.ObjectReference
  type : EventType
  reason : String
  action : String
  note : Option String := none
  deriving DecidableEq, Repr

/-- How a bounded pull ended. -/
inductive PullEnd where
  | finished (result : Except Model.Error Unit)
  /-- The task that pulled came down. -/
  | collapsed (detail : String)
  | timedOut
  | cancelled

/-- A call of the reconciler. A runtime is named by its tenant. -/
inductive Call where
  | workspace (name : String)
  /-- Writes the guards of a workspace, if it still has the given version. -/
  | setFinalizers (name : String) (version : Option String) (finalizers : List String)
  /-- Writes the status of a workspace, if it still has the given version. -/
  | patchStatus (name : String) (version : Option String) (status : Status)
  | childExists (child : Object.Child)
  /-- Creates a child; one that is already there counts as created. -/
  | createChild (child : Object.Child)
  /-- Deletes a namespace; one that is not there counts as deleted. -/
  | deleteNamespace (name : String)
  | readyReplicas (ns name : String)
  | configMap (ns name : String)
  /-- Publishes an event; nobody learns whether that worked. -/
  | publish (event : Event)
  | openRuntime (tenant : String)
  | listModels (tenant : String)
  | listRunning (tenant : String)
  /-- Pulls a model for at most the given time, unless the pass is cancelled before. -/
  | pull (tenant model : String) (limit : Duration)
  | createModel (tenant model : String) (file : Model.File)
  | now

namespace Call

/-- What a call answers. -/
@[reducible] def Answer : Call → Type
  | .workspace _ => Except Error (Option Workspace)
  | .setFinalizers .. | .patchStatus .. | .createChild _ | .deleteNamespace _ => Except Error Unit
  | .childExists _ => Except Error Bool
  | .readyReplicas .. => Except Error Int
  | .configMap .. => Except Error (Option ConfigMap)
  | .publish _ | .openRuntime _ => Unit
  | .listModels _ | .listRunning _ => Except Model.Error (List Model.Entry)
  | .pull .. => PullEnd
  | .createModel .. => Except Model.Error Unit
  | .now => String

end Call
end Tenancy.Operator
