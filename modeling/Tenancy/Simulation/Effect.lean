/-
What happens during a simulation. A write stands in the record only if it took place; a pull or the
making of a model stands there once it has been tried.
-/
import Tenancy.Operator.Call
import Tenancy.Json.Printer

namespace Tenancy.Simulation

inductive Effect where
  | readWorkspace (name : String)
  | setFinalizers (name : String) (version : Option String) (finalizers : List String)
  | patchStatus (name : String) (version : Option String) (status : Status)
  /-- A write of the finalizers that came too late. -/
  | finalizersConflict (name : String)
  /-- A write of the status that came too late. -/
  | statusConflict (name : String)
  | lookedFor (child : Object.Child)
  | created (child : Object.Child)
  | deletedNamespace (name : String)
  | readReplicas (ns name : String)
  | readConfigMap (ns name : String)
  | published (event : Operator.Event)
  | openedRuntime (tenant : String)
  | listedModels (tenant : String)
  | listedRunning (tenant : String)
  | pulled (tenant model : String)
  | madeModel (tenant model : String) (file : Model.File)
  deriving Repr

namespace Effect

/-- Whether an effect only reads. -/
def reads : Effect → Bool
  | .readWorkspace _ | .lookedFor _ | .readReplicas .. | .readConfigMap .. | .openedRuntime _
  | .listedModels _ | .listedRunning _ => true
  | _ => false

def versionText (version : Option String) : String := version.getD "-"

def referenceText (r : Object.ObjectReference) : String :=
  r.kind.getD "-" ++ "/" ++ r.name.getD "-" ++ "/" ++ r.uid.getD "-"

/-- One line for an effect. -/
def text : Effect → String
  | .readWorkspace name => "get_workspace:" ++ name
  | .setFinalizers name version finalizers =>
    "set_finalizers:" ++ name ++ ":" ++ versionText version ++ ":" ++
      String.intercalate "," finalizers
  | .patchStatus name version _ => "patch_status:" ++ name ++ ":" ++ versionText version
  | .finalizersConflict name => "conflict:set_finalizers:" ++ name
  | .statusConflict name => "conflict:patch_status:" ++ name
  | .lookedFor child => "exists:" ++ child.label
  | .created child => "create:" ++ child.label
  | .deletedNamespace name => "delete_namespace:" ++ name
  | .readReplicas ns name => "ready_replicas:" ++ ns ++ "/" ++ name
  | .readConfigMap ns name => "get_config_map:" ++ ns ++ "/" ++ name
  | .published e =>
    "event:" ++ e.type.label ++ ":" ++ e.reason ++ ":" ++ e.action ++ ":" ++ e.note.getD "" ++ ":" ++
      referenceText e.reference
  | .openedRuntime tenant => "for_workspace:" ++ tenant
  | .listedModels _ => "list_models"
  | .listedRunning _ => "list_running_models"
  | .pulled _ model => "pull:" ++ model
  | .madeModel _ model file =>
    "create_model:" ++ model ++ ":" ++ file.base ++ ":" ++ (Json.obj file.parameters).text ++ ":" ++
      toString (file.system.getD "").utf8ByteSize

end Effect
end Tenancy.Simulation
