/-
The errors in which a pass over a workspace may end.
-/
import Tenancy.Cluster.Error
import Tenancy.Model.Client
import Tenancy.Tenant.Settings
import Tenancy.Text.Duration

namespace Tenancy.Operator

inductive Error where
  | cluster (e : Cluster.Error)
  | settings (e : Settings.Error)
  | modelRuntime (e : Model.Error)
  | pullTimeout (model : String) (after : Duration)
  | cancelled
  | serialization (detail : String)
  | internal (text : String)
  deriving DecidableEq, Repr

namespace Error

def message : Error → String
  | .cluster e => "kube error: " ++ e.message
  | .settings e => "settings error: " ++ e.message
  | .modelRuntime e => "model runtime error: " ++ e.message
  | .pullTimeout model after => "pull of model " ++ model ++ " timed out after " ++ after.text
  | .cancelled => "reconcile cancelled"
  | .serialization detail => "serialization error: " ++ detail
  | .internal text => "internal error: " ++ text

def isCancelled : Error → Bool
  | .cancelled => true
  | _ => false

end Error
end Tenancy.Operator
