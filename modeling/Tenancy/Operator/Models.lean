/-
Bringing the models of a runtime up to date, once the runtime is ready.
-/
import Tenancy.Model.Pattern
import Tenancy.Operator.Config
import Tenancy.Operator.Program
import Tenancy.Tenant.Names

namespace Tenancy.Operator

inductive RuntimeSync where
  | notReady
  | synced
  deriving DecidableEq, Repr

def RuntimeSync.label : RuntimeSync → String
  | .notReady => "NotReady"
  | .synced => "Synced"

/-- Whether the runtime holds the model that a reference names. -/
def modelExists (tenant reference : String) : Operation Bool := do
  return Model.present (← Operation.listModels tenant) reference

/-- Makes the variants of a model that the runtime does not have yet; unknown patterns are passed
over. -/
def syncVariants (tenant model : String) : List String → Operation Unit
  | [] => return ()
  | pattern :: rest => do
    match Model.variant? model pattern with
    | none => pure ()
    | some file =>
      let name := Model.variantName model pattern
      if ← modelExists tenant name then pure ()
      else Operation.createModel tenant name file
    syncVariants tenant model rest

/-- Pulls each model that the runtime does not have, followed by its variants. The first failure
ends the work. -/
def syncModels (tenant : String) (patterns : List String) (limit : Duration) :
    List String → Operation Unit
  | [] => return ()
  | model :: rest => do
    if ← modelExists tenant model then pure ()
    else Operation.pull tenant model limit
    syncVariants tenant model patterns
    syncModels tenant patterns limit rest

/-- The number of pods that a ready runtime has at least. -/
def expectedReplicas : Int := 1

/-- Looks whether the runtime is ready, and if so brings its models up to date and asks which of
them are running. -/
def syncRuntime (config : Config) (ws : Workspace) : Operation RuntimeSync := do
  let tenant := ws.workspaceName
  let ready ← Operation.readyReplicas tenant (Tenant.runtimeName tenant)
  if ready < expectedReplicas then return .notReady
  Operation.openRuntime tenant
  syncModels tenant ws.spec.promptPatterns config.pullLimit ws.spec.models
  let _ ← Operation.listRunning tenant
  return .synced

end Tenancy.Operator
