/-
The configuration of the operator, read from environment variables, and how soon a workspace is
looked at again under it.
-/
import Tenancy.Dict
import Tenancy.Text.Duration

namespace Tenancy.Operator

/-- How often workspaces are looked at, and how long a model runtime may take. All in seconds. -/
structure Intervals where
  success : Nat := 30
  error : Nat := 10
  /-- Between two looks at a runtime that is not ready. -/
  readiness : Nat := 5
  /-- The longest that a single pull may take. -/
  modelPull : Nat := 3600
  runtimeRequest : Nat := 30
  deriving DecidableEq, Repr

structure Config where
  httpPort : Nat := 8081
  settingsConfigMap : String := "aichat-workspace-operator-config"
  settingsNamespace : String := "aichat-workspace-operator-system"
  clusterDomain : String := "cluster.local"
  maxConcurrentReconciles : Nat := 8
  intervals : Intervals := {}
  /-- Whether the chat front-end is scaled down while nobody uses it. -/
  scaleToZero : Bool := false
  deriving DecidableEq, Repr

namespace Config

/-! ## Reading -/

/-- A variable that has no value of its kind. -/
structure Error where
  name : String
  deriving DecidableEq, Repr

def Error.message (e : Error) : String := "Failed to parse environment variable " ++ e.name

/-- A variable that may be unset, in which case it has the value `default`. -/
def read {α : Type} (env : Dict String String) (name : String) (default : α)
    (parse : String → Option α) : Except Error α :=
  match Dict.get? env name with
  | none => .ok default
  | some s =>
    match parse s with
    | some a => .ok a
    | none => .error ⟨name⟩

def flag? (s : String) : Option Bool :=
  if s = "true" then some true else if s = "false" then some false else none

def unsigned16? : String → Option Nat := Numeral.unsigned? (Nat.pow 2 16 - 1)

def unsigned64? : String → Option Nat := Numeral.unsigned? (Nat.pow 2 64 - 1)

/-- Reads the configuration; the first variable that cannot be read is the error. -/
def ofEnvironment (env : Dict String String) : Except Error Config := do
  let d : Config := {}
  let httpPort ← read env "HTTP_PORT" d.httpPort unsigned16?
  let settingsConfigMap ← read env "AICW_SETTINGS_CONFIGMAP" d.settingsConfigMap some
  let settingsNamespace ← read env "AICW_SETTINGS_NAMESPACE" d.settingsNamespace some
  let clusterDomain ← read env "AICW_CLUSTER_DOMAIN" d.clusterDomain some
  let maxConcurrentReconciles ←
    read env "AICW_MAX_CONCURRENT_RECONCILES" d.maxConcurrentReconciles unsigned16?
  let success ← read env "AICW_RECONCILE_SUCCESS_SECS" d.intervals.success unsigned64?
  let error ← read env "AICW_RECONCILE_ERROR_SECS" d.intervals.error unsigned64?
  let readiness ← read env "AICW_READINESS_POLL_SECS" d.intervals.readiness unsigned64?
  let modelPull ← read env "AICW_MODEL_PULL_TIMEOUT_SECS" d.intervals.modelPull unsigned64?
  let runtimeRequest ←
    read env "AICW_OLLAMA_REQUEST_TIMEOUT_SECS" d.intervals.runtimeRequest unsigned64?
  let scaleToZero ← read env "AICW_FEATURES_SCALE_TO_ZERO" d.scaleToZero flag?
  return {
    httpPort, settingsConfigMap, settingsNamespace, clusterDomain, maxConcurrentReconciles
    intervals := { success, error, readiness, modelPull, runtimeRequest }
    scaleToZero }

/-! ## Uses -/

/-- The address on which the operator answers questions about its health. -/
def httpAddress (c : Config) : String := "0.0.0.0:" ++ toString c.httpPort

def pullLimit (c : Config) : Duration := .ofSeconds c.intervals.modelPull

def requestLimit (c : Config) : Duration := .ofSeconds c.intervals.runtimeRequest

end Config

/-- How soon a workspace should be looked at again. -/
inductive Requeue where
  | immediate
  | success
  | readiness
  /-- Only when something changes. -/
  | never
  deriving DecidableEq, Repr

def Requeue.all : List Requeue := [.immediate, .success, .readiness, .never]

def Requeue.label : Requeue → String
  | .immediate => "Immediate"
  | .success => "Success"
  | .readiness => "Readiness"
  | .never => "Never"

/-- The time to wait, if a time brings the next look. -/
def Requeue.after (c : Config) : Requeue → Option Duration
  | .immediate => some .zero
  | .success => some (.ofSeconds c.intervals.success)
  | .readiness => some (.ofSeconds c.intervals.readiness)
  | .never => none

end Tenancy.Operator
