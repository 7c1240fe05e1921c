/-
Workspaces as documents: how a specification, a status and a whole workspace are written and read.
-/
import Tenancy.Workspace.Basic
import Tenancy.Json.Reader

namespace Tenancy

/-! ## Specifications -/

def Spec.toJson (s : Spec) : Json :=
  .present [("workspaceName", some (.str s.workspaceName)),
    ("workspaceENV", some (.str s.workspaceEnv)), ("models", some (.strings s.models)),
    ("promptPatterns", if s.promptPatterns.isEmpty then none else some (.strings s.promptPatterns))]

open Decoder in
def Spec.decode : Decoder Spec := fun w => do
  let s ← slots ["workspaceName", "workspaceENV", "models", "promptPatterns"] w
  let workspaceName ← required s "workspaceName" text
  let workspaceEnv ← defaulted s "workspaceENV" "dev" text
  let models ← defaulted s "models" [] (list text)
  let promptPatterns ← defaulted s "promptPatterns" [] (list text)
  some { workspaceName, workspaceEnv, models, promptPatterns }

/-! ## Statuses -/

def Truth.text : Truth → String
  | .yes => "True"
  | .no => "False"
  | .unknown => "Unknown"

def Truth.decode : Decoder Truth :=
  Decoder.choice [("True", .yes), ("False", .no), ("Unknown", .unknown)]

def Condition.toJson (c : Condition) : Json :=
  .present [("type", some (.str c.type)), ("status", some (.str c.status.text)),
    ("reason", some (.str c.reason)), ("message", some (.str c.message)),
    ("observedGeneration", c.observedGeneration.map .int),
    ("lastTransitionTime", c.lastTransitionTime.map .str)]

open Decoder in
def Condition.decode : Decoder Condition := fun w => do
  let s ← slots ["type", "status", "reason", "message", "observedGeneration", "lastTransitionTime"] w
  let type ← required s "type" text
  let status ← required s "status" Truth.decode
  let reason ← required s "reason" text
  let message ← defaulted s "message" "" text
  let observedGeneration ← optional s "observedGeneration" int64
  let lastTransitionTime ← optional s "lastTransitionTime" text
  some { type, status, reason, message, observedGeneration, lastTransitionTime }

def Status.toJson (s : Status) : Json :=
  .present [("isCreated", some (.bool s.isCreated)),
    ("conditions",
      if s.conditions.isEmpty then none else some (.arr (s.conditions.map Condition.toJson)))]

open Decoder in
def Status.decode : Decoder Status := fun w => do
  let s ← slots ["isCreated", "conditions"] w
  let isCreated ← defaulted s "isCreated" false bool
  let conditions ← defaulted s "conditions" [] (list Condition.decode)
  some { isCreated, conditions }

/-! ## Workspaces -/

def Workspace.toJson (ws : Workspace) : Json :=
  .present [("apiVersion", some (.str Workspace.apiVersion)), ("kind", some (.str Workspace.kind)),
    ("metadata", some ws.metadata.toJson), ("spec", some ws.spec.toJson),
    ("status", ws.status.map Status.toJson)]

open Decoder in
/-- Reads a workspace; what it calls itself does not matter. -/
def Workspace.decode : Decoder Workspace := fun w => do
  let s ← slots ["metadata", "spec", "status"] w
  let metadata ← required s "metadata" Object.Meta.decode
  let spec ← required s "spec" Spec.decode
  let status ← optional s "status" Status.decode
  some { metadata, spec, status }

end Tenancy
