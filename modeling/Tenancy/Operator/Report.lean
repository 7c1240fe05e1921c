/-
What a pass reports in the status of a workspace: one condition that says whether the workspace is
ready, and the mark that it has been created, which is never taken back. A condition keeps the time
of its last change of truth; all else about it is replaced. A report is merged into the status as it
is then stored, and written only if that changes what the status says.
-/
import Tenancy.Operator.Program

namespace Tenancy

namespace Condition

/-- The type of the condition that reports on a workspace. -/
def readyType : String := "Ready"

def ready : Condition :=
  { type := readyType, status := .yes, reason := "ReconciliationSucceeded"
    message := "AIChatWorkspace reconciled" }

def progressing (message : String) : Condition :=
  { type := readyType, status := .no, reason := "Progressing", message }

def failed (e : Operator.Error) : Condition :=
  { type := readyType, status := .no, reason := "ReconciliationFailed", message := e.message }

/-- Puts a condition in place of the first of its type, or at the end. -/
def upsert (now : String) (c : Condition) : List Condition → List Condition
  | [] => [{ c with lastTransitionTime := some now }]
  | old :: rest =>
    if old.type = c.type then
      { c with lastTransitionTime :=
          if old.status = c.status then old.lastTransitionTime else some now } :: rest
    else old :: upsert now c rest

end Condition

namespace Status

/-- The status after an update. -/
def merge (now : String) (current : Status) (markCreated : Bool) (condition : Option Condition)
    (generation : Option Int) : Status :=
  { isCreated := current.isCreated || markCreated
    conditions :=
      match condition with
      | none => current.conditions
      | some c => { c with observedGeneration := generation }.upsert now current.conditions }

/-- The status without the times of its conditions. -/
def timeless (s : Status) : Status :=
  { s with conditions := s.conditions.map fun c => { c with lastTransitionTime := none } }

/-- Whether two statuses say the same, whenever it came about. -/
def sameIgnoringTime (a b : Status) : Bool := decide (a.timeless = b.timeless)

end Status

namespace Operator

/-- Reads the workspace again and writes its status if the report changes it; a workspace that is
gone needs no report. -/
def report (name : String) (markCreated : Bool) (condition : Option Condition) :
    Operation Unit := do
  match ← Operation.workspace name with
  | none => return ()
  | some latest =>
    let now ← Operation.now
    let current := latest.status.getD {}
    let next := current.merge now markCreated condition latest.metadata.generation
    if current.sameIgnoringTime next then return ()
    else Operation.patchStatus latest.name latest.metadata.resourceVersion next

end Operator
end Tenancy
