/-
What the table of steps comes to. Its rows overlap and the first that admits the facts is taken, so a row has
also the negation of those above it: nothing is provisioned without the guard, and nothing is deleted that
was never created.
-/
import Tenancy.Workspace.Lifecycle
import Mathlib.Tactic

namespace Tenancy.Lifecycle

/-- The table as a decision. -/
theorem select_eq (guarded created pending : Bool) : select ⟨guarded, created, pending⟩ =
    if pending then if created then if guarded then some .delete else none else some .abandon
    else if guarded then some (if created then .update else .create) else some .finalizer := by
  cases guarded <;> cases created <;> cases pending <;> rfl

theorem select_alive (guarded created : Bool) : select ⟨guarded, created, false⟩ =
    some (if guarded then if created then .update else .create else .finalizer) := by
  rw [select_eq]
  cases guarded <;> rfl

variable {ws : Workspace}

/-- Each step is taken for these workspaces and no others. -/
theorem select_iff (step : Step) : select (.of ws) = some step ↔
    match step with
    | .finalizer => ws.hasFinalizer = false ∧ ws.pendingDeletion = false
    | .create => ws.hasFinalizer = true ∧ ws.isCreated = false ∧ ws.pendingDeletion = false
    | .abandon => ws.isCreated = false ∧ ws.pendingDeletion = true
    | .update => ws.hasFinalizer = true ∧ ws.isCreated = true ∧ ws.pendingDeletion = false
    | .delete => ws.hasFinalizer = true ∧ ws.isCreated = true ∧ ws.pendingDeletion = true := by
  rw [Facts.of, select_eq]
  cases step <;> cases ws.hasFinalizer <;> cases ws.isCreated <;> cases ws.pendingDeletion <;> simp

end Tenancy.Lifecycle
