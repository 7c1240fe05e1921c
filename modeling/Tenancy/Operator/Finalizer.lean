/-
The deletion guard. It goes on before anything is created and comes off only after the namespace has
been deleted. Both writes carry the version that was read, so a write on a stale reading fails.
-/
import Tenancy.Operator.Program

namespace Tenancy.Operator

/-- Puts the guard on, behind the other guards. -/
def attach (ws : Workspace) : Operation Unit :=
  if ws.hasFinalizer then return ()
  else Operation.setFinalizers ws.name ws.metadata.resourceVersion
    (ws.finalizers ++ [Workspace.finalizer])

/-- The event that announces a deletion. -/
def deletingEvent (ws : Workspace) : Event :=
  { reference := ws.reference, type := .warning, reason := "Deleting", action := "Delete"
    note := some ("Deleting namespace " ++ ws.workspaceName) }

/-- Deletes the namespace, announces it, and takes the guard off; the guards of others stay. -/
def teardown (ws : Workspace) : Operation Unit := do
  Operation.deleteNamespace ws.workspaceName
  Operation.publish (deletingEvent ws)
  Operation.setFinalizers ws.name ws.metadata.resourceVersion
    (ws.finalizers.filter (· ≠ Workspace.finalizer))

end Tenancy.Operator
