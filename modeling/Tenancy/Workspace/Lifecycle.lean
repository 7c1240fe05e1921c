/-
The life of a workspace as a table of guarded steps. A pass classifies the workspace by three facts
and takes the first step whose guard admits them; a workspace that no row admits is at rest.
-/
import Tenancy.Workspace.Basic

namespace Tenancy.Lifecycle

/-- What a pass may do for a workspace. -/
inductive Step where
  /-- Put the guard on. -/
  | finalizer
  /-- Provision, with the creation still to be announced. -/
  | create
  /-- Let a workspace go that never came to be. -/
  | abandon
  /-- Provision again. -/
  | update
  /-- Delete the namespace and take the guard off. -/
  | delete
  deriving DecidableEq, Repr

/-- The facts that decide the step. -/
structure Facts where
  hasFinalizer : Bool
  isCreated : Bool
  pendingDeletion : Bool
  deriving DecidableEq, Repr

def Facts.of (ws : Workspace) : Facts :=
  ⟨ws.hasFinalizer, ws.isCreated, ws.pendingDeletion⟩

/-- What a row asks of the facts; a fact it leaves open may be either. -/
structure Guard where
  hasFinalizer : Option Bool
  isCreated : Option Bool
  pendingDeletion : Option Bool
  deriving DecidableEq, Repr

def Guard.admits (g : Guard) (f : Facts) : Bool :=
  g.hasFinalizer.all (· == f.hasFinalizer) && g.isCreated.all (· == f.isCreated) &&
    g.pendingDeletion.all (· == f.pendingDeletion)

/-- The rows in order. -/
def table : List (Guard × Step) :=
  [(⟨some false, none, some false⟩, .finalizer),
    (⟨none, some false, some false⟩, .create),
    (⟨none, some false, some true⟩, .abandon),
    (⟨none, some true, some false⟩, .update),
    (⟨some true, some true, some true⟩, .delete)]

/-- The step for a workspace of which the facts hold. -/
def select (f : Facts) : Option Step :=
  (table.find? (·.1.admits f)).map (·.2)

def Step.label : Step → String
  | .finalizer => "Finalizer"
  | .create => "Create"
  | .abandon => "Abandon"
  | .update => "Update"
  | .delete => "Delete"

end Tenancy.Lifecycle
