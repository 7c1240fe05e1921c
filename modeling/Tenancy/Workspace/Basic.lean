/-
Workspaces. A workspace asks for a tenant: a namespace of its own with a model runtime, a chat
front-end and the models it declares. The reconciler keeps its progress in the status.
-/
import Tenancy.Object.Meta

namespace Tenancy

/-- What a tenant asks for. -/
structure Spec where
  /-- The tenant's name: the namespace, and what the names of all its children start with. -/
  workspaceName : String
  workspaceEnv : String := "dev"
  /-- The models of the tenant, in the order in which they are fetched. -/
  models : List String := []
  promptPatterns : List String := []
  deriving DecidableEq, Repr

/-- Whether a condition holds. -/
inductive Truth where
  | yes
  | no
  | unknown
  deriving DecidableEq, Repr

structure Condition where
  type : String
  status : Truth
  reason : String
  message : String := ""
  observedGeneration : Option Int := none
  lastTransitionTime : Option String := none
  deriving DecidableEq, Repr

structure Status where
  /-- Set once every child is there, and never taken back. -/
  isCreated : Bool := false
  conditions : List Condition := []
  deriving DecidableEq, Repr

structure Workspace where
  metadata : Object.Meta
  spec : Spec
  status : Option Status := none
  deriving Repr

namespace Workspace

/-! ## Identity -/

def group : String := "apps.aichatworkspaces.io"

def version : String := "v1alpha1"

def apiVersion : String := group ++ "/" ++ version

def kind : String := "AIChatWorkspace"

def plural : String := "aichatworkspaces"

/-- The guard that holds up the deletion of a workspace until its namespace is gone. -/
def finalizer : String := "core.aichatworkspace.io/finalizer"

/-! ## What a workspace says -/

def name (ws : Workspace) : String := ws.metadata.displayName

def workspaceName (ws : Workspace) : String := ws.spec.workspaceName

def finalizers (ws : Workspace) : List String := ws.metadata.finalizers.getD []

def hasFinalizer (ws : Workspace) : Bool := ws.finalizers.contains finalizer

def isCreated (ws : Workspace) : Bool := ws.status.any (·.isCreated)

def pendingDeletion (ws : Workspace) : Bool := ws.metadata.deletionTimestamp.isSome

/-- The first condition of a type. -/
def condition? (ws : Workspace) (type : String) : Option Condition :=
  ws.status.bind fun s => s.conditions.find? (·.type = type)

/-- The reference by which children name the workspace as their owner; there is none without name
and uid. -/
def ownerReference? (ws : Workspace) : Option Object.OwnerReference := do
  let name ← ws.metadata.name
  let uid ← ws.metadata.uid
  some { apiVersion, kind, name, uid, controller := some true }

/-- There is a reference exactly if there are name and uid, and these are what it names. -/
theorem ownerReference?_eq_some_iff {ws : Workspace} {owner : Object.OwnerReference} :
    ws.ownerReference? = some owner ↔ ∃ name uid, ws.metadata.name = some name ∧
      ws.metadata.uid = some uid ∧
      owner = { apiVersion, kind, name, uid, controller := some true } := by
  constructor
  · intro h
    obtain ⟨name, hname, h⟩ := Option.bind_eq_some_iff.1 h
    obtain ⟨uid, huid, h⟩ := Option.bind_eq_some_iff.1 h
    exact ⟨name, uid, hname, huid, (Option.some.inj h).symm⟩
  · rintro ⟨name, uid, hname, huid, rfl⟩
    rw [ownerReference?, hname, huid]
    rfl

def reference (ws : Workspace) : Object.ObjectReference :=
  { apiVersion := some apiVersion, kind := some kind, name := ws.metadata.name,
    ns := ws.metadata.ns, uid := ws.metadata.uid }

end Workspace
end Tenancy
