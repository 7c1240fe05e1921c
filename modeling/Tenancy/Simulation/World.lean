/-
A small world to run the reconciler in: a store of workspaces with versions, their children, the
settings, and the runtimes of the tenants. Time passes only while something waits for it.
-/
import Tenancy.Simulation.Effect
import Tenancy.Simulation.Fault

namespace Tenancy.Simulation

/-- What tells one stored child from another: its kind, its namespace if it has one, and its name. -/
abbrev ChildKey := Object.Kind × Option String × String

def keyOf (child : Object.Child) : ChildKey := (child.kind, child.ns, child.name)

structure World where
  workspaces : Dict String Workspace := []
  children : Dict ChildKey Object.Child := []
  /-- Configuration maps by namespace and name, with a slash between them. -/
  configMaps : Dict String ConfigMap := []
  /-- Ready pods of every runtime that exists. -/
  ready : Int := 0
  /-- What the runtime of each tenant holds. -/
  runtimes : Dict String (List Model.Entry) := []
  /-- Whether all tenants have the same runtime. -/
  sharedRuntime : Bool := false
  /-- Versions given out so far. -/
  versions : Nat := 0
  /-- Writes that another writer will come before. -/
  interference : Nat := 0
  faults : List (Fault Target Strike) := []
  /-- Milliseconds that have passed. -/
  time : Nat := 0
  /-- What a clock shows. -/
  clock : String := ""
  /-- When the pass that is running is cancelled. -/
  cancelAt : Option Nat := none
  /-- Tasks that have been started. -/
  tasks : Nat := 0
  /-- What has happened, the last first. -/
  effects : List Effect := []

namespace World

/-! ## Workspaces -/

def workspace? (w : World) (name : String) : Option Workspace := Dict.get? w.workspaces name

/-- Stores a workspace under its name. -/
def store (w : World) (ws : Workspace) : World :=
  { w with workspaces := Dict.insert w.workspaces (ws.metadata.name.getD "") ws }

def remove (w : World) (name : String) : World :=
  { w with workspaces := Dict.erase w.workspaces name }

def modifyWorkspace (w : World) (name : String) (f : Workspace → Workspace) : World :=
  { w with workspaces := Dict.modify w.workspaces name f }

def setVersion (version : String) (ws : Workspace) : Workspace :=
  { ws with metadata := { ws.metadata with resourceVersion := some version } }

/-- Gives a workspace a new version. -/
def bump (w : World) (name : String) : World :=
  let n := w.versions + 1
  { w with versions := n }.modifyWorkspace name (setVersion (toString (n + 100)))

/-- Lets another writer come first, if one is waiting. -/
def interfere (w : World) (name : String) : World :=
  if w.interference = 0 then w
  else { w with interference := w.interference - 1 }.bump name

/-- Whether a write on a reading of the given version comes too late. -/
def stale (w : World) (name : String) (version : Option String) : Bool :=
  match version with
  | none => false
  | some v => decide ((w.workspace? name).bind (·.metadata.resourceVersion) ≠ some v)

/-! ## Children -/

def child? (w : World) (key : ChildKey) : Option Object.Child := Dict.get? w.children key

def addChild (w : World) (child : Object.Child) : World :=
  { w with children := Dict.put w.children (keyOf child) child }

/-- Whether a child goes when the namespace `name` goes. -/
def goesWith (name : String) (key : ChildKey) : Bool :=
  decide (key.1 = .namespace ∧ key.2.2 = name) || decide (key.2.1 = some name)

def dropNamespace (w : World) (name : String) : World :=
  { w with children := w.children.filter fun e => !goesWith name e.1 }

/-- Drops the children of a kind and name from every namespace. -/
def dropChild (w : World) (kind : Object.Kind) (name : String) : World :=
  { w with children := w.children.filter fun e => !decide (e.1.1 = kind ∧ e.1.2.2 = name) }

/-! ## Runtimes -/

/-- The name under which the runtime of a tenant is kept. -/
def runtimeKey (w : World) (tenant : String) : String := if w.sharedRuntime then "" else tenant

def inventory (w : World) (tenant : String) : List Model.Entry :=
  (Dict.get? w.runtimes (w.runtimeKey tenant)).getD []

def setInventory (w : World) (tenant : String) (entries : List Model.Entry) : World :=
  { w with runtimes := Dict.insert w.runtimes (w.runtimeKey tenant) entries }

def addModel (w : World) (tenant model : String) : World :=
  w.setInventory tenant (w.inventory tenant ++ [.named model])

def forgetModel (w : World) (tenant model : String) : World :=
  w.setInventory tenant ((w.inventory tenant).filter (·.identifier ≠ model))

/-! ## Record, faults and time -/

def record (w : World) (e : Effect) : World := { w with effects := e :: w.effects }

/-- The strike that a call meets, and the world after it. -/
def strike (w : World) (target : Target) (argument : String) : Option Strike × World :=
  let (s, faults) := meet target argument w.faults
  (s, { w with faults })

def wait (w : World) (ms : Nat) : World := { w with time := w.time + ms }

def cancelled (w : World) : Bool := w.cancelAt.any (· ≤ w.time)

/-! ## Changes from outside -/

/-- Asks for the deletion of a workspace. -/
def requestDeletion (w : World) (name : String) (at' : Timestamp) : World :=
  (w.modifyWorkspace name fun ws =>
    { ws with metadata := { ws.metadata with deletionTimestamp := some at' } }).bump name

/-- Gives a workspace another specification, of the next generation. -/
def replaceSpec (w : World) (name : String) (spec : Spec) : World :=
  w.modifyWorkspace name fun ws =>
    { ws with
      spec
      metadata := { ws.metadata with generation := ws.metadata.generation.map (· + 1) } }

end World
end Tenancy.Simulation
