/-
Passes that run at the same time in one world. Of each workspace at most one pass is running; the passes take turns
call by call, and between their calls workspaces are changed from outside and clocks go on. What a call meets
besides what is stored comes with the call: it does not depend on what the other passes do.
-/
import Tenancy.Simulation.Handler

namespace Tenancy.Simulation

open Operator

/-! ## Calls -/

/-- What a call meets besides what is stored: its faults, other writers, whether the runtime is ready, and how time
goes for it. -/
structure Circumstances where
  faults : List (Fault Target Strike) := []
  interference : Nat := 0
  ready : Int := 0
  time : Nat := 0
  cancelAt : Option Nat := none
  tasks : Nat := 0

/-- The circumstances that a world is in. -/
def World.circumstances (w : World) : Circumstances :=
  ⟨w.faults, w.interference, w.ready, w.time, w.cancelAt, w.tasks⟩

/-- The same world under other circumstances. -/
def World.under (w : World) (c : Circumstances) : World :=
  { w with
    faults := c.faults, interference := c.interference, ready := c.ready, time := c.time
    cancelAt := c.cancelAt, tasks := c.tasks }

/-! ## Changes from outside -/

/-- What others do to a workspace. -/
inductive Edit where
  /-- Puts a workspace in place of what is stored, if anything is. -/
  | create (ws : Workspace)
  | specify (spec : Spec)
  /-- Asks for the deletion. -/
  | delete (at' : Timestamp)
  | guard (finalizers : List String)
  | report (status : Status)
  | remove

/-- The world after others have changed the workspace `name`. What they store gets a new version. -/
def Edit.apply (name : String) (w : World) : Edit → World
  | .create ws => (w.store ws).bump name
  | .specify spec => (w.replaceSpec name spec).bump name
  | .delete at' => w.requestDeletion name at'
  | .guard finalizers =>
    (w.modifyWorkspace name fun ws =>
      { ws with metadata := { ws.metadata with finalizers := some finalizers } }).bump name
  | .report status => (w.modifyWorkspace name fun ws => { ws with status := some status }).bump name
  | .remove => w.remove name

/-! ## Systems -/

inductive Move where
  /-- Starts a pass, unless one is running. -/
  | start (config : Config)
  /-- Lets the running pass make its next call. -/
  | call (c : Circumstances)
  /-- Drops the running pass. -/
  | stop
  | edit (e : Edit)
  /-- Lets clocks show another time. -/
  | clock (now : String)

/-- A move on behalf of the workspace `name`. -/
structure Act where
  name : String
  move : Move

structure System where
  world : World
  /-- What the running pass of each workspace has still to do. -/
  running : String → Option (Program (Except Error Requeue)) := fun _ => none
  /-- How the passes ended, by workspace, the last first. -/
  results : List (String × Except Error Requeue) := []

namespace System

/-- What is running after the pass of `name` has been replaced. -/
def replace (S : System) (name : String) (p : Option (Program (Except Error Requeue))) : System :=
  { S with running := fun k => if k = name then p else S.running k }

/-- The pass of `name` goes on as `p`, or has come to its end. -/
def proceed (S : System) (name : String) : Program (Except Error Requeue) → System
  | .done r => { S.replace name none with results := (name, r) :: S.results }
  | p => S.replace name (some p)

def step (S : System) (a : Act) : System :=
  match a.move, S.running a.name with
  | .start config, none => S.proceed a.name (Operator.pass config a.name).run
  | .call c, some (.ask call next) =>
    let (x, w) := handle call (S.world.under c)
    { S with world := w }.proceed a.name (next x)
  | .stop, _ => S.replace a.name none
  | .edit e, _ => { S with world := e.apply a.name S.world }
  | .clock now, _ => { S with world := { S.world with clock := now } }
  | _, _ => S

/-- The system after a schedule. -/
def run (S : System) (acts : List Act) : System := acts.foldl step S

end System

end Tenancy.Simulation
