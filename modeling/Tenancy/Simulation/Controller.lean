/-
The operator at work on a simulated cluster. Each workspace is on an agenda with the time at which it
is to be looked at next: a pass sets that time, and a change that is noticed sets it to now. Of two
times for a workspace the earlier counts. Whoever waits for the operator waits for a number of
writes, and neither without end nor much longer than for those.
-/
import Tenancy.Operator.Reconcile
import Tenancy.Operator.Remote.Handler
import Tenancy.Simulation.Server

namespace Tenancy.Simulation

open Operator

/-- What is noticed of the changes in a cluster. -/
structure Watches where
  workspaces : Bool := true
  children : Bool := true
  deriving DecidableEq, Repr

structure Controller (ρ : Type) where
  remote : Remote Server ρ
  watches : Watches := {}
  /-- Nanoseconds since the start. -/
  time : Nat := 0
  /-- When each workspace is to be looked at. -/
  agenda : Dict String Nat := []

namespace Controller

variable {ρ : Type}

/-- A controller that has all workspaces of its cluster still to look at. -/
def start (remote : Remote Server ρ) (watches : Watches) (names : List String) : Controller ρ :=
  { remote, watches, agenda := names.map (·, 0) }

/-! ## The agenda -/

def schedule (c : Controller ρ) (name : String) (time : Nat) : Controller ρ :=
  match Dict.get? c.agenda name with
  | some earlier => if earlier ≤ time then c else { c with agenda := Dict.put c.agenda name time }
  | none => { c with agenda := Dict.put c.agenda name time }

/-- The workspace that is to be looked at next; of two that are due together, the one that has been
on the agenda for longer. -/
def next? (c : Controller ρ) : Option (String × Nat) :=
  c.agenda.foldl (fun best e =>
    match best with
    | some b => if e.2 < b.2 then some e else some b
    | none => some e) none

/-! ## Changes -/

/-- The workspace to look at on a change of an object. -/
def wakes? (config : Config) (watches : Watches) (path : String) (object : Json) :
    Option String := do
  if Server.pluralOf path = Workspace.plural then
    if watches.workspaces then some (Server.nameOf path) else none
  else if watches.children then
    let kind ← Object.Kind.ofLabel? (← (object.get "kind").str?)
    let metadata ← Object.Meta.decode (Written.ofJson (object.get "metadata"))
    if (Watch.kinds config).contains kind && Watch.selects metadata then
      Watch.workspace? metadata
    else none
  else none

/-- Takes note of the changes in the cluster. -/
def notice (config : Config) (c : Controller ρ) : Controller ρ :=
  let changes := c.remote.cluster.changes.reverse
  let c := { c with
    remote := { c.remote with cluster := { c.remote.cluster with changes := [] } } }
  changes.foldl (fun c (path, object) =>
    match wakes? config c.watches path object with
    | some name => c.schedule name c.time
    | none => c) c

/-- Changes an object from outside. -/
def disturb (config : Config) (path : String) (patch : Json) (c : Controller ρ) : Controller ρ :=
  match c.remote.cluster.change path patch with
  | none => c
  | some cluster => { c with remote := { c.remote with cluster } }.notice config

/-! ## Passes -/

def workspacePath (name : String) : String := Remote.workspaces.objectPath name

/-- Looks at a workspace, unless it is gone, and sets the time of the next look. -/
def look (config : Config) (runtimes : Http.Transport ρ) (name : String) (c : Controller ρ) :
    Controller ρ :=
  match c.remote.cluster.object? (workspacePath name) with
  | none => c
  | some _ =>
    let (result, remote) :=
      Program.run (Remote.handle config Server.transport runtimes) (pass config name).run c.remote
    let delay := match result with
      | .ok requeue => requeue.after config
      | .error _ => some (errorDelay config)
    let c := { c with remote }
    (delay.elim c fun d => c.schedule name (c.time + d.nanos)).notice config

/-- The requests that have changed something or were meant to, the last first. -/
def writes (c : Controller ρ) : List Http.Request :=
  c.remote.cluster.requests.filter (·.method ≠ .get)

/-- How long a number of writes is waited for. -/
def patience : Duration := .ofSeconds 30

/-- Passes that write nothing before no more writes are expected of passes in a row. -/
def idleLimit : Nat := 20

/-- Does what is due, until `deadline` as long as there are fewer than `target` writes. -/
def work (config : Config) (runtimes : Http.Transport ρ) (target deadline : Nat) :
    Nat → Nat → Controller ρ → Controller ρ
  | 0, _, c => c
  | _, 0, c => c
  | fuel + 1, idle + 1, c =>
    match c.next? with
    | none => c
    | some (name, time) =>
      if time ≤ c.time ∨ (time < deadline ∧ c.writes.length < target) then
        let later := { c with time := max c.time time, agenda := Dict.erase c.agenda name }
        let after := later.look config runtimes name
        work config runtimes target deadline fuel
          (if c.writes.length < after.writes.length then idleLimit else idle) after
      else c

/-- Looks at a workspace a number of times, whatever the agenda says; the results of all looks. -/
def lookOften (config : Config) (runtimes : Http.Transport ρ) (name : String) :
    Nat → Remote Server ρ → List (Except Error (Option Duration)) × Remote Server ρ
  | 0, s => ([], s)
  | n + 1, s =>
    let (result, s) :=
      Program.run (Remote.handle config Server.transport runtimes)
        ((pass config name).run) s
    let (results, s) := lookOften config runtimes name n s
    (result.map (·.after config) :: results, s)

/-- Lets the operator work until there are `target` writes, or no more are to be expected. -/
def await (config : Config) (runtimes : Http.Transport ρ) (target : Nat) (c : Controller ρ) :
    Controller ρ :=
  work config runtimes target (c.time + patience.nanos) (1000 + 10 * target) idleLimit c

end Controller
end Tenancy.Simulation
