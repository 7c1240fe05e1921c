/-
Faults that a simulation is told to commit. A fault names the sort of call that it strikes, and
perhaps the argument; it lets some calls pass before it strikes, and strikes a limited number of
times. On each call the faults are looked through in order, and the first that is due strikes.
-/
import Tenancy.Operator.Call

namespace Tenancy.Simulation

/-- A fault for calls of the sorts `τ` that does to them what `ρ` says. -/
structure Fault (τ ρ : Type) where
  target : τ
  /-- The argument that a call must have to be struck. -/
  argument : Option String := none
  /-- Calls still to be let pass. -/
  skip : Nat := 0
  /-- Strikes left. -/
  times : Nat := 1
  strike : ρ
  deriving DecidableEq, Repr

section

variable {τ ρ : Type} [DecidableEq τ]

/-- Whether a fault waits for a call. -/
def Fault.awaits (f : Fault τ ρ) (target : τ) (argument : String) : Bool :=
  decide (f.target = target) && f.argument.all (· == argument) && decide (0 < f.times)

/-- The strike that a call meets, and the faults after it. -/
def meet (target : τ) (argument : String) : List (Fault τ ρ) → Option ρ × List (Fault τ ρ)
  | [] => (none, [])
  | f :: rest =>
    if f.awaits target argument then
      if f.skip = 0 then (some f.strike, { f with times := f.times - 1 } :: rest)
      else
        let (strike, rest) := meet target argument rest
        (strike, { f with skip := f.skip - 1 } :: rest)
    else
      let (strike, rest) := meet target argument rest
      (strike, f :: rest)

end

/-! ## Faults of a world -/

/-- The sorts of calls that a fault of a world can strike. -/
inductive Target where
  | workspace
  | setFinalizers
  | patchStatus
  | childExists
  | createChild
  | deleteNamespace
  | readyReplicas
  | configMap
  | listModels
  | listRunning
  | pull
  | createModel
  deriving DecidableEq, Repr

/-- What a fault of a world does to the call it strikes. -/
inductive Strike where
  /-- A call to the cluster fails. -/
  | fail (e : Operator.Error)
  /-- A call to a runtime fails. -/
  | failRuntime (e : Model.Error)
  /-- A pull never ends by itself. -/
  | hang
  /-- The task of a pull comes down. -/
  | collapse
  /-- A runtime says that it has done its work and has not. -/
  | pretend
  /-- A runtime takes its time, in milliseconds. -/
  | delay (ms : Nat)
  deriving DecidableEq, Repr

end Tenancy.Simulation
