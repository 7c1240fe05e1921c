/-
Runs by schedule. A schedule says which passes are made, one after the other, what others do before each of them
and what they do before each of its calls; the run that follows it can be computed (`run_tour`).
-/
import Tenancy.Proofs.Run.World

namespace Tenancy.Simulation

open Operator

variable {α : Type} {others between : World → World → Prop}

/-- Nobody acts. -/
def Alone (w m : World) : Prop := m = w

theorem Alone.refl (w : World) : Alone w w := rfl

/-- One pass of a schedule. -/
structure Visit where
  /-- The name of the workspace. -/
  name : String
  /-- What others do before the pass. -/
  before : World → World := id
  /-- What others do before a call of the pass. -/
  amid : Call → World → World := fun _ w => w

/-- How a call is answered after others have done what the schedule says. -/
def Visit.handler (visit : Visit) : Handler World := fun c w => handle c (visit.amid c w)

/-- The calls that a program makes, with their answers, under a handler. -/
def recorded {σ : Type} (h : Handler σ) : Program α → σ → Trace
  | .done _, _ => []
  | .ask c next, s => ⟨c, (h c s).1⟩ :: recorded h (next (h c s).1) (h c s).2

/-- Answered as recorded, the program ends as it does under the handler. -/
theorem yields_recorded {σ : Type} (h : Handler σ) (p : Program α) (s : σ) :
    p.Yields (recorded h p s) (p.run h s).1 := by
  induction p generalizing s with
  | done a => exact ⟨rfl, rfl⟩
  | ask c next ih => exact ⟨_, _, rfl, ih (h c s).1 (h c s).2⟩

/-- What happens by schedule may happen. -/
theorem goes_recorded {visit : Visit} (ho : ∀ c w, others w (visit.amid c w)) (p : Program α) (w : World) :
    Goes others p w (recorded visit.handler p w) (p.run visit.handler w).1 (p.run visit.handler w).2 := by
  refine ⟨yields_recorded .., ?_⟩
  induction p generalizing w with
  | done a => exact rfl
  | ask c next ih => exact ⟨visit.amid c w, ho c w, rfl, ih (visit.handler c w).1 (visit.handler c w).2⟩

def Visit.leg (config : Config) (visit : Visit) (w : World) : Leg :=
  let program := (Operator.pass config visit.name).run
  let (result, stop) := program.run visit.handler w
  ⟨config, visit.name, w, recorded visit.handler program w, result, stop⟩

/-- The passes of a schedule, and the world they leave. -/
def tour (config : Config) : List Visit → World → List Leg × World
  | [], w => ([], w)
  | visit :: rest, w =>
    let leg := visit.leg config (visit.before w)
    let (legs, last) := tour config rest leg.stop
    (leg :: legs, last)

theorem run_tour (hrest : ∀ w, between w w) (config : Config) {visits : List Visit}
    (hb : ∀ visit ∈ visits, ∀ w, between w (visit.before w)) (ho : ∀ visit ∈ visits, ∀ c w, others w (visit.amid c w))
    (w : World) : Run others between w (tour config visits w).1 (tour config visits w).2 := by
  induction visits generalizing w with
  | nil => exact .rest (hrest w)
  | cons visit rest ih =>
    have hleg : (visit.leg config (visit.before w)).Happens others :=
      goes_recorded (ho visit (List.mem_cons_self ..)) _ _
    exact .pass (hb visit (List.mem_cons_self ..) w) hleg (ih (fun t ht => hb t (List.mem_cons_of_mem _ ht))
      (fun t ht => ho t (List.mem_cons_of_mem _ ht)) _)

end Tenancy.Simulation
