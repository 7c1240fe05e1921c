/-
What a system does when it is told to (`System.steps`), and that passes which run by themselves are the passes of the
simulation (`System.run_pass`).
-/
import Tenancy.Simulation.Interleaving

namespace Tenancy.Simulation

open Operator

variable {name : String} {S : System} {p : Program (Except Error Requeue)}

namespace System

/-! ## Steps -/

/-- What a move for the workspace `name` can do. -/
inductive Steps (S : System) (name : String) : Move → System → Prop
  | idle (move : Move) : Steps S name move S
  | start {config : Config} : S.running name = none →
      Steps S name (.start config) (S.proceed name (Operator.pass config name).run)
  | call {c : Circumstances} {call : Call} {next : call.Answer → Program (Except Error Requeue)} :
      S.running name = some (.ask call next) → Steps S name (.call c)
        ({ S with world := (handle call (S.world.under c)).2 }.proceed name (next (handle call (S.world.under c)).1))
  | stop : Steps S name .stop (S.replace name none)
  | edit {e : Edit} : Steps S name (.edit e) { S with world := e.apply name S.world }
  | clock {now : String} : Steps S name (.clock now) { S with world := { S.world with clock := now } }

theorem step_start {config : Config} (h : S.running name = none) :
    S.step ⟨name, .start config⟩ = S.proceed name (Operator.pass config name).run := by
  unfold step
  simp only [h]

theorem step_start_running {config : Config} (h : S.running name = some p) : S.step ⟨name, .start config⟩ = S := by
  unfold step
  simp only [h]

theorem step_call {c : Circumstances} {call : Call} {next : call.Answer → Program (Except Error Requeue)}
    (h : S.running name = some (.ask call next)) : S.step ⟨name, .call c⟩ =
      { S with world := (handle call (S.world.under c)).2 }.proceed name (next (handle call (S.world.under c)).1) := by
  unfold step
  simp only [h]

theorem step_call_none {c : Circumstances} (h : S.running name = none) : S.step ⟨name, .call c⟩ = S := by
  unfold step
  simp only [h]

theorem step_call_done {c : Circumstances} {r : Except Error Requeue} (h : S.running name = some (.done r)) :
    S.step ⟨name, .call c⟩ = S := by
  unfold step
  simp only [h]

theorem steps (S : System) (name : String) (move : Move) : Steps S name move (S.step ⟨name, move⟩) := by
  cases move with
  | start config =>
    cases hrun : S.running name with
    | none => rw [step_start hrun]; exact .start hrun
    | some p => rw [step_start_running hrun]; exact .idle _
  | call c =>
    rcases hrun : S.running name with _ | r | ⟨call, next⟩
    · rw [step_call_none hrun]; exact .idle _
    · rw [step_call_done hrun]; exact .idle _
    · rw [step_call hrun]; exact .call hrun
  | stop => exact .stop
  | edit e => exact .edit
  | clock now => exact .clock

theorem replace_running (S : System) (name : String) (q : Option (Program (Except Error Requeue))) :
    (S.replace name q).running name = q :=
  if_pos rfl

theorem proceed_world (S : System) (name : String) (p : Program (Except Error Requeue)) :
    (S.proceed name p).world = S.world := by
  cases p <;> rfl

theorem proceed_running (S : System) (name : String) (p : Program (Except Error Requeue)) {k : String} (h : k ≠ name) :
    (S.proceed name p).running k = S.running k := by
  cases p <;> exact if_neg h

/-- What is running was running before, or is what the pass goes on with. -/
theorem proceed_running_cases {k : String} {q : Program (Except Error Requeue)} (h : (S.proceed name p).running k = some q) :
    S.running k = some q ∨ k = name ∧ q = p := by
  by_cases hk : k = name
  · subst hk
    cases p with
    | done r => cases (if_pos rfl).symm.trans h
    | ask c next => exact .inr ⟨rfl, (Option.some.inj ((if_pos rfl).symm.trans h)).symm⟩
  · rw [proceed_running _ _ _ hk] at h
    exact .inl h

/-- How the passes of the workspace ended, the last first. -/
def ended (S : System) (name : String) : List (Except Error Requeue) :=
  (S.results.filter fun r => decide (r.1 = name)).map (·.2)

theorem proceed_ended (S : System) {k : String} (p : Program (Except Error Requeue)) (h : k ≠ name) :
    (S.proceed k p).ended name = S.ended name := by
  cases p with
  | done r => exact congrArg (List.map _) (List.filter_cons_of_neg (by simpa using h))
  | ask c next => rfl

theorem done_ended (S : System) (name : String) (r : Except Error Requeue) :
    (S.proceed name (.done r)).ended name = r :: S.ended name :=
  congrArg (List.map _) (List.filter_cons_of_pos (by simp))

theorem replace_proceed (S : System) (name : String) (q : Option (Program (Except Error Requeue)))
    (p : Program (Except Error Requeue)) : (S.replace name q).proceed name p = S.proceed name p := by
  have again : ∀ q', (S.replace name q).replace name q' = S.replace name q' := by
    intro q'
    unfold replace
    simp only [mk.injEq, and_true, true_and]
    funext k
    split <;> rfl
  cases p with
  | done r => unfold proceed; dsimp only; rw [again]; rfl
  | ask c next => exact again _

/-- A pass that runs by itself, each call under the circumstances that the one before has left, is a pass. -/
theorem run_pass (config : Config) (name : String) (w : World) (results : List (String × Except Error Requeue)) :
    ∃ calls : List Circumstances,
      System.run { world := w, results } (⟨name, .start config⟩ :: calls.map fun c => ⟨name, .call c⟩) =
        { world := (pass config name w).2, results := (name, (pass config name w).1) :: results } := by
  have goes : ∀ (p : Program (Except Error Requeue)) (w : World), ∃ calls : List Circumstances,
      (System.proceed { world := w, results } name p).run (calls.map fun c => ⟨name, .call c⟩) =
        { world := (Program.run handle p w).2, results := (name, (Program.run handle p w).1) :: results } := by
    intro p
    induction p with
    | done r =>
      refine fun w => ⟨[], ?_⟩
      show { System.replace { world := w, results } name none with results := (name, r) :: results } = _
      unfold replace
      simp only [ite_self]
      rfl
    | ask c next ih =>
      intro w
      obtain ⟨calls, hcalls⟩ := ih (handle c w).1 (handle c w).2
      refine ⟨w.circumstances :: calls, ?_⟩
      have hstep : (System.proceed { world := w, results } name (.ask c next)).step ⟨name, .call w.circumstances⟩ =
          System.proceed { world := (handle c w).2, results } name (next (handle c w).1) :=
        (step_call (replace_running ..)).trans
          (replace_proceed { world := (handle c w).2, results } name (some (.ask c next)) _)
      rw [List.map_cons, run, List.foldl_cons, hstep]
      exact hcalls
  obtain ⟨calls, hcalls⟩ := goes (Operator.pass config name).run w
  refine ⟨calls, ?_⟩
  rw [run, List.foldl_cons, step_start rfl]
  exact hcalls

end System

end Tenancy.Simulation
