/-
Runs in a world that is not the reconciler's alone. Before each call of a pass others may act, as a
relation on worlds allows; the call is then answered by the simulated cluster and runtimes. A `Leg` is one
pass as it went, and a `Run` is a sequence of legs with the doings of others between them. With the
relation that lets nothing happen a leg is just what the simulation computes (`goes_transcript`).
-/
import Tenancy.Proofs.Run.Pass
import Tenancy.Simulation.Handler

namespace Tenancy.Simulation

open Operator

variable {α β : Type} {others between : World → World → Prop}

/-! ## Traces in a world -/

/-- From `w` the calls of the trace get the answers of the trace and leave `w'`, where before each call
others act as allowed. -/
def Plays (others : World → World → Prop) : World → Trace → World → Prop
  | w, [], w' => w' = w
  | w, x :: t, w' => ∃ m, others w m ∧ (handle x.call m).1 = x.answer ∧ Plays others (handle x.call m).2 t w'

theorem plays_nil (w w' : World) : Plays others w [] w' ↔ w' = w := Iff.rfl

theorem plays_cons (w w' : World) (x : Answered) (t : Trace) :
    Plays others w (x :: t) w' ↔
      ∃ m, others w m ∧ (handle x.call m).1 = x.answer ∧ Plays others (handle x.call m).2 t w' := Iff.rfl

theorem plays_append (w w' : World) (t₁ t₂ : Trace) :
    Plays others w (t₁ ++ t₂) w' ↔ ∃ m, Plays others w t₁ m ∧ Plays others m t₂ w' := by
  induction t₁ generalizing w with
  | nil => simp [plays_nil]
  | cons x t ih =>
    simp only [List.cons_append, plays_cons, ih]
    constructor
    · rintro ⟨m, ho, hx, n, h₁, h₂⟩; exact ⟨n, ⟨m, ho, hx, h₁⟩, h₂⟩
    · rintro ⟨n, ⟨m, ho, hx, h₁⟩, h₂⟩; exact ⟨m, ho, hx, n, h₁, h₂⟩

/-- What others keep, and every call at the moment at which it is made, the trace keeps. -/
theorem Plays.steps {P : World → Prop} (hothers : ∀ w m, others w m → P w → P m) {t : Trace} {w w' : World}
    (h : Plays others w t w')
    (hcall : ∀ t₁ x t₂ n m, t = t₁ ++ x :: t₂ → Plays others w t₁ n → others n m →
      (handle x.call m).1 = x.answer → P m → P (handle x.call m).2) (hw : P w) : P w' := by
  -- from the back: what came before the last call is then at hand as a trace of its own
  induction t using List.reverseRecOn generalizing w' with
  | nil =>
    cases (plays_nil ..).1 h
    exact hw
  | append_singleton t x ih =>
    obtain ⟨n, hn, m, ho, hx, rfl⟩ := (plays_append ..).1 h
    refine hcall t x [] n m rfl hn ho hx (hothers n m ho (ih hn fun t₁ y t₂ a b ht => ?_))
    exact hcall t₁ y (t₂ ++ [x]) a b (by rw [ht]; simp)

/-- What others keep and every call of the trace keeps, the trace keeps. -/
theorem Plays.keeps {P : World → Prop} (hothers : ∀ w m, others w m → P w → P m) {t : Trace}
    (hcall : ∀ x ∈ t, ∀ m, (handle x.call m).1 = x.answer → P m → P (handle x.call m).2) {w w' : World}
    (h : Plays others w t w') (hw : P w) : P w' := by
  refine h.steps hothers (fun t₁ x t₂ n m ht _ _ hx hm => hcall x ?_ m hx hm) hw
  rw [ht]
  exact List.mem_append_right _ (List.mem_cons_self ..)

theorem Plays.mono {others' : World → World → Prop} (hle : ∀ w m, others w m → others' w m) {t : Trace}
    {w w' : World} (h : Plays others w t w') : Plays others' w t w' := by
  induction t generalizing w with
  | nil => exact h
  | cons x t ih =>
    obtain ⟨m, ho, hx, h⟩ := h
    exact ⟨m, hle w m ho, hx, ih h⟩

/-- The moment at which an answered call of the trace took place. -/
theorem Plays.moment {t : Trace} {w w' : World} (h : Plays others w t w') {x : Answered} (hx : x ∈ t) :
    ∃ t₁ t₂ n m, t = t₁ ++ x :: t₂ ∧ Plays others w t₁ n ∧ others n m ∧ (handle x.call m).1 = x.answer ∧
      Plays others (handle x.call m).2 t₂ w' := by
  obtain ⟨t₁, t₂, rfl⟩ := List.append_of_mem hx
  obtain ⟨n, h₁, m, ho, hm, h₂⟩ := (plays_append ..).1 h
  exact ⟨t₁, t₂, n, m, rfl, h₁, ho, hm, h₂⟩

/-! ## Programs in a world -/

/-- Run in `w`, the program may make the trace `t`, end with `a`, and leave `w'`. -/
structure Goes (others : World → World → Prop) (p : Program α) (w : World) (t : Trace) (a : α)
    (w' : World) : Prop where
  yields : p.Yields t a
  plays : Plays others w t w'

/-- The calls that a program makes in a simulated world, with their answers. -/
def transcript : Program α → World → Trace
  | .done _, _ => []
  | .ask c next, w => ⟨c, (handle c w).1⟩ :: transcript (next (handle c w).1) (handle c w).2

/-- If others may do nothing, what the simulation computes is one way in which a program may go. -/
theorem goes_transcript (hothers : ∀ w, others w w) (p : Program α) (w : World) :
    Goes others p w (transcript p w) (p.run handle w).1 (p.run handle w).2 := by
  induction p generalizing w with
  | done a => exact ⟨⟨rfl, rfl⟩, rfl⟩
  | ask c next ih =>
    obtain ⟨hy, hp⟩ := ih (handle c w).1 (handle c w).2
    exact ⟨⟨_, _, rfl, hy⟩, w, hothers w, rfl, hp⟩

/-! ## Passes -/

/-- One pass over a workspace as it went. -/
structure Leg where
  config : Config
  /-- The name of the workspace. -/
  name : String
  start : World
  trace : Trace
  result : Except Error Requeue
  stop : World

/-- The pass may go so while others act as allowed. -/
def Leg.Happens (others : World → World → Prop) (p : Leg) : Prop :=
  Goes others (Operator.pass p.config p.name).run p.start p.trace p.result p.stop

theorem Leg.Happens.trace {p : Leg} (h : p.Happens others) : PassTrace p.config p.name p.trace p.result :=
  pass_yields h.yields

/-- A sequence of passes from one world to another. During a pass others act as `others` allows, before
and after it as `between` allows. -/
inductive Run (others between : World → World → Prop) : World → List Leg → World → Prop
  | rest {w w' : World} : between w w' → Run others between w [] w'
  | pass {w w' : World} {p : Leg} {ps : List Leg} : between w p.start → p.Happens others →
      Run others between p.stop ps w' → Run others between w (p :: ps) w'

theorem Run.happens {ps : List Leg} {w w' : World} (h : Run others between w ps w') {p : Leg} (hp : p ∈ ps) :
    p.Happens others := by
  induction h with
  | rest => cases hp
  | pass _ hq _ ih =>
    rcases List.mem_cons.1 hp with rfl | hp
    · exact hq
    · exact ih hp

/-- What others keep and every pass keeps, a run keeps. -/
theorem Run.keeps {P : World → Prop} (hbetween : ∀ w m, between w m → P w → P m) {ps : List Leg}
    (hpass : ∀ p ∈ ps, p.Happens others → P p.start → P p.stop) {w w' : World}
    (h : Run others between w ps w') (hw : P w) : P w' := by
  induction h with
  | rest hb => exact hbetween _ _ hb hw
  | @pass w w' p ps hb hp _ ih =>
    exact ih (fun q hq => hpass q (List.mem_cons_of_mem _ hq))
      (hpass p (List.mem_cons_self ..) hp (hbetween _ _ hb hw))

/-- What others keep and every pass keeps holds at the start of every pass. -/
theorem Run.starts {P : World → Prop} (hbetween : ∀ w m, between w m → P w → P m) {ps : List Leg}
    (hpass : ∀ p ∈ ps, p.Happens others → P p.start → P p.stop) {w w' : World}
    (h : Run others between w ps w') (hw : P w) {p : Leg} (hp : p ∈ ps) : P p.start := by
  induction h with
  | rest => cases hp
  | @pass w w' q qs hb hq _ ih =>
    have hstart := hbetween _ _ hb hw
    rcases List.mem_cons.1 hp with rfl | hp
    · exact hstart
    · exact ih (fun r hr => hpass r (List.mem_cons_of_mem _ hr)) (hpass q (List.mem_cons_self ..) hq hstart) hp

/-- A run can be stopped before and after any of its passes. -/
theorem Run.upto (hbetween : ∀ w, between w w) {ps : List Leg} {w w' : World} (h : Run others between w ps w')
    {p : Leg} (hp : p ∈ ps) : p.Happens others ∧ ∃ ps₁ ps₂, ps = ps₁ ++ p :: ps₂ ∧
      Run others between w ps₁ p.start ∧ Run others between w (ps₁ ++ [p]) p.stop := by
  induction h with
  | rest => cases hp
  | @pass w w' q qs hb hq _ ih =>
    rcases List.mem_cons.1 hp with rfl | hp
    · exact ⟨hq, [], qs, rfl, .rest hb, .pass hb hq (.rest (hbetween _))⟩
    · obtain ⟨hr, ps₁, ps₂, rfl, hstart, hstop⟩ := ih hp
      exact ⟨hr, q :: ps₁, ps₂, rfl, .pass hb hq hstart, .pass hb hq hstop⟩

/-- Passes that the simulation makes one after the other, and the world they leave. -/
def passes (config : Config) (name : String) : Nat → World → List Leg × World
  | 0, w => ([], w)
  | n + 1, w =>
    let (result, stop) := pass config name w
    let (ps, last) := passes config name n stop
    (⟨config, name, w, transcript (Operator.pass config name).run w, result, stop⟩ :: ps, last)

theorem run_passes (hothers : ∀ w, others w w) (hbetween : ∀ w, between w w) (config : Config) (name : String)
    (n : Nat) (w : World) : Run others between w (passes config name n w).1 (passes config name n w).2 := by
  induction n generalizing w with
  | zero => exact .rest (hbetween w)
  | succ n ih => exact .pass (hbetween w) (goes_transcript hothers _ w) (ih (pass config name w).2)

theorem passes_mem {config : Config} {name : String} {n : Nat} {w : World} {p : Leg}
    (h : p ∈ (passes config name n w).1) : p.config = config ∧ p.name = name := by
  induction n generalizing w with
  | zero => cases h
  | succ n ih =>
    rcases List.mem_cons.1 h with rfl | h
    · exact ⟨rfl, rfl⟩
    · exact ih h

/-- Everything that was called in a run. -/
def calls (ps : List Leg) : Trace := ps.flatMap (·.trace)

theorem calls_cons (p : Leg) (ps : List Leg) : calls (p :: ps) = p.trace ++ calls ps := rfl

/-! ## A small world -/

/-- A workspace that has just been made. -/
def newcomer : Workspace :=
  { metadata := { name := some "team", uid := some "u1" }
    spec := { workspaceName := "team-a", models := ["tiny"], promptPatterns := ["ai"] } }

/-- A workspace that was made and is to be deleted. -/
def leaver : Workspace :=
  { metadata := { newcomer.metadata with
      resourceVersion := some "1", finalizers := some [Workspace.finalizer], deletionTimestamp := some ⟨0, 0, false⟩ }
    spec := newcomer.spec
    status := some { isCreated := true } }

/-- A world with one workspace and the settings, in which runtimes are ready as soon as they exist. -/
def outpost (ws : Workspace) : World :=
  { workspaces := [("team", ws)]
    configMaps := [("aichat-workspace-operator-system/aichat-workspace-operator-config",
      { data := some [("defaultDomain", "example.com"), ("ollamaImageTag", "1"), ("openwebUIImageTag", "1")] })]
    ready := 1 }

end Tenancy.Simulation
