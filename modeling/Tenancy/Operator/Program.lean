/-
Programs of calls. A program either is done or makes one call and goes on with its answer, so every
program ends; what the calls do is left to a handler, which carries a state from call to call.
-/
import Tenancy.Operator.Call

namespace Tenancy.Operator

inductive Program (α : Type) where
  | done (a : α)
  | ask (c : Call) (next : c.Answer → Program α)

/-- How calls are answered over a state. -/
abbrev Handler (σ : Type) := (c : Call) → σ → c.Answer × σ

namespace Program

variable {α β γ σ : Type}

def bind : Program α → (α → Program β) → Program β
  | .done a, f => f a
  | .ask c next, f => .ask c fun x => bind (next x) f

instance : Monad Program where
  pure := .done
  bind := bind

/-- Makes one call. -/
def call (c : Call) : Program c.Answer := .ask c .done

/-- Runs a program under a handler. -/
def run (h : Handler σ) : Program α → σ → α × σ
  | .done a, s => (a, s)
  | .ask c next, s => run h (next (h c s).1) (h c s).2

/-! ## Laws -/

@[simp] theorem pure_eq (a : α) : (pure a : Program α) = .done a := rfl

@[simp] theorem bind_eq (p : Program α) (f : α → Program β) : p >>= f = p.bind f := rfl

@[simp] theorem done_bind (a : α) (f : α → Program β) : (Program.done a).bind f = f a := rfl

@[simp] theorem ask_bind (c : Call) (next : c.Answer → Program α) (f : α → Program β) :
    (Program.ask c next).bind f = .ask c fun x => (next x).bind f := rfl

theorem bind_done (p : Program α) : p.bind .done = p := by
  induction p with
  | done a => rfl
  | ask c next ih => simp only [ask_bind]; exact congrArg _ (funext ih)

theorem bind_assoc (p : Program α) (f : α → Program β) (g : β → Program γ) :
    (p.bind f).bind g = p.bind fun a => (f a).bind g := by
  induction p with
  | done a => rfl
  | ask c next ih => simp only [ask_bind]; exact congrArg _ (funext ih)

instance : LawfulMonad Program :=
  .mk' _ (fun p => bind_done p) (fun _ _ => rfl) (fun p f g => bind_assoc p f g)

@[simp] theorem run_done (h : Handler σ) (a : α) (s : σ) : run h (.done a) s = (a, s) := rfl

@[simp] theorem run_ask (h : Handler σ) (c : Call) (next : c.Answer → Program α) (s : σ) :
    run h (.ask c next) s = run h (next (h c s).1) (h c s).2 := rfl

/-- Running a sequence runs its parts one after the other. -/
theorem run_bind (h : Handler σ) (p : Program α) (f : α → Program β) (s : σ) :
    run h (p.bind f) s = run h (f (run h p s).1) (run h p s).2 := by
  induction p generalizing s with
  | done a => rfl
  | ask c next ih => simp only [ask_bind, run_ask, ih]

end Program

/-! ## Operations -/

/-- A program that may fail. -/
abbrev Operation (α : Type) := ExceptT Error Program α

namespace Operation

variable {α : Type}

/-- A call whose failure fails the operation. -/
def attempt (p : Program (Except Error α)) : Operation α := ExceptT.mk p

/-- A call to a model runtime, whose failure fails the operation. -/
def attemptRuntime (p : Program (Except Model.Error α)) : Operation α :=
  ExceptT.mk do return (← p).mapError .modelRuntime

/-- A call that cannot fail. -/
def always (p : Program α) : Operation α := ExceptT.lift p

def workspace (name : String) : Operation (Option Workspace) := attempt (.call (.workspace name))

def setFinalizers (name : String) (version : Option String) (finalizers : List String) :
    Operation Unit :=
  attempt (.call (.setFinalizers name version finalizers))

def patchStatus (name : String) (version : Option String) (status : Status) : Operation Unit :=
  attempt (.call (.patchStatus name version status))

def childExists (child : Object.Child) : Operation Bool := attempt (.call (.childExists child))

def createChild (child : Object.Child) : Operation Unit := attempt (.call (.createChild child))

def deleteNamespace (name : String) : Operation Unit := attempt (.call (.deleteNamespace name))

def readyReplicas (ns name : String) : Operation Int := attempt (.call (.readyReplicas ns name))

def configMap (ns name : String) : Operation (Option ConfigMap) :=
  attempt (.call (.configMap ns name))

def publish (event : Event) : Operation Unit := always (.call (.publish event))

def openRuntime (tenant : String) : Operation Unit := always (.call (.openRuntime tenant))

def listModels (tenant : String) : Operation (List Model.Entry) :=
  attemptRuntime (.call (.listModels tenant))

def listRunning (tenant : String) : Operation (List Model.Entry) :=
  attemptRuntime (.call (.listRunning tenant))

def createModel (tenant model : String) (file : Model.File) : Operation Unit :=
  attemptRuntime (.call (.createModel tenant model file))

def now : Operation String := always (.call .now)

/-- The answer of a pull as a result. -/
def pullResult (model : String) (limit : Duration) : PullEnd → Except Error Unit
  | .finished (.ok _) => .ok ()
  | .finished (.error e) => .error (.modelRuntime e)
  | .collapsed detail =>
    .error (.internal ("pull task for " ++ model ++ " failed: " ++ detail))
  | .timedOut => .error (.pullTimeout model limit)
  | .cancelled => .error .cancelled

/-- Pulls a model within a limit. -/
def pull (tenant model : String) (limit : Duration) : Operation Unit :=
  attempt do return pullResult model limit (← .call (.pull tenant model limit))

/-- A sequence of operations stops at the first failure. -/
theorem run_bind {β σ : Type} (h : Handler σ) (o : Operation α) (f : α → Operation β) (s : σ) :
    Program.run h (o >>= f).run s =
      match Program.run h o.run s with
      | (.error e, m) => (.error e, m)
      | (.ok a, m) => Program.run h (f a).run m := by
  rw [ExceptT.run_bind, Program.bind_eq, Program.run_bind]
  rcases Program.run h o.run s with ⟨_ | a, m⟩ <;> rfl

end Operation
end Tenancy.Operator
