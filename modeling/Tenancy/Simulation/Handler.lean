/-
How the calls of a reconciler are answered in a simulated world.
-/
import Tenancy.Operator.Reconcile
import Tenancy.Simulation.World

namespace Tenancy.Simulation

open Operator

/-! ## The cluster -/

/-- A call to the cluster that a fault may fail. -/
def guarded {α : Type} (target : Target) (argument : String) (w : World)
    (go : World → Except Error α × World) : Except Error α × World :=
  match w.strike target argument with
  | (some (.fail e), w) => (.error e, w)
  | (_, w) => go w

def conflict {α : Type} (name : String) : Except Error α :=
  .error (.internal ("conflict on " ++ name))

/-- Writes the guards of a workspace. One that is to be deleted and has none left is gone. -/
def writeFinalizers (w : World) (name : String) (finalizers : List String) : World :=
  match w.workspace? name with
  | none => w
  | some ws =>
    if finalizers.isEmpty && ws.pendingDeletion then w.remove name
    else
      (w.modifyWorkspace name fun ws =>
        { ws with metadata := { ws.metadata with finalizers := some finalizers } }).bump name

def setFinalizers (name : String) (version : Option String) (finalizers : List String)
    (w : World) : Except Error Unit × World :=
  guarded .setFinalizers name w fun w =>
    let w := w.interfere name
    if w.stale name version then (conflict name, w.record (.finalizersConflict name))
    else (.ok (), writeFinalizers (w.record (.setFinalizers name version finalizers)) name finalizers)

def patchStatus (name : String) (version : Option String) (status : Status) (w : World) :
    Except Error Unit × World :=
  guarded .patchStatus name w fun w =>
    let w := w.interfere name
    if w.stale name version then (conflict name, w.record (.statusConflict name))
    else
      let w := w.record (.patchStatus name version status)
      (.ok (), (w.modifyWorkspace name fun ws => { ws with status := some status }).bump name)

def childExists (child : Object.Child) (w : World) : Except Error Bool × World :=
  guarded .childExists child.label (w.record (.lookedFor child)) fun w =>
    (.ok (w.child? (keyOf child)).isSome, w)

def createChild (child : Object.Child) (w : World) : Except Error Unit × World :=
  guarded .createChild child.label w fun w =>
    (.ok (), (w.record (.created child)).addChild child)

def deleteNamespace (name : String) (w : World) : Except Error Unit × World :=
  guarded .deleteNamespace name w fun w =>
    (.ok (), (w.record (.deletedNamespace name)).dropNamespace name)

/-- The ready pods of a runtime; one that does not exist has none. -/
def readyReplicas (ns name : String) (w : World) : Except Error Int × World :=
  guarded .readyReplicas name (w.record (.readReplicas ns name)) fun w =>
    (.ok (if (w.child? (.statefulSet, some ns, name)).isSome then w.ready else 0), w)

def configMap (ns name : String) (w : World) : Except Error (Option ConfigMap) × World :=
  guarded .configMap name (w.record (.readConfigMap ns name)) fun w =>
    (.ok (Dict.get? w.configMaps (ns ++ "/" ++ name)), w)

/-! ## Runtimes -/

/-- A call to a runtime other than a pull, which a fault may fail or slow down. The third argument
says what happens: `true` if the work is really done. -/
def runtimeCall {α : Type} (target : Target) (argument : String) (w : World)
    (go : Bool → World → α × World) : Except Model.Error α × World :=
  match w.strike target argument with
  | (some (.failRuntime e), w) => (.error e, w)
  | (some .pretend, w) => let (a, w) := go false w; (.ok a, w)
  | (some (.delay ms), w) => let (a, w) := go true (w.wait ms); (.ok a, w)
  | (_, w) => let (a, w) := go true w; (.ok a, w)

def createModel (tenant model : String) (file : Model.File) (w : World) :
    Except Model.Error Unit × World :=
  runtimeCall .createModel model (w.record (.madeModel tenant model file)) fun really w =>
    ((), if really then w.addModel tenant model else w)

/-- When a wait of `limit` that started at `start` ends, if a cancellation does not end it before;
the answer says which it was. -/
def giveUp (w : World) (limit : Nat) : PullEnd × World :=
  match w.cancelAt with
  | some t =>
    if t < w.time + limit then (.cancelled, { w with time := max w.time t })
    else (.timedOut, w.wait limit)
  | none => (.timedOut, w.wait limit)

/-- A pull that would end after `ms`; what ends it before is the limit or a cancellation, and either
also wins a tie. -/
def awaitPull (tenant model : String) (limit ms : Nat) (w : World) : PullEnd × World :=
  if ms < limit ∧ w.cancelAt.all (w.time + ms < ·) then
    (.finished (.ok ()), (w.wait ms).addModel tenant model)
  else giveUp w limit

/-- Pulls a model in a task of its own. A pass that is cancelled already, or has no time at all, does
not let the task begin. -/
def pull (tenant model : String) (limit : Duration) (w : World) : PullEnd × World :=
  let w := { w with tasks := w.tasks + 1 }
  let ms := limit.nanos / 1000000
  if w.cancelled then (.cancelled, w)
  else if ms = 0 then (.timedOut, w)
  else
    match (w.record (.pulled tenant model)).strike .pull model with
    | (some (.failRuntime e), w) => (.finished (.error e), w)
    | (some .collapse, w) =>
      (.collapsed ("task " ++ toString w.tasks ++ " panicked"), w)
    | (some .pretend, w) => (.finished (.ok ()), w)
    | (some .hang, w) => giveUp w ms
    | (some (.delay d), w) => awaitPull tenant model ms d w
    | (_, w) => (.finished (.ok ()), w.addModel tenant model)

/-! ## The handler -/

/-- Answers every call in a simulated world. -/
def handle : Handler World
  | .workspace name => fun w =>
    guarded .workspace name (w.record (.readWorkspace name)) fun w => (.ok (w.workspace? name), w)
  | .setFinalizers name version finalizers => setFinalizers name version finalizers
  | .patchStatus name version status => patchStatus name version status
  | .childExists child => childExists child
  | .createChild child => createChild child
  | .deleteNamespace name => deleteNamespace name
  | .readyReplicas ns name => readyReplicas ns name
  | .configMap ns name => configMap ns name
  | .publish event => fun w => ((), w.record (.published event))
  | .openRuntime tenant => fun w => ((), w.record (.openedRuntime tenant))
  | .listModels tenant => fun w =>
    runtimeCall .listModels "" (w.record (.listedModels tenant)) fun _ w => (w.inventory tenant, w)
  | .listRunning tenant => fun w =>
    runtimeCall .listRunning "" (w.record (.listedRunning tenant)) fun _ w => ([], w)
  | .pull tenant model limit => pull tenant model limit
  | .createModel tenant model file => createModel tenant model file
  | .now => fun w => (w.clock, w)

/-! ## Runs -/

/-- Runs an operation in a world. -/
def perform {α : Type} (o : Operation α) (w : World) : Except Error α × World :=
  Program.run handle o.run w

/-- One pass over a workspace. -/
def pass (config : Config) (name : String) (w : World) : Except Error Requeue × World :=
  perform (Operator.pass config name) w

/-- Whether passes over a workspace may stop: it has been created, or is gone. -/
def settled (w : World) (name : String) : Bool :=
  match w.workspace? name with
  | none => true
  | some ws => ws.isCreated

/-- Passes over a workspace until it is settled, or a pass asks for no other, or their number is used
up; the results of all of them. -/
def converge (pass : World → Except Error Requeue × World) (name : String) : Nat → World →
    List (Except Error Requeue) × World
  | 0, w => ([], w)
  | n + 1, w =>
    let (result, w) := pass w
    let last := settled w name || (match result with
      | .ok requeue => decide (requeue = .never)
      | .error _ => false)
    if last then ([result], w)
    else
      let (results, w) := converge pass name n w
      (result :: results, w)

end Tenancy.Simulation
