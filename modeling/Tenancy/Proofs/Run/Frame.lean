/-
What a call changes in the simulated world, and what it leaves alone: the children (`child?_handle`), each
stored workspace (`workspace_handle`) and what each runtime holds (`inventory_handle`); and that its answer is
true of the world. Only this module looks into the handler; what is said of runs is derived from it.
-/
import Tenancy.Proofs.Run.World

namespace Tenancy.Simulation

open Operator

variable {α : Type}

/-! ## Faults -/

/-- The world after a call has met its fault. -/
def World.struck (w : World) (target : Target) (argument : String) : World :=
  { w with faults := (meet target argument w.faults).2 }

theorem strike_eq (w : World) (target : Target) (argument : String) :
    w.strike target argument = ((meet target argument w.faults).1, w.struck target argument) := rfl

/-- Meeting a fault uses it up but does not change what it does. -/
theorem meet_strikes (target : Target) (argument : String) (faults : List (Fault Target Strike)) :
    (meet target argument faults).2.map (·.strike) = faults.map (·.strike) := by
  induction faults with
  | nil => rfl
  | cons f rest ih =>
    simp only [meet]
    split
    · split
      · rfl
      · simp [ih]
    · simp [ih]

theorem meet_mem (target : Target) (argument : String) (faults : List (Fault Target Strike)) {s : Strike}
    (h : (meet target argument faults).1 = some s) : s ∈ faults.map (·.strike) := by
  induction faults with
  | nil => cases h
  | cons f rest ih =>
    simp only [meet] at h
    split at h
    · split at h
      · cases h; exact List.mem_cons_self ..
      · exact List.mem_cons_of_mem _ (ih h)
    · exact List.mem_cons_of_mem _ (ih h)

/-- A guarded call fails, or does its work after the fault that it met. -/
theorem guarded_cases (target : Target) (argument : String) (w : World)
    (go : World → Except Error α × World) :
    (∃ e, guarded target argument w go = (.error e, w.struck target argument)) ∨
      guarded target argument w go = go (w.struck target argument) := by
  unfold guarded
  rw [strike_eq]
  rcases (meet target argument w.faults).1 with _ | s
  · exact .inr rfl
  · cases s <;> first | exact .inl ⟨_, rfl⟩ | exact .inr rfl

/-- A call to a runtime fails, or takes its time and is answered; only a fault that pretends makes it
answer without having done its work. -/
theorem runtimeCall_cases (target : Target) (argument : String) (w : World) (go : Bool → World → α × World) :
    (∃ e, runtimeCall target argument w go = (.error e, w.struck target argument)) ∨
      ∃ really ms, (really = false → .pretend ∈ w.faults.map (·.strike)) ∧
        runtimeCall target argument w go =
          (.ok (go really ((w.struck target argument).wait ms)).1,
            (go really ((w.struck target argument).wait ms)).2) := by
  unfold runtimeCall
  rw [strike_eq]
  rcases hs : (meet target argument w.faults).1 with _ | s
  · exact .inr ⟨true, 0, nofun, rfl⟩
  · cases s with
    | failRuntime e => exact .inl ⟨e, rfl⟩
    | pretend => exact .inr ⟨false, 0, fun _ => meet_mem _ _ _ hs, rfl⟩
    | delay ms => exact .inr ⟨true, ms, nofun, rfl⟩
    | fail _ | hang | collapse => exact .inr ⟨true, 0, nofun, rfl⟩

/-- No fault makes a runtime say that it has done what it has not. -/
def Honest (w : World) : Prop := .pretend ∉ w.faults.map (·.strike)

/-! ## Worlds that hold the same -/

/-- What no call changes: the settings, the state of the pods, and what the faults do. -/
structure Stands (w m : World) : Prop where
  configMaps : m.configMaps = w.configMaps
  ready : m.ready = w.ready
  sharedRuntime : m.sharedRuntime = w.sharedRuntime
  strikes : m.faults.map (·.strike) = w.faults.map (·.strike)

/-- Two worlds store the same, up to versions given out, records, times and used up faults. -/
structure Alike (w m : World) : Prop extends Stands w m where
  workspaces : m.workspaces = w.workspaces
  children : m.children = w.children
  runtimes : m.runtimes = w.runtimes

theorem Stands.refl (w : World) : Stands w w := ⟨rfl, rfl, rfl, rfl⟩

theorem Stands.trans {w m n : World} (h : Stands w m) (h' : Stands m n) : Stands w n :=
  ⟨h'.configMaps.trans h.configMaps, h'.ready.trans h.ready, h'.sharedRuntime.trans h.sharedRuntime,
    h'.strikes.trans h.strikes⟩

theorem Alike.refl (w : World) : Alike w w := ⟨.refl w, rfl, rfl, rfl⟩

theorem Alike.trans {w m n : World} (h : Alike w m) (h' : Alike m n) : Alike w n :=
  ⟨h.toStands.trans h'.toStands, h'.workspaces.trans h.workspaces, h'.children.trans h.children,
    h'.runtimes.trans h.runtimes⟩

theorem Alike.record (w : World) (e : Effect) : Alike w (w.record e) := ⟨⟨rfl, rfl, rfl, rfl⟩, rfl, rfl, rfl⟩

theorem Alike.wait (w : World) (ms : Nat) : Alike w (w.wait ms) := ⟨⟨rfl, rfl, rfl, rfl⟩, rfl, rfl, rfl⟩

theorem Alike.struck (w : World) (target : Target) (argument : String) : Alike w (w.struck target argument) :=
  ⟨⟨rfl, rfl, rfl, meet_strikes ..⟩, rfl, rfl, rfl⟩

theorem Alike.workspace? {w m : World} (h : Alike w m) (name : String) : m.workspace? name = w.workspace? name := by
  rw [World.workspace?, World.workspace?, h.workspaces]

theorem Alike.inventory {w m : World} (h : Alike w m) (tenant : String) : m.inventory tenant = w.inventory tenant := by
  rw [World.inventory, World.inventory, World.runtimeKey, World.runtimeKey, h.runtimes, h.sharedRuntime]

/-- A guarded call that stores nothing. -/
theorem Alike.guarded (target : Target) (argument : String) (w : World) (f : World → Except Error α) :
    Alike w (guarded target argument w fun m => (f m, m)).2 := by
  rcases guarded_cases target argument w (fun m => (f m, m)) with ⟨e, h⟩ | h
  · rw [h]; exact .struck ..
  · rw [h]; exact .struck ..

/-- A call to a runtime that stores nothing. -/
theorem Alike.runtimeCall (target : Target) (argument : String) (w : World) (f : World → α) :
    Alike w (runtimeCall target argument w fun _ m => (f m, m)).2 := by
  rcases runtimeCall_cases target argument w (fun _ m => (f m, m)) with ⟨e, h⟩ | ⟨really, ms, -, h⟩
  · rw [h]; exact .struck ..
  · rw [h]; exact (Alike.struck ..).trans (.wait ..)

/-- A question leaves the world as it is. -/
theorem handle_question (c : Call) (hc : c.writes = false) (w : World) : Alike w (handle c w).2 := by
  cases c with
  | workspace name => exact (Alike.record ..).trans (.guarded ..)
  | childExists child => exact (Alike.record ..).trans (.guarded ..)
  | readyReplicas ns name => exact (Alike.record ..).trans (.guarded ..)
  | configMap ns name => exact (Alike.record ..).trans (.guarded ..)
  | openRuntime tenant => exact .record ..
  | listModels tenant => exact (Alike.record ..).trans (.runtimeCall ..)
  | listRunning tenant => exact (Alike.record ..).trans (.runtimeCall ..)
  | now => exact .refl w
  | _ => cases hc

/-! ## Runtimes -/

/-- What a call may do to the models of the runtime of `tenant`: it says that it is done and has added the
model, or it adds nothing, and then only a fault that pretends makes it say that it is done. -/
def Adds (w : World) (tenant model : String) (done : Prop) (w' : World) : Prop :=
  (done ∧ ∃ m, Alike w m ∧ w' = m.addModel tenant model) ∨
    (Alike w w' ∧ (done → .pretend ∈ w.faults.map (·.strike)))

theorem giveUp_alike {w w' : World} {limit : Nat} {x : PullEnd} (h : giveUp w limit = (x, w')) :
    Alike w w' ∧ x ≠ .finished (.ok ()) := by
  unfold giveUp at h
  split at h
  · split at h <;> cases h
    · exact ⟨⟨⟨rfl, rfl, rfl, rfl⟩, rfl, rfl, rfl⟩, nofun⟩
    · exact ⟨.wait .., nofun⟩
  · cases h
    exact ⟨.wait .., nofun⟩

theorem pull_adds {tenant model : String} {limit : Duration} {w w' : World} {x : PullEnd}
    (h : pull tenant model limit w = (x, w')) : Adds w tenant model (x = .finished (.ok ())) w' := by
  have started : Alike w { w with tasks := w.tasks + 1 } := ⟨⟨rfl, rfl, rfl, rfl⟩, rfl, rfl, rfl⟩
  have hm := started.trans ((Alike.record _ (.pulled tenant model)).trans (.struck _ .pull model))
  simp only [pull, strike_eq] at h
  -- a pull that is cancelled or out of time before it begins meets no fault
  split at h
  · cases h; exact .inr ⟨started, nofun⟩
  split at h
  · cases h; exact .inr ⟨started, nofun⟩
  rcases hs : (meet .pull model (World.record { w with tasks := w.tasks + 1 } (.pulled tenant model)).faults).1
    with _ | s
  · rw [hs] at h
    cases h
    exact .inl ⟨rfl, _, hm, rfl⟩
  · rw [hs] at h
    cases s with
    | fail e => cases h; exact .inl ⟨rfl, _, hm, rfl⟩
    | failRuntime e => cases h; exact .inr ⟨hm, nofun⟩
    | collapse => cases h; exact .inr ⟨hm, nofun⟩
    | pretend => cases h; exact .inr ⟨hm, fun _ => meet_mem _ _ _ hs⟩
    | hang =>
      obtain ⟨hg, hx⟩ := giveUp_alike h
      exact .inr ⟨hm.trans hg, fun he => absurd he hx⟩
    | delay ms =>
      simp only [awaitPull] at h
      split at h
      · cases h; exact .inl ⟨rfl, _, hm.trans (.wait ..), rfl⟩
      · obtain ⟨hg, hx⟩ := giveUp_alike h
        exact .inr ⟨hm.trans hg, fun he => absurd he hx⟩

theorem createModel_adds {tenant model : String} {file : Model.File} {w w' : World} {x : Except Model.Error Unit}
    (h : createModel tenant model file w = (x, w')) : Adds w tenant model (x = .ok ()) w' := by
  have hm := (Alike.record w (.madeModel tenant model file)).trans (.struck _ .createModel model)
  unfold createModel at h
  rcases runtimeCall_cases .createModel model (w.record (.madeModel tenant model file))
    (fun really m => ((), if really then m.addModel tenant model else m)) with ⟨e, hr⟩ | ⟨really, ms, hp, hr⟩
  · cases hr.symm.trans h; exact .inr ⟨hm, nofun⟩
  · cases hr.symm.trans h
    cases really with
    | true => exact .inl ⟨rfl, _, hm.trans (.wait _ ms), rfl⟩
    | false => exact .inr ⟨hm.trans (.wait _ ms), fun _ => hp rfl⟩

theorem inventory_addModel (w : World) (tenant model other : String) :
    (w.addModel tenant model).inventory other =
      if w.runtimeKey other = w.runtimeKey tenant then w.inventory tenant ++ [.named model] else w.inventory other := by
  show (Dict.get? (Dict.insert w.runtimes (w.runtimeKey tenant) _) (w.runtimeKey other)).getD [] = _
  rw [Dict.get?_insert]
  split <;> rfl

/-- Done honestly, the model is there. -/
theorem Adds.mem {w w' : World} {tenant model : String} {done : Prop} (h : Adds w tenant model done w')
    (hw : Honest w) (hdone : done) : .named model ∈ w'.inventory tenant := by
  rcases h with ⟨-, m, -, rfl⟩ | ⟨-, hp⟩
  · rw [inventory_addModel, if_pos rfl]
    exact List.mem_append_right _ (List.mem_singleton_self _)
  · exact absurd (hp hdone) hw

/-- Models are only added. -/
theorem Adds.keeps {w w' : World} {tenant model : String} {done : Prop} (h : Adds w tenant model done w')
    {other : String} {e : Model.Entry} (he : e ∈ w.inventory other) : e ∈ w'.inventory other := by
  rcases h with ⟨-, m, hm, rfl⟩ | ⟨ha, -⟩
  · rw [← hm.inventory] at he
    rw [inventory_addModel]
    split
    next hk =>
      rw [World.inventory, hk] at he
      exact List.mem_append_left _ he
    next => exact he
  · rw [ha.inventory]; exact he

/-- Adding models touches nothing but runtimes. -/
theorem Adds.frame {w w' : World} {tenant model : String} {done : Prop} (h : Adds w tenant model done w') :
    Stands w w' ∧ w'.workspaces = w.workspaces ∧ w'.children = w.children := by
  rcases h with ⟨-, m, hm, rfl⟩ | ⟨hm, -⟩
  · exact ⟨⟨hm.configMaps, hm.ready, hm.sharedRuntime, hm.strikes⟩, hm.workspaces, hm.children⟩
  · exact ⟨hm.toStands, hm.workspaces, hm.children⟩

/-! ## Children -/

/-- What a change makes of what is stored under a key. -/
def remade (key : ChildKey) (old : Option Object.Child) : Change → Option Object.Child
  | .created child => if keyOf child = key then some child else old
  | .deleted ns => if World.goesWith ns key then none else old

theorem child?_addChild (w : World) (child : Object.Child) (key : ChildKey) :
    (w.addChild child).child? key = if keyOf child = key then some child else w.child? key := by
  refine (Dict.get?_put ..).trans ?_
  simp only [eq_comm]
  rfl

theorem child?_dropNamespace (w : World) (name : String) (key : ChildKey) :
    (w.dropNamespace name).child? key = if World.goesWith name key then none else w.child? key := by
  refine (Dict.get?_filter w.children (fun key => !World.goesWith name key) key).trans ?_
  cases World.goesWith name key <;> rfl

/-! ## Workspaces -/

/-- A workspace in another version. -/
def revise (ws : Workspace) (version : Option String) : Workspace :=
  { ws with metadata := { ws.metadata with resourceVersion := version } }

/-- What an answered call makes of the workspace stored under `name`. -/
inductive Rewrites (name : String) : Answered → Option Workspace → Option Workspace → Prop
  | absent (x : Answered) : Rewrites name x none none
  | kept {x : Answered} (ws : Workspace) (v : Option String) :
      (∀ version finalizers, x ≠ ⟨.setFinalizers name version finalizers, .ok ()⟩) →
      (∀ version status, x ≠ ⟨.patchStatus name version status, .ok ()⟩) →
      Rewrites name x (some ws) (some (revise ws v))
  | guarded {version : Option String} {finalizers : List String} (ws : Workspace) (v : Option String) :
      Rewrites name ⟨.setFinalizers name version finalizers, .ok ()⟩ (some ws)
        (some (revise { ws with metadata := { ws.metadata with finalizers := some finalizers } } v))
  | released {version : Option String} {ws : Workspace} : ws.pendingDeletion = true →
      Rewrites name ⟨.setFinalizers name version [], .ok ()⟩ (some ws) none
  | reported {version : Option String} {status : Status} (ws : Workspace) (v : Option String) :
      Rewrites name ⟨.patchStatus name version status, .ok ()⟩ (some ws)
        (some (revise { ws with status := some status } v))

/-- What no call changes in a stored workspace. -/
structure Continues (old ws : Workspace) : Prop where
  spec : ws.spec = old.spec
  name : ws.metadata.name = old.metadata.name
  uid : ws.metadata.uid = old.metadata.uid
  generation : ws.metadata.generation = old.metadata.generation
  deletionTimestamp : ws.metadata.deletionTimestamp = old.metadata.deletionTimestamp

/-- What is stored after a call was stored before it. -/
theorem Rewrites.continues {name : String} {x : Answered} {a : Option Workspace} {ws : Workspace}
    (h : Rewrites name x a (some ws)) : ∃ old, a = some old ∧ Continues old ws := by
  cases h with
  | kept old v => exact ⟨old, rfl, rfl, rfl, rfl, rfl, rfl⟩
  | guarded old v => exact ⟨old, rfl, rfl, rfl, rfl, rfl, rfl⟩
  | reported old v => exact ⟨old, rfl, rfl, rfl, rfl, rfl, rfl⟩

/-- The same but for the versions of the workspaces. -/
structure Overtaken (w m : World) : Prop extends Stands w m where
  workspace? : ∀ k, ∃ v, m.workspace? k = (w.workspace? k).map (revise · v)
  children : m.children = w.children
  runtimes : m.runtimes = w.runtimes

theorem Alike.overtaken {w m : World} (h : Alike w m) : Overtaken w m := by
  refine ⟨h.toStands, fun k => ?_, h.children, h.runtimes⟩
  rw [h.workspace?]
  cases w.workspace? k with
  | none => exact ⟨none, rfl⟩
  | some ws => exact ⟨ws.metadata.resourceVersion, rfl⟩

theorem Overtaken.trans {w m n : World} (h : Overtaken w m) (h' : Overtaken m n) : Overtaken w n := by
  refine ⟨h.toStands.trans h'.toStands, fun k => ?_, h'.children.trans h.children, h'.runtimes.trans h.runtimes⟩
  obtain ⟨v, hv⟩ := h.workspace? k
  obtain ⟨v', hv'⟩ := h'.workspace? k
  rw [hv', hv]
  cases w.workspace? k with
  | none => exact ⟨none, rfl⟩
  | some ws => exact ⟨v', rfl⟩

theorem overtaken_bump (w : World) (name : String) : Overtaken w (w.bump name) := by
  refine ⟨⟨rfl, rfl, rfl, rfl⟩, fun k => ?_, rfl, rfl⟩
  show ∃ v, Dict.get? (Dict.modify w.workspaces name (World.setVersion _)) k = _
  rw [Dict.get?_modify, World.workspace?]
  split
  · exact ⟨_, rfl⟩
  · cases Dict.get? w.workspaces k with
    | none => exact ⟨none, rfl⟩
    | some ws => exact ⟨ws.metadata.resourceVersion, rfl⟩

theorem overtaken_interfere (w : World) (name : String) : Overtaken w (w.interfere name) := by
  unfold World.interfere
  split
  · exact (Alike.refl w).overtaken
  · have spent : Alike w { w with interference := w.interference - 1 } := ⟨⟨rfl, rfl, rfl, rfl⟩, rfl, rfl, rfl⟩
    exact spent.overtaken.trans (overtaken_bump _ name)

/-- A write of guards or of a status fails, or happens after another writer may have come before it. -/
theorem setFinalizers_cases (name : String) (version : Option String) (finalizers : List String) (w : World) :
    ∃ m, Overtaken w m ∧ ((∃ e, handle (.setFinalizers name version finalizers) w = (.error e, m)) ∨
      handle (.setFinalizers name version finalizers) w = (.ok (), writeFinalizers m name finalizers)) := by
  show ∃ m, _ ∧ ((∃ e, setFinalizers name version finalizers w = (.error e, m)) ∨
    setFinalizers name version finalizers w = (.ok (), writeFinalizers m name finalizers))
  unfold setFinalizers
  have struck := (Alike.struck w .setFinalizers name).overtaken
  rcases guarded_cases .setFinalizers name w _ with ⟨e, h⟩ | h
  · exact ⟨_, struck, .inl ⟨e, h⟩⟩
  · rw [h]
    have hm := struck.trans (overtaken_interfere _ name)
    dsimp only
    split
    · exact ⟨_, hm.trans (Alike.record ..).overtaken, .inl ⟨_, rfl⟩⟩
    · exact ⟨_, hm.trans (Alike.record ..).overtaken, .inr rfl⟩

theorem patchStatus_cases (name : String) (version : Option String) (status : Status) (w : World) :
    ∃ m, Overtaken w m ∧ ((∃ e, handle (.patchStatus name version status) w = (.error e, m)) ∨
      handle (.patchStatus name version status) w =
        (.ok (), (m.modifyWorkspace name fun ws => { ws with status := some status }).bump name)) := by
  show ∃ m, _ ∧ ((∃ e, patchStatus name version status w = (.error e, m)) ∨ patchStatus name version status w = _)
  unfold patchStatus
  have struck := (Alike.struck w .patchStatus name).overtaken
  rcases guarded_cases .patchStatus name w _ with ⟨e, h⟩ | h
  · exact ⟨_, struck, .inl ⟨e, h⟩⟩
  · rw [h]
    have hm := struck.trans (overtaken_interfere _ name)
    dsimp only
    split
    · exact ⟨_, hm.trans (Alike.record ..).overtaken, .inl ⟨_, rfl⟩⟩
    · exact ⟨_, hm.trans (Alike.record ..).overtaken, .inr rfl⟩

theorem createChild_cases (child : Object.Child) (w : World) :
    ∃ m, Alike w m ∧ ((∃ e, handle (.createChild child) w = (.error e, m)) ∨
      handle (.createChild child) w = (.ok (), m.addChild child)) := by
  have struck := Alike.struck w .createChild child.label
  rcases guarded_cases .createChild child.label w
    (fun w => (.ok (), (w.record (.created child)).addChild child)) with ⟨e, h⟩ | h
  · exact ⟨_, struck, .inl ⟨e, h⟩⟩
  · exact ⟨_, struck.trans (.record ..), .inr h⟩

theorem deleteNamespace_cases (name : String) (w : World) :
    ∃ m, Alike w m ∧ ((∃ e, handle (.deleteNamespace name) w = (.error e, m)) ∨
      handle (.deleteNamespace name) w = (.ok (), m.dropNamespace name)) := by
  have struck := Alike.struck w .deleteNamespace name
  rcases guarded_cases .deleteNamespace name w
    (fun w => (.ok (), (w.record (.deletedNamespace name)).dropNamespace name)) with ⟨e, h⟩ | h
  · exact ⟨_, struck, .inl ⟨e, h⟩⟩
  · exact ⟨_, struck.trans (.record ..), .inr h⟩

theorem writeFinalizers_frame (m : World) (name : String) (finalizers : List String) :
    Stands m (writeFinalizers m name finalizers) ∧ (writeFinalizers m name finalizers).children = m.children ∧
      (writeFinalizers m name finalizers).runtimes = m.runtimes := by
  unfold writeFinalizers
  split
  · exact ⟨.refl m, rfl, rfl⟩
  · split <;> exact ⟨⟨rfl, rfl, rfl, rfl⟩, rfl, rfl⟩

/-! ## Calls -/

/-- No call changes the settings, the state of the pods or what faults do. -/
theorem stands_handle (c : Call) (w : World) : Stands w (handle c w).2 := by
  cases c with
  | setFinalizers name version finalizers =>
    obtain ⟨m, hm, ⟨e, h⟩ | h⟩ := setFinalizers_cases name version finalizers w
    · rw [h]; exact hm.toStands
    · rw [h]; exact hm.toStands.trans (writeFinalizers_frame ..).1
  | patchStatus name version status =>
    obtain ⟨m, hm, ⟨e, h⟩ | h⟩ := patchStatus_cases name version status w
    · rw [h]; exact hm.toStands
    · rw [h]; exact hm.toStands.trans ⟨rfl, rfl, rfl, rfl⟩
  | createChild child =>
    obtain ⟨m, hm, ⟨e, h⟩ | h⟩ := createChild_cases child w
    · rw [h]; exact hm.toStands
    · rw [h]; exact hm.toStands.trans ⟨rfl, rfl, rfl, rfl⟩
  | deleteNamespace name =>
    obtain ⟨m, hm, ⟨e, h⟩ | h⟩ := deleteNamespace_cases name w
    · rw [h]; exact hm.toStands
    · rw [h]; exact hm.toStands.trans ⟨rfl, rfl, rfl, rfl⟩
  | publish event => exact (Alike.record ..).toStands
  | pull tenant model limit => exact (pull_adds (Prod.eta _).symm).frame.1
  | createModel tenant model file => exact (createModel_adds (Prod.eta _).symm).frame.1
  | _ => exact (handle_question _ rfl w).toStands

theorem Honest.handle {w : World} (h : Honest w) (c : Call) : Honest (handle c w).2 := by
  rwa [Honest, (stands_handle c w).strikes]

theorem Plays.honest {others : World → World → Prop} (hothers : ∀ w m, others w m → Honest w → Honest m) {t : Trace}
    {w w' : World} (h : Plays others w t w') (hw : Honest w) : Honest w' :=
  h.keeps hothers (fun x _ _ _ hm => hm.handle x.call) hw

/-- Only creations and deletions of namespaces change the children. -/
theorem child?_handle (c : Call) (w : World) (key : ChildKey) :
    (handle c w).2.child? key =
      (Answered.change? ⟨c, (handle c w).1⟩).elim (w.child? key) (remade key (w.child? key)) := by
  have same : ∀ {m : World}, m.children = w.children → m.child? key = w.child? key := by
    intro m h
    rw [World.child?, World.child?, h]
  cases c with
  | setFinalizers name version finalizers =>
    obtain ⟨m, hm, ⟨e, h⟩ | h⟩ := setFinalizers_cases name version finalizers w
    · rw [h]; exact same hm.children
    · rw [h]; exact same ((writeFinalizers_frame ..).2.1.trans hm.children)
  | patchStatus name version status =>
    obtain ⟨m, hm, ⟨e, h⟩ | h⟩ := patchStatus_cases name version status w
    · rw [h]; exact same hm.children
    · rw [h]; exact same hm.children
  | createChild child =>
    obtain ⟨m, hm, ⟨e, h⟩ | h⟩ := createChild_cases child w
    · rw [h]; exact same hm.children
    · rw [h, child?_addChild, same hm.children]; rfl
  | deleteNamespace name =>
    obtain ⟨m, hm, ⟨e, h⟩ | h⟩ := deleteNamespace_cases name w
    · rw [h]; exact same hm.children
    · rw [h, child?_dropNamespace, same hm.children]; rfl
  | publish event => rfl
  | pull tenant model limit => exact same (pull_adds (Prod.eta _).symm).frame.2.2
  | createModel tenant model file => exact same (createModel_adds (Prod.eta _).symm).frame.2.2
  | _ => exact same (handle_question _ rfl w).children

/-- A child that is stored after a call was stored before it, or is what the call has created. -/
theorem stored_handle {c : Call} {w : World} {key : ChildKey} {child : Object.Child}
    (h : (handle c w).2.child? key = some child) :
    w.child? key = some child ∨ key = keyOf child ∧ (⟨c, (handle c w).1⟩ : Answered) = ⟨.createChild child, .ok ()⟩ := by
  rw [child?_handle] at h
  cases hx : Answered.change? ⟨c, (handle c w).1⟩ with
  | none =>
    rw [hx] at h
    exact .inl h
  | some change =>
    rw [hx] at h
    cases change with
    | created made =>
      change (if keyOf made = key then some made else w.child? key) = some child at h
      split at h
      next hk =>
        cases h
        exact .inr ⟨hk.symm, Answered.change?_eq_created hx⟩
      next => exact .inl h
    | deleted ns =>
      change (if World.goesWith ns key then none else w.child? key) = some child at h
      split at h
      · cases h
      · exact .inl h

/-- What is stored under a key that others do not touch is made by the changes of the trace. -/
theorem Plays.child? {others : World → World → Prop} {key : ChildKey}
    (hothers : ∀ w m, others w m → m.child? key = w.child? key) {t : Trace} {w w' : World}
    (h : Plays others w t w') : w'.child? key = (changes t).foldl (remade key) (w.child? key) := by
  induction t generalizing w with
  | nil => cases (plays_nil ..).1 h; rfl
  | cons x t ih =>
    obtain ⟨m, ho, hx, h⟩ := (plays_cons ..).1 h
    rw [ih h, child?_handle, hx, hothers w m ho]
    show (changes t).foldl (remade key) (x.change?.elim _ _) = _
    rw [changes_cons]
    cases x.change? <;> rfl

/-- No call takes a model from a runtime. -/
theorem inventory_handle (c : Call) (w : World) {tenant : String} {e : Model.Entry}
    (he : e ∈ w.inventory tenant) : e ∈ (handle c w).2.inventory tenant := by
  have same : ∀ m : World, Stands w m → m.runtimes = w.runtimes → e ∈ m.inventory tenant := by
    intro m hs hr
    rwa [World.inventory, World.runtimeKey, hr, hs.sharedRuntime]
  cases c with
  | setFinalizers name version finalizers =>
    refine same _ (stands_handle ..) ?_
    obtain ⟨m, hm, ⟨e, h⟩ | h⟩ := setFinalizers_cases name version finalizers w
    · rw [h]; exact hm.runtimes
    · rw [h]; exact (writeFinalizers_frame ..).2.2.trans hm.runtimes
  | patchStatus name version status =>
    refine same _ (stands_handle ..) ?_
    obtain ⟨m, hm, ⟨e, h⟩ | h⟩ := patchStatus_cases name version status w
    · rw [h]; exact hm.runtimes
    · rw [h]; exact hm.runtimes
  | createChild child =>
    refine same _ (stands_handle ..) ?_
    obtain ⟨m, hm, ⟨e, h⟩ | h⟩ := createChild_cases child w <;> rw [h] <;> exact hm.runtimes
  | deleteNamespace name =>
    refine same _ (stands_handle ..) ?_
    obtain ⟨m, hm, ⟨e, h⟩ | h⟩ := deleteNamespace_cases name w <;> rw [h] <;> exact hm.runtimes
  | publish event => exact he
  | pull tenant model limit => exact (pull_adds (Prod.eta _).symm).keeps he
  | createModel tenant model file => exact (createModel_adds (Prod.eta _).symm).keeps he
  | _ => rw [(handle_question _ rfl w).inventory]; exact he

/-- A change that leaves the workspace alone up to its version, made by anything but a write on it. -/
theorem Rewrites.of_revised {name : String} {x : Answered} {a b : Option Workspace} {v : Option String}
    (h : b = a.map (revise · v))
    (hf : ∀ version finalizers, x ≠ ⟨.setFinalizers name version finalizers, .ok ()⟩)
    (hs : ∀ version status, x ≠ ⟨.patchStatus name version status, .ok ()⟩) : Rewrites name x a b := by
  subst h
  cases a with
  | none => exact .absent x
  | some ws => exact .kept ws v hf hs

theorem workspace?_modify (m : World) (name : String) (f : Workspace → Workspace) (k : String) :
    (m.modifyWorkspace name f).workspace? k = if k = name then (m.workspace? k).map f else m.workspace? k :=
  Dict.get?_modify ..

theorem workspace?_bump (m : World) (name k : String) :
    (m.bump name).workspace? k =
      if k = name then (m.workspace? k).map (revise · (some (toString (m.versions + 1 + 100))))
      else m.workspace? k :=
  workspace?_modify { m with versions := m.versions + 1 } ..

theorem workspace?_writeFinalizers (m : World) (name : String) (finalizers : List String) (k : String)
    (hk : k ≠ name) : (writeFinalizers m name finalizers).workspace? k = m.workspace? k := by
  unfold writeFinalizers
  split
  · rfl
  · split
    · exact (Dict.get?_erase ..).trans (if_neg hk)
    · rw [workspace?_bump, if_neg hk, workspace?_modify, if_neg hk]

/-- A write of guards removes a workspace that is to be deleted and has none left. -/
theorem workspace?_writeFinalizers_self {m : World} {name : String} {ws : Workspace} (h : m.workspace? name = some ws)
    (finalizers : List String) : ∃ v, (writeFinalizers m name finalizers).workspace? name =
      if finalizers.isEmpty && ws.pendingDeletion then none
      else some (revise { ws with metadata := { ws.metadata with finalizers := some finalizers } } v) := by
  unfold writeFinalizers
  simp only [h]
  split
  · exact ⟨none, (Dict.get?_erase ..).trans (if_pos rfl)⟩
  · rw [workspace?_bump, if_pos rfl, workspace?_modify, if_pos rfl, h]
    exact ⟨_, rfl⟩

/-- Only writes of guards and statuses change workspaces. -/
theorem workspaces_handle (c : Call) (hg : c.topic ≠ .guards) (hs : c.topic ≠ .status) (w : World) :
    (handle c w).2.workspaces = w.workspaces := by
  cases c with
  | setFinalizers => exact absurd rfl hg
  | patchStatus => exact absurd rfl hs
  | createChild child =>
    obtain ⟨m, hm, ⟨e, h⟩ | h⟩ := createChild_cases child w <;> rw [h] <;> exact hm.workspaces
  | deleteNamespace name =>
    obtain ⟨m, hm, ⟨e, h⟩ | h⟩ := deleteNamespace_cases name w <;> rw [h] <;> exact hm.workspaces
  | publish event => rfl
  | pull tenant model limit => exact (pull_adds (Prod.eta _).symm).frame.2.1
  | createModel tenant model file => exact (createModel_adds (Prod.eta _).symm).frame.2.1
  | _ => exact (handle_question _ rfl w).workspaces

theorem Plays.workspace? {others : World → World → Prop} {name : String}
    (hothers : ∀ w m, others w m → m.workspace? name = w.workspace? name) {t : Trace}
    (ht : ∀ x ∈ t, x.call.topic ≠ .guards ∧ x.call.topic ≠ .status) {w w' : World} (h : Plays others w t w') :
    w'.workspace? name = w.workspace? name := by
  refine h.keeps (P := fun m => m.workspace? name = w.workspace? name) (fun n m ho hn => (hothers n m ho).trans hn)
    (fun x hx m _ hm => ?_) rfl
  rw [World.workspace?, workspaces_handle x.call (ht x hx).1 (ht x hx).2]
  exact hm

/-- A write of the guards changes the workspace that it names, and removes it where it may go. -/
theorem setFinalizers_rewrites (name : String) (version : Option String) (finalizers : List String) (w : World)
    (k : String) :
    Rewrites k ⟨.setFinalizers name version finalizers, (handle (.setFinalizers name version finalizers) w).1⟩
      (w.workspace? k) ((handle (.setFinalizers name version finalizers) w).2.workspace? k) := by
  obtain ⟨m, hm, hcases⟩ := setFinalizers_cases name version finalizers w
  obtain ⟨v, hv⟩ := hm.workspace? k
  obtain ⟨e, h⟩ | h := hcases
  · rw [h]
    exact .of_revised hv nofun nofun
  rw [h]
  by_cases hk : k = name
  · subst hk
    cases hw : w.workspace? k with
    | none =>
      -- there is nothing to write on, and no error either
      rw [hw] at hv
      have hnone : (writeFinalizers m k finalizers).workspace? k = none := by
        unfold writeFinalizers
        rw [hv]
        exact hv
      rw [hnone]
      exact .absent _
    | some ws =>
      rw [hw] at hv
      obtain ⟨u, hu⟩ := workspace?_writeFinalizers_self hv finalizers
      show Rewrites k _ _ ((writeFinalizers m k finalizers).workspace? k)
      rw [hu]
      split
      next hr =>
        obtain ⟨he, hp⟩ := Bool.and_eq_true_iff.1 hr
        obtain rfl := List.isEmpty_iff.1 he
        exact .released hp
      next => exact .guarded ws u
  · refine .of_revised ((workspace?_writeFinalizers m name finalizers k hk).trans hv) ?_ nofun
    intro _ _ he
    cases he
    exact hk rfl

/-- A write of the status changes the workspace that it names. -/
theorem patchStatus_rewrites (name : String) (version : Option String) (status : Status) (w : World) (k : String) :
    Rewrites k ⟨.patchStatus name version status, (handle (.patchStatus name version status) w).1⟩
      (w.workspace? k) ((handle (.patchStatus name version status) w).2.workspace? k) := by
  obtain ⟨m, hm, hcases⟩ := patchStatus_cases name version status w
  obtain ⟨v, hv⟩ := hm.workspace? k
  obtain ⟨e, h⟩ | h := hcases
  · rw [h]
    exact .of_revised hv nofun nofun
  rw [h, workspace?_bump, workspace?_modify, hv]
  by_cases hk : k = name
  · subst hk
    rw [if_pos rfl, if_pos rfl]
    cases w.workspace? k with
    | none => exact .absent _
    | some ws => exact .reported ws _
  · rw [if_neg hk, if_neg hk]
    refine .of_revised rfl nofun ?_
    intro _ _ he
    cases he
    exact hk rfl

/-- What a call makes of a stored workspace. -/
theorem workspace_handle (c : Call) (w : World) (k : String) :
    Rewrites k ⟨c, (handle c w).1⟩ (w.workspace? k) ((handle c w).2.workspace? k) := by
  have same : ∀ {m : World} {x : Answered}, m.workspaces = w.workspaces →
      (∀ version finalizers, x ≠ ⟨.setFinalizers k version finalizers, .ok ()⟩) →
      (∀ version status, x ≠ ⟨.patchStatus k version status, .ok ()⟩) →
      Rewrites k x (w.workspace? k) (m.workspace? k) := by
    intro m x hm hf hs
    rw [World.workspace?, World.workspace?, hm]
    cases Dict.get? w.workspaces k with
    | none => exact .absent x
    | some ws => exact .kept ws ws.metadata.resourceVersion hf hs
  cases c with
  | setFinalizers name version finalizers => exact setFinalizers_rewrites ..
  | patchStatus name version status => exact patchStatus_rewrites ..
  | _ => exact same (workspaces_handle _ (by nofun) (by nofun) w) nofun nofun

/-- Every workspace is stored under its name. -/
def Named (w : World) : Prop := ∀ k ws, w.workspace? k = some ws → ws.metadata.name = some k

theorem Named.handle {w : World} (h : Named w) (c : Call) : Named (handle c w).2 := by
  intro k ws hws
  obtain ⟨old, hold, hc⟩ := (hws ▸ workspace_handle c w k).continues
  rw [hc.name]
  exact h k old hold

theorem named_outpost {ws : Workspace} (h : ws.metadata.name = some "team") : Named (outpost ws) := by
  intro k ws' hws
  change (if "team" = k then some ws else none) = some ws' at hws
  split at hws
  next hk =>
    cases hws
    rw [← hk]
    exact h
  next => cases hws

/-! ## Answers -/

/-- What a question is answered is so. -/
theorem guarded_answer (target : Target) (argument : String) (w : World) (f : World → α) {x : α}
    (h : (guarded target argument w fun m => (.ok (f m), m)).1 = .ok x) : f (w.struck target argument) = x := by
  rcases guarded_cases target argument w (fun m => (.ok (f m), m)) with ⟨e, hg⟩ | hg
  · cases (congrArg Prod.fst hg).symm.trans h
  · cases (congrArg Prod.fst hg).symm.trans h; rfl

theorem workspace_answer {name : String} {w : World} {ws : Option Workspace}
    (h : (handle (.workspace name) w).1 = .ok ws) : w.workspace? name = ws :=
  guarded_answer .workspace name (w.record (.readWorkspace name)) (fun m => m.workspace? name) h

theorem childExists_answer {child : Object.Child} {w : World} {found : Bool}
    (h : (handle (.childExists child) w).1 = .ok found) : (w.child? (keyOf child)).isSome = found :=
  guarded_answer .childExists child.label (w.record (.lookedFor child)) (fun m => (m.child? (keyOf child)).isSome) h

theorem readyReplicas_answer {ns name : String} {w : World} {n : Int}
    (h : (handle (.readyReplicas ns name) w).1 = .ok n) :
    (if (w.child? (.statefulSet, some ns, name)).isSome then w.ready else 0) = n :=
  guarded_answer .readyReplicas name (w.record (.readReplicas ns name))
    (fun m => if (m.child? (.statefulSet, some ns, name)).isSome then m.ready else 0) h

theorem configMap_answer {ns name : String} {w : World} {m : Option ConfigMap}
    (h : (handle (.configMap ns name) w).1 = .ok m) : Dict.get? w.configMaps (ns ++ "/" ++ name) = m :=
  guarded_answer .configMap name (w.record (.readConfigMap ns name))
    (fun m => Dict.get? m.configMaps (ns ++ "/" ++ name)) h

theorem listModels_answer {tenant : String} {w : World} {entries : List Model.Entry}
    (h : (handle (.listModels tenant) w).1 = .ok entries) : w.inventory tenant = entries := by
  rcases runtimeCall_cases .listModels "" (w.record (.listedModels tenant)) (fun _ w => (w.inventory tenant, w))
    with ⟨e, hr⟩ | ⟨really, ms, -, hr⟩
  · cases (congrArg Prod.fst hr).symm.trans h
  · cases (congrArg Prod.fst hr).symm.trans h; rfl

end Tenancy.Simulation
