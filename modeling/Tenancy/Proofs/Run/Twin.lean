/-
Two worlds that look the same to a workspace and its tenants, but for versions and times (`Twin`). What the workspace
and the tenants do not see does not tell them apart (`Twin.unseen`); and a call about them makes twins of twins and is
answered alike, if it meets the same circumstances in both (`Even.plain`, `Even.reading`, `Even.guards`,
`Even.status`).
-/
import Tenancy.Proofs.Run.Unseen

namespace Tenancy.Simulation

open Operator

variable {α : Type} {name tenant : String} {tenants : List String} {w w' m m' : World} {V : Pairing}

/-! ## Twins -/

/-- The version of a stored workspace. -/
def World.version? (w : World) (name : String) : Option String := (w.workspace? name).bind (·.metadata.resourceVersion)

/-- Two versions, one for each of two worlds, that are both still stored or both past. -/
def Paired (name : String) (w w' : World) (v v' : Option String) : Prop :=
  ∃ u u', v = some u ∧ v' = some u' ∧ Spent w u ∧ Spent w' u' ∧ (w.version? name = some u ↔ w'.version? name = some u')

/-- Two worlds look the same to the workspace and its tenant, but for versions and times. -/
structure Twin (name : String) (tenants : List String) (V : Pairing) (w w' : World) : Prop where
  configMaps : w'.configMaps = w.configMaps
  sharedRuntime : w'.sharedRuntime = w.sharedRuntime
  workspace : (w'.workspace? name).map Workspace.bare = (w.workspace? name).map Workspace.bare
  child : ∀ key, Within tenants key → w'.child? key = w.child? key
  inventory : ∀ t ∈ tenants, w'.inventory t = w.inventory t
  shown : w'.shown name tenants = w.shown name tenants
  paired : ∀ v v', V v v' → Paired name w w' v v'

theorem Paired.later {n n' : World} {v v' : Option String} (h : Paired name w w' v v') (hr : Renews w n) (hr' : Renews w' n')
    (hs : n.workspace? name = w.workspace? name) (hs' : n'.workspace? name = w'.workspace? name) :
    Paired name n n' v v' := by
  obtain ⟨u, u', rfl, rfl, hu, hu', hiff⟩ := h
  refine ⟨u, u', rfl, rfl, hu.later hr, hu'.later hr', ?_⟩
  unfold World.version?
  rw [hs, hs']
  exact hiff

/-- What is not seen does not tell twins apart. -/
theorem Twin.unseen (h : Twin name tenants V w w') (hm : Unseen name tenants w m) (hm' : Unseen name tenants w' m') :
    Twin name tenants V m m' where
  configMaps := (hm'.configMaps.trans h.configMaps).trans hm.configMaps.symm
  sharedRuntime := (hm'.sharedRuntime.trans h.sharedRuntime).trans hm.sharedRuntime.symm
  workspace := by rw [hm'.workspace, hm.workspace, h.workspace]
  child key hkey := by rw [hm'.child key hkey, hm.child key hkey, h.child key hkey]
  inventory t ht := by rw [hm'.inventory t ht, hm.inventory t ht, h.inventory t ht]
  shown := by rw [hm'.shown, hm.shown, h.shown]
  paired v v' hv := (h.paired v v' hv).later hm.renews hm'.renews hm.workspace hm'.workspace

/-! ## What is done in both -/

theorem Twin.record (h : Twin name tenants V w w') (e : Effect) : Twin name tenants V (w.record e) (w'.record e) := by
  refine ⟨h.configMaps, h.sharedRuntime, h.workspace, h.child, h.inventory, ?_, h.paired⟩
  have hshown : w'.effects.filter (·.shows name tenants) = w.effects.filter (·.shows name tenants) := h.shown
  show (e :: w'.effects).filter _ = (e :: w.effects).filter _
  rw [List.filter_cons, List.filter_cons, hshown]

theorem Twin.addModel (h : Twin name tenants V w w') (ht : tenant ∈ tenants) (model : String) :
    Twin name tenants V (w.addModel tenant model) (w'.addModel tenant model) := by
  refine ⟨h.configMaps, h.sharedRuntime, h.workspace, h.child, fun t ht' => ?_, h.shown, h.paired⟩
  have hkey : ∀ t, w'.runtimeKey t = w.runtimeKey t := fun t => by unfold World.runtimeKey; rw [h.sharedRuntime]
  rw [inventory_addModel, inventory_addModel, hkey, hkey, h.inventory t ht', h.inventory tenant ht]

theorem Twin.addChild (h : Twin name tenants V w w') (child : Object.Child) :
    Twin name tenants V (w.addChild child) (w'.addChild child) := by
  refine ⟨h.configMaps, h.sharedRuntime, h.workspace, fun key hkey => ?_, h.inventory, h.shown, h.paired⟩
  rw [child?_addChild, child?_addChild, h.child key hkey]

theorem Twin.dropNamespace (h : Twin name tenants V w w') (ns : String) :
    Twin name tenants V (w.dropNamespace ns) (w'.dropNamespace ns) := by
  refine ⟨h.configMaps, h.sharedRuntime, h.workspace, fun key hkey => ?_, h.inventory, h.shown, h.paired⟩
  rw [child?_dropNamespace, child?_dropNamespace, h.child key hkey]

theorem Twin.pulled (h : Twin name tenants V w w') (ht : tenant ∈ tenants) (model : String) (begun adds : Bool) (ms : Nat) :
    Twin name tenants V (pulled tenant model begun adds ms w) (pulled tenant model begun adds ms w') := by
  have tasked : ∀ w : World, Unseen name tenants w { w with tasks := w.tasks + 1 } := fun w =>
    (Unseen.refl w).under { w.circumstances with tasks := w.tasks + 1 }
  have struck : ∀ w : World, Unseen name tenants w ((w.struck .pull model).wait ms) := fun w =>
    ((Unseen.refl w).struck ..).wait ms
  have started := h.unseen (tasked w) (tasked w')
  have finished := (started.record (.pulled tenant model)).unseen (struck _) (struck _)
  unfold Simulation.pulled
  cases begun <;> cases adds
  · exact started
  · exact started
  · exact finished
  · exact finished.addModel ht model

/-! ## Writes on the workspace -/

/-- The workspaces of twins are both there or both not. -/
theorem Twin.cases (h : Twin name tenants V w w') : (w.workspace? name = none ∧ w'.workspace? name = none) ∨
    ∃ ws ws', w.workspace? name = some ws ∧ w'.workspace? name = some ws' ∧ ws'.bare = ws.bare := by
  have hbare := h.workspace
  cases hw : w.workspace? name with
  | none =>
    rw [hw] at hbare
    exact .inl ⟨rfl, Option.map_eq_none_iff.1 hbare⟩
  | some ws =>
    rw [hw] at hbare
    obtain ⟨ws', hws', hb⟩ := Option.map_eq_some_iff.1 hbare
    exact .inr ⟨ws, ws', rfl, hws', hb⟩

/-- Only workspaces and versions have changed, and what is stored under `name` has a version given out since. -/
structure Rewritten (name : String) (w m : World) : Prop where
  renews : Renews w m
  configMaps : m.configMaps = w.configMaps
  sharedRuntime : m.sharedRuntime = w.sharedRuntime
  children : m.children = w.children
  runtimes : m.runtimes = w.runtimes
  effects : m.effects = w.effects
  version : ∀ u, Spent w u → m.version? name ≠ some u

/-- Twins whose workspaces are rewritten stay twins, if the same becomes of both. -/
theorem Twin.rewritten (h : Twin name tenants V w w') (hm : Rewritten name w m) (hm' : Rewritten name w' m')
    (hbare : (m'.workspace? name).map Workspace.bare = (m.workspace? name).map Workspace.bare) :
    Twin name tenants V m m' where
  configMaps := by rw [hm.configMaps, hm'.configMaps, h.configMaps]
  sharedRuntime := by rw [hm.sharedRuntime, hm'.sharedRuntime, h.sharedRuntime]
  workspace := hbare
  child key hkey := by
    have hchild := h.child key hkey
    unfold World.child? at hchild ⊢
    rw [hm.children, hm'.children, hchild]
  inventory t ht := by
    have hinventory := h.inventory t ht
    unfold World.inventory World.runtimeKey at hinventory ⊢
    rw [hm.runtimes, hm'.runtimes, hm.sharedRuntime, hm'.sharedRuntime, hinventory]
  shown := by
    have hshown := h.shown
    unfold World.shown at hshown ⊢
    rw [hm.effects, hm'.effects, hshown]
  paired v v' hv := by
    -- what was paired before is past in both
    obtain ⟨u, u', rfl, rfl, hu, hu', -⟩ := h.paired v v' hv
    exact ⟨u, u', rfl, rfl, hu.later hm.renews, hu'.later hm'.renews,
      fun he => absurd he (hm.version u hu), fun he => absurd he (hm'.version u' hu')⟩

theorem rewritten_modify (w : World) (f : Workspace → Workspace) :
    Rewritten name w ((w.modifyWorkspace name f).bump name) := by
  refine ⟨renews_modify .., rfl, rfl, rfl, rfl, rfl, fun u hu => ?_⟩
  unfold World.version?
  rw [workspace?_bump, if_pos rfl, workspace?_modify, if_pos rfl]
  cases w.workspace? name with
  | none => exact nofun
  | some ws => exact fun he => hu _ (Nat.lt_succ_self _) (Option.some.inj he)

theorem workspace?_remove (w : World) : (w.remove name).workspace? name = none :=
  (Dict.get?_erase ..).trans (if_pos rfl)

theorem rewritten_remove (w : World) : Rewritten name w (w.remove name) := by
  refine ⟨renews_remove .., rfl, rfl, rfl, rfl, rfl, fun u _ => ?_⟩
  unfold World.version?
  rw [workspace?_remove]
  exact nofun

theorem rewritten_create {ws : Workspace} (hname : ws.metadata.name = some name) (w : World) :
    Rewritten name w ((w.store ws).bump name) := by
  refine ⟨renews_edit (.create ws) (fun _ he => by cases he; exact hname) w, rfl, rfl, rfl, rfl, rfl, fun u hu => ?_⟩
  unfold World.version?
  rw [workspace?_bump, if_pos rfl, workspace?_store hname, if_pos rfl]
  exact fun he => hu _ (Nat.lt_succ_self _) (Option.some.inj he)

theorem bare_revise (ws : Workspace) (version : Option String) : (revise ws version).bare = ws.bare := rfl

theorem Twin.modify (h : Twin name tenants V w w') {f f' : Workspace → Workspace}
    (hf : ∀ ws ws' : Workspace, ws'.bare = ws.bare → (f' ws').bare = (f ws).bare) :
    Twin name tenants V ((w.modifyWorkspace name f).bump name) ((w'.modifyWorkspace name f').bump name) := by
  refine h.rewritten (rewritten_modify ..) (rewritten_modify ..) ?_
  rw [workspace?_bump, workspace?_bump, workspace?_modify, workspace?_modify]
  simp only [if_true]
  rcases h.cases with ⟨hw, hw'⟩ | ⟨ws, ws', hw, hw', hbare⟩
  · simp only [hw, hw', Option.map_none]
  · simp only [hw, hw', Option.map_some, bare_revise, hf ws ws' hbare]

theorem Twin.remove (h : Twin name tenants V w w') : Twin name tenants V (w.remove name) (w'.remove name) := by
  refine h.rewritten (rewritten_remove w) (rewritten_remove w') ?_
  rw [workspace?_remove, workspace?_remove]

theorem Twin.bump (h : Twin name tenants V w w') : Twin name tenants V (w.bump name) (w'.bump name) := by
  have unchanged : ∀ w : World, w.modifyWorkspace name id = w := by
    intro w
    have hsame : Dict.modify w.workspaces name id = w.workspaces :=
      (List.map_congr_left fun e _ => ite_self e).trans (List.map_id _)
    unfold World.modifyWorkspace
    rw [hsame]
  have hmodify : Twin name tenants V ((w.modifyWorkspace name id).bump name) ((w'.modifyWorkspace name id).bump name) :=
    h.modify fun _ _ hbare => hbare
  rwa [unchanged, unchanged] at hmodify

theorem Twin.writeFinalizers (h : Twin name tenants V w w') (finalizers : List String) :
    Twin name tenants V (writeFinalizers w name finalizers) (writeFinalizers w' name finalizers) := by
  unfold Simulation.writeFinalizers
  rcases h.cases with ⟨hw, hw'⟩ | ⟨ws, ws', hw, hw', hbare⟩
  · rw [hw, hw']
    exact h
  · have hpending : ws'.pendingDeletion = ws.pendingDeletion := (congrArg Workspace.pendingDeletion hbare :)
    rw [hw, hw']
    dsimp only
    rw [hpending]
    split
    · exact h.remove
    · refine h.modify fun ws ws' hbare => ?_
      exact (congrArg (fun ws : Workspace => { ws with metadata := { ws.metadata with finalizers := some finalizers } }) hbare :)

/-- The same change from outside. -/
theorem Twin.edit (h : Twin name tenants V w w') (e : Edit) (hcreate : ∀ ws, e = .create ws → ws.metadata.name = some name) :
    Twin name tenants V (e.apply name w) (e.apply name w') := by
  cases e with
  | create ws =>
    have hname := hcreate ws rfl
    refine h.rewritten (rewritten_create hname w) (rewritten_create hname w') ?_
    show (((w'.store ws).bump name).workspace? name).map Workspace.bare =
      (((w.store ws).bump name).workspace? name).map Workspace.bare
    rw [workspace?_bump, workspace?_bump, workspace?_store hname, workspace?_store hname]
    simp only [if_true, Option.map_some, bare_revise]
  | specify spec =>
    refine h.modify fun ws ws' hbare => ?_
    exact (congrArg (fun ws : Workspace =>
      { ws with spec, metadata := { ws.metadata with generation := ws.metadata.generation.map (· + 1) } }) hbare :)
  | delete at' =>
    refine h.modify fun ws ws' hbare => ?_
    exact (congrArg (fun ws : Workspace => { ws with metadata := { ws.metadata with deletionTimestamp := some at' } }) hbare :)
  | guard finalizers =>
    refine h.modify fun ws ws' hbare => ?_
    exact (congrArg (fun ws : Workspace => { ws with metadata := { ws.metadata with finalizers := some finalizers } }) hbare :)
  | report status =>
    refine h.modify fun ws ws' hbare => ?_
    exact (congrArg (fun ws : Workspace => { ws with status := some status.timeless }) hbare :)
  | remove => exact h.remove

/-! ## Calls in the same circumstances -/

/-- Twins in the same circumstances. -/
structure Even (name : String) (tenants : List String) (V : Pairing) (w w' : World) : Prop
    extends Twin name tenants V w w' where
  circumstances : w'.circumstances = w.circumstances

theorem Twin.under (h : Twin name tenants V w w') (c : Circumstances) : Even name tenants V (w.under c) (w'.under c) :=
  ⟨h.unseen ((Unseen.refl w).under c) ((Unseen.refl w').under c), rfl⟩

theorem Even.record (h : Even name tenants V w w') (e : Effect) : Even name tenants V (w.record e) (w'.record e) :=
  ⟨h.toTwin.record e, h.circumstances⟩

theorem Even.struck (h : Even name tenants V w w') (target : Target) (argument : String) :
    Even name tenants V (w.struck target argument) (w'.struck target argument) :=
  ⟨h.toTwin.unseen ((Unseen.refl w).struck ..) ((Unseen.refl w').struck ..),
    (congrArg (fun c : Circumstances => { c with faults := (meet target argument c.faults).2 }) h.circumstances :)⟩

theorem Even.wait (h : Even name tenants V w w') (ms : Nat) : Even name tenants V (w.wait ms) (w'.wait ms) :=
  ⟨h.toTwin.unseen ((Unseen.refl w).wait ms) ((Unseen.refl w').wait ms),
    (congrArg (fun c : Circumstances => { c with time := c.time + ms }) h.circumstances :)⟩

theorem Even.strikes (h : Even name tenants V w w') (target : Target) (argument : String) :
    (meet target argument w'.faults).1 = (meet target argument w.faults).1 :=
  (congrArg (fun c : Circumstances => (meet target argument c.faults).1) h.circumstances :)

/-- A call to the cluster fails in both worlds, or goes on in both. -/
theorem Even.guarded (h : Even name tenants V w w') (R : Except Error α → Except Error α → Prop)
    (hfail : ∀ e, R (.error e) (.error e)) {target : Target} {argument : String} {go go' : World → Except Error α × World}
    (hgo : Even name tenants V (w.struck target argument) (w'.struck target argument) →
      R (go (w.struck target argument)).1 (go' (w'.struck target argument)).1 ∧
        Twin name tenants V (go (w.struck target argument)).2 (go' (w'.struck target argument)).2) :
    R (guarded target argument w go).1 (guarded target argument w' go').1 ∧
      Twin name tenants V (guarded target argument w go).2 (guarded target argument w' go').2 := by
  have hstruck := h.struck target argument
  unfold Simulation.guarded
  rw [strike_eq, strike_eq, h.strikes]
  rcases (meet target argument w.faults).1 with _ | s
  · exact hgo hstruck
  · cases s with
    | fail e => exact ⟨hfail e, hstruck.toTwin⟩
    | _ => exact hgo hstruck

/-- A call to a runtime fails in both worlds, or goes on in both. -/
theorem Even.runtimeCall (h : Even name tenants V w w') {target : Target} {argument : String}
    {go : Bool → World → α × World}
    (hgo : ∀ b n n', Even name tenants V n n' → (go b n').1 = (go b n).1 ∧ Twin name tenants V (go b n).2 (go b n').2) :
    (runtimeCall target argument w' go).1 = (runtimeCall target argument w go).1 ∧
      Twin name tenants V (runtimeCall target argument w go).2 (runtimeCall target argument w' go).2 := by
  have hstruck := h.struck target argument
  have answered : ∀ b n n', Even name tenants V n n' →
      (Except.ok (go b n').1 : Except Model.Error α) = .ok (go b n).1 ∧ Twin name tenants V (go b n).2 (go b n').2 :=
    fun b n n' hn => ⟨congrArg _ (hgo b n n' hn).1, (hgo b n n' hn).2⟩
  unfold Simulation.runtimeCall
  rw [strike_eq, strike_eq, h.strikes]
  rcases (meet target argument w.faults).1 with _ | s
  · exact answered true _ _ hstruck
  · cases s with
    | failRuntime e => exact ⟨rfl, hstruck.toTwin⟩
    | pretend => exact answered false _ _ hstruck
    | delay ms => exact answered true _ _ (hstruck.wait ms)
    | _ => exact answered true _ _ hstruck

/-- A call that is not about versions and times is answered the same. -/
theorem Even.plain (h : Even name tenants V w w') {c : Call} (hplain : c.Plain) (hc : c.Concerns name tenants) :
    (handle c w').1 = (handle c w).1 ∧ Twin name tenants V (handle c w).2 (handle c w').2 := by
  cases c with
  | workspace => exact hplain.elim
  | setFinalizers => exact hplain.elim
  | patchStatus => exact hplain.elim
  | now => exact hplain.elim
  | childExists child =>
    refine (h.record _).guarded (fun x x' => x' = x) (fun _ => rfl) fun hn => ⟨?_, hn.toTwin⟩
    exact congrArg (fun found : Option Object.Child => Except.ok found.isSome) (hn.child _ hc)
  | createChild child =>
    exact h.guarded (fun x x' => x' = x) (fun _ => rfl) fun hn => ⟨rfl, (hn.toTwin.record _).addChild child⟩
  | deleteNamespace ns =>
    exact h.guarded (fun x x' => x' = x) (fun _ => rfl) fun hn => ⟨rfl, (hn.toTwin.record _).dropNamespace ns⟩
  | readyReplicas ns n =>
    obtain ⟨t, ht, rfl⟩ := hc
    refine (h.record _).guarded (fun x x' => x' = x) (fun _ => rfl) fun hn => ⟨?_, hn.toTwin⟩
    have hset := h.child (.statefulSet, some ns, n) ⟨ns, ht, by simp [Region]⟩
    have hready : w'.ready = w.ready := congrArg Circumstances.ready h.circumstances
    show Except.ok (if (w'.child? (.statefulSet, some ns, n)).isSome then w'.ready else 0) =
      Except.ok (if (w.child? (.statefulSet, some ns, n)).isSome then w.ready else 0)
    rw [hset, hready]
  | configMap ns n =>
    refine (h.record _).guarded (fun x x' => x' = x) (fun _ => rfl) fun hn => ⟨?_, hn.toTwin⟩
    exact congrArg (fun maps => Except.ok (Dict.get? maps (ns ++ "/" ++ n))) hn.configMaps
  | publish event => exact ⟨rfl, h.toTwin.record _⟩
  | openRuntime t => exact ⟨rfl, h.toTwin.record _⟩
  | listModels t =>
    obtain ⟨t, ht, rfl⟩ := hc
    exact (h.record _).runtimeCall fun _ n n' hn => ⟨hn.inventory _ ht, hn.toTwin⟩
  | listRunning t => exact (h.record _).runtimeCall fun _ n n' hn => ⟨rfl, hn.toTwin⟩
  | pull t model limit =>
    obtain ⟨t, ht, rfl⟩ := hc
    obtain ⟨x, begun, adds, ms, hx⟩ := pull_pulled t model limit w
    show (pull t model limit w').1 = (pull t model limit w).1 ∧
      Twin name tenants V (pull t model limit w).2 (pull t model limit w').2
    rw [hx w rfl, hx w' h.circumstances]
    exact ⟨rfl, h.toTwin.pulled ht model begun adds ms⟩
  | createModel t model file =>
    obtain ⟨t, ht, rfl⟩ := hc
    refine (h.record _).runtimeCall fun b n n' hn => ⟨rfl, ?_⟩
    cases b
    · exact hn.toTwin
    · exact hn.toTwin.addModel ht model

/-! ## Readings -/

/-- A reading makes the versions that are stored stand for each other. -/
theorem Twin.read (h : Twin name tenants V w w') (hv : Versioned w) (hv' : Versioned w') :
    ∃ V', V ≤ V' ∧ Likewise V' (.ok (w.workspace? name)) (.ok (w'.workspace? name)) ∧ Twin name tenants V' w w' := by
  rcases h.cases with ⟨hw, hw'⟩ | ⟨ws, ws', hw, hw', hbare⟩
  · rw [hw, hw']
    exact ⟨V, le_rfl, .absent, h⟩
  · obtain ⟨u, hu, hspent⟩ := hv name ws hw
    obtain ⟨u', hu', hspent'⟩ := hv' name ws' hw'
    have hstored : w.version? name = some u := by unfold World.version?; rw [hw]; exact hu
    have hstored' : w'.version? name = some u' := by unfold World.version?; rw [hw']; exact hu'
    rw [hw, hw']
    refine ⟨fun v v' => V v v' ∨ v = some u ∧ v' = some u', fun _ _ => .inl, .found hbare (.inr ⟨hu, hu'⟩),
      { h with paired := ?_ }⟩
    rintro v v' (hv | ⟨rfl, rfl⟩)
    · exact h.paired v v' hv
    · exact ⟨u, u', rfl, rfl, hspent, hspent', by rw [hstored, hstored']; simp⟩

theorem Even.reading (h : Even name tenants V w w') (hv : Versioned w) (hv' : Versioned w') : ∃ V', V ≤ V' ∧
    Likewise V' (handle (.workspace name) w).1 (handle (.workspace name) w').1 ∧
      Twin name tenants V' (handle (.workspace name) w).2 (handle (.workspace name) w').2 := by
  obtain ⟨V', hle, hread, htwin⟩ := h.toTwin.read hv hv'
  have heven : Even name tenants V' w w' := ⟨htwin, h.circumstances⟩
  exact ⟨V', hle, (heven.record _).guarded (Likewise V') .failed fun hn => ⟨hread, hn.toTwin⟩⟩

/-! ## Writes that ask for a version -/

/-- Of versions that stand for each other both are stale, or neither is. -/
theorem Paired.stale {v v' : Option String} (h : Paired name w w' v v') : w'.stale name v' = w.stale name v := by
  obtain ⟨u, u', rfl, rfl, -, -, hiff⟩ := h
  show decide (w'.version? name ≠ some u') = decide (w.version? name ≠ some u)
  exact decide_eq_decide.2 (not_congr hiff.symm)

theorem Even.interfere (h : Even name tenants V w w') : Twin name tenants V (w.interfere name) (w'.interfere name) := by
  have hcount : w'.interference = w.interference := congrArg Circumstances.interference h.circumstances
  have lowered : ∀ w : World, Unseen name tenants w { w with interference := w.interference - 1 } := fun w =>
    (Unseen.refl w).under { w.circumstances with interference := w.interference - 1 }
  unfold World.interfere
  rw [hcount]
  split
  · exact h.toTwin
  · exact hcount ▸ (h.toTwin.unseen (lowered w) (lowered w')).bump

/-- A write is done in both worlds or in none, if the versions that are asked for stand for each other. -/
theorem Even.commits (h : Even name tenants V w w') {v v' : Option String} (hv : V v v') {target : Target}
    {late late' done done' : Effect} (hlate : late.shows name tenants = false) (hlate' : late'.shows name tenants = false)
    (hdone : done.shows name tenants = false) (hdone' : done'.shows name tenants = false) {commit commit' : World → World}
    (hcommit : ∀ n n', Twin name tenants V n n' → Twin name tenants V (commit n) (commit' n')) :
    let r := Simulation.guarded target name w fun w =>
      let w := World.interfere w name
      if w.stale name v then ((conflict name : Except Error Unit), w.record late) else (.ok (), commit (w.record done))
    let r' := Simulation.guarded target name w' fun w =>
      let w := World.interfere w name
      if w.stale name v' then ((conflict name : Except Error Unit), w.record late') else (.ok (), commit' (w.record done'))
    r'.1 = r.1 ∧ Twin name tenants V r.2 r'.2 := by
  refine h.guarded (fun x x' => x' = x) (fun _ => rfl) fun hn => ?_
  have hinterfered := hn.interfere
  dsimp only
  rw [(hinterfered.paired v v' hv).stale]
  split
  · exact ⟨rfl, hinterfered.unseen ((Unseen.refl _).record hlate) ((Unseen.refl _).record hlate')⟩
  · exact ⟨rfl, hcommit _ _ (hinterfered.unseen ((Unseen.refl _).record hdone) ((Unseen.refl _).record hdone'))⟩

theorem Even.guards (h : Even name tenants V w w') {v v' : Option String} (hv : V v v') (finalizers : List String) :
    (handle (.setFinalizers name v' finalizers) w').1 = (handle (.setFinalizers name v finalizers) w).1 ∧
      Twin name tenants V (handle (.setFinalizers name v finalizers) w).2
        (handle (.setFinalizers name v' finalizers) w').2 :=
  h.commits hv rfl rfl rfl rfl fun _ _ hn => hn.writeFinalizers finalizers

theorem Even.status (h : Even name tenants V w w') {v v' : Option String} (hv : V v v') {s s' : Status}
    (hs : s'.timeless = s.timeless) :
    (handle (.patchStatus name v' s') w').1 = (handle (.patchStatus name v s) w).1 ∧
      Twin name tenants V (handle (.patchStatus name v s) w).2 (handle (.patchStatus name v' s') w').2 := by
  refine h.commits hv rfl rfl rfl rfl fun _ _ hn => hn.modify fun ws ws' hbare => ?_
  show ({ ws'.bare with status := some s'.timeless } : Workspace) = { ws.bare with status := some s.timeless }
  rw [hbare, hs]

end Tenancy.Simulation
