/-
What a workspace and its tenants see of a world: the workspace itself, what lies under the names of the tenants, what
their runtimes hold, and the record of what is done there. A call about another workspace and other tenants is not
seen (`unseen_handle`), nor is a change of another workspace from outside (`unseen_edit`).
-/
import Tenancy.Proofs.Run.Similar
import Tenancy.Proofs.Run.Version
import Tenancy.Simulation.Interleaving

namespace Tenancy.Simulation

open Operator

variable {α : Type} {name tenant k s : String} {tenants others : List String} {w m : World}

/-! ## Seeing -/

/-- What is done in the runtimes of the tenants, and what is said of the workspace. -/
def Effect.shows (name : String) (tenants : List String) : Effect → Bool
  | .published event => decide (event.reference.name = some name)
  | .openedRuntime t | .listedModels t | .listedRunning t | .pulled t _ | .madeModel t _ _ => decide (t ∈ tenants)
  | _ => false

def World.shown (w : World) (name : String) (tenants : List String) : List Effect :=
  w.effects.filter (·.shows name tenants)

/-- The key is under the name of one of the tenants. -/
def Within (tenants : List String) (key : ChildKey) : Prop := ∃ t ∈ tenants, Region t key

/-- Nothing has changed that the workspace and its tenants see, and versions have only been added. -/
structure Unseen (name : String) (tenants : List String) (w m : World) : Prop where
  configMaps : m.configMaps = w.configMaps
  sharedRuntime : m.sharedRuntime = w.sharedRuntime
  workspace : m.workspace? name = w.workspace? name
  child : ∀ key, Within tenants key → m.child? key = w.child? key
  inventory : ∀ t ∈ tenants, m.inventory t = w.inventory t
  shown : m.shown name tenants = w.shown name tenants
  renews : Renews w m

theorem Unseen.refl (w : World) : Unseen name tenants w w :=
  ⟨rfl, rfl, rfl, fun _ _ => rfl, fun _ _ => rfl, rfl, .refl w⟩

theorem Unseen.trans {n : World} (h : Unseen name tenants w m) (h' : Unseen name tenants m n) : Unseen name tenants w n :=
  ⟨h'.configMaps.trans h.configMaps, h'.sharedRuntime.trans h.sharedRuntime, h'.workspace.trans h.workspace,
    fun key hkey => (h'.child key hkey).trans (h.child key hkey), fun t ht => (h'.inventory t ht).trans (h.inventory t ht),
    h'.shown.trans h.shown, h.renews.trans h'.renews⟩

theorem Unseen.record (h : Unseen name tenants w m) {e : Effect} (he : e.shows name tenants = false) :
    Unseen name tenants w (m.record e) := by
  refine ⟨h.configMaps, h.sharedRuntime, h.workspace, h.child, h.inventory, ?_, h.renews.trans (renews_of_eq rfl rfl)⟩
  show (e :: m.effects).filter _ = _
  rw [List.filter_cons_of_neg (by simp [he])]
  exact h.shown

/-- Under other circumstances the same is seen. -/
theorem Unseen.under (h : Unseen name tenants w m) (c : Circumstances) : Unseen name tenants w (m.under c) :=
  ⟨h.configMaps, h.sharedRuntime, h.workspace, h.child, h.inventory, h.shown, h.renews.trans (renews_of_eq rfl rfl)⟩

theorem Unseen.clock (h : Unseen name tenants w m) (now : String) : Unseen name tenants w { m with clock := now } :=
  ⟨h.configMaps, h.sharedRuntime, h.workspace, h.child, h.inventory, h.shown, h.renews.trans (renews_of_eq rfl rfl)⟩

theorem Unseen.struck (h : Unseen name tenants w m) (target : Target) (argument : String) :
    Unseen name tenants w (m.struck target argument) :=
  h.under { m.circumstances with faults := (meet target argument m.faults).2 }

theorem Unseen.wait (h : Unseen name tenants w m) (ms : Nat) : Unseen name tenants w (m.wait ms) :=
  h.under { m.circumstances with time := m.time + ms }

theorem Unseen.guarded {target : Target} {argument : String} {go : World → Except Error α × World}
    (h : Unseen name tenants w m) (hgo : ∀ n, Unseen name tenants w n → Unseen name tenants w (go n).2) :
    Unseen name tenants w (guarded target argument m go).2 := by
  rcases guarded_cases target argument m go with ⟨e, hg⟩ | hg <;> rw [hg]
  · exact h.struck ..
  · exact hgo _ (h.struck ..)

theorem Unseen.runtimeCall {target : Target} {argument : String} {go : Bool → World → α × World}
    (h : Unseen name tenants w m) (hgo : ∀ b n, Unseen name tenants w n → Unseen name tenants w (go b n).2) :
    Unseen name tenants w (runtimeCall target argument m go).2 := by
  rcases runtimeCall_cases target argument m go with ⟨e, hg⟩ | ⟨b, ms, -, hg⟩ <;> rw [hg]
  · exact h.struck ..
  · exact hgo b _ ((h.struck ..).wait ms)

/-! ## What others change -/

/-- The runtimes of other tenants are not seen. -/
theorem Unseen.addModel (h : Unseen name tenants w m) (hs : s ∉ tenants) (hw : w.sharedRuntime = false)
    (model : String) : Unseen name tenants w (m.addModel s model) := by
  refine ⟨h.configMaps, h.sharedRuntime, h.workspace, h.child, fun t ht => ?_, h.shown,
    h.renews.trans (renews_of_eq rfl rfl)⟩
  have hkey : m.runtimeKey t ≠ m.runtimeKey s := by
    unfold World.runtimeKey
    rw [h.sharedRuntime, hw]
    exact ne_of_mem_of_not_mem ht hs
  rw [inventory_addModel, if_neg hkey]
  exact h.inventory t ht

/-- A child is under the name of one tenant at most. -/
theorem region_unique {key : ChildKey} (h : Region tenant key) (hs : Region s key) : s = tenant := by
  unfold Region at h hs
  split at h
  next hkind =>
    rw [if_pos hkind, h] at hs
    exact (congrArg Prod.snd hs).symm
  next hkind =>
    rw [if_neg hkind] at hs
    exact Option.some.inj (hs.symm.trans h)

/-- What is under the name of one tenant does not go with another. -/
theorem region_goesWith {key : ChildKey} (h : Region tenant key) (hs : s ≠ tenant) :
    World.goesWith s key = false := by
  unfold Region at h
  unfold World.goesWith
  split at h
  next hkind => simp [h, hs.symm]
  next hkind => simp [hkind, h, hs.symm]

theorem Unseen.addChild (h : Unseen name tenants w m) (hs : s ∉ tenants) {child : Object.Child}
    (hchild : Region s (keyOf child)) : Unseen name tenants w (m.addChild child) := by
  refine ⟨h.configMaps, h.sharedRuntime, h.workspace, fun key hkey => ?_, h.inventory, h.shown,
    h.renews.trans (renews_of_eq rfl rfl)⟩
  have hother : keyOf child ≠ key := by
    rintro rfl
    obtain ⟨t, ht, hregion⟩ := hkey
    exact hs (region_unique hregion hchild ▸ ht)
  rw [child?_addChild, if_neg hother]
  exact h.child key hkey

theorem Unseen.dropNamespace (h : Unseen name tenants w m) (hs : s ∉ tenants) :
    Unseen name tenants w (m.dropNamespace s) := by
  refine ⟨h.configMaps, h.sharedRuntime, h.workspace, fun key hkey => ?_, h.inventory, h.shown,
    h.renews.trans (renews_of_eq rfl rfl)⟩
  obtain ⟨t, ht, hregion⟩ := hkey
  rw [child?_dropNamespace, region_goesWith hregion (ne_of_mem_of_not_mem ht hs).symm]
  exact h.child key ⟨t, ht, hregion⟩

/-- A write on another workspace is not seen. -/
theorem Unseen.modify (h : Unseen name tenants w m) (hk : k ≠ name) (f : Workspace → Workspace) :
    Unseen name tenants w ((m.modifyWorkspace k f).bump k) := by
  refine ⟨h.configMaps, h.sharedRuntime, ?_, h.child, h.inventory, h.shown, h.renews.trans (renews_modify ..)⟩
  rw [workspace?_bump, if_neg hk.symm, workspace?_modify, if_neg hk.symm]
  exact h.workspace

theorem Unseen.bump (h : Unseen name tenants w m) (hk : k ≠ name) : Unseen name tenants w (m.bump k) := by
  refine ⟨h.configMaps, h.sharedRuntime, ?_, h.child, h.inventory, h.shown, h.renews.trans (renews_bump ..)⟩
  rw [workspace?_bump, if_neg hk.symm]
  exact h.workspace

theorem Unseen.remove (h : Unseen name tenants w m) (hk : k ≠ name) : Unseen name tenants w (m.remove k) := by
  refine ⟨h.configMaps, h.sharedRuntime, ?_, h.child, h.inventory, h.shown, h.renews.trans (renews_remove ..)⟩
  exact ((Dict.get?_erase ..).trans (if_neg hk.symm)).trans h.workspace

theorem Unseen.interfere (h : Unseen name tenants w m) (hk : k ≠ name) : Unseen name tenants w (m.interfere k) := by
  unfold World.interfere
  split
  · exact h
  · exact (h.under { m.circumstances with interference := m.interference - 1 }).bump hk

theorem Unseen.writeFinalizers (h : Unseen name tenants w m) (hk : k ≠ name) (finalizers : List String) :
    Unseen name tenants w (writeFinalizers m k finalizers) := by
  unfold Simulation.writeFinalizers
  split
  · exact h
  · split
    · exact h.remove hk
    · exact h.modify hk _

/-! ## Pulls -/

/-- What a pull leaves: a task more; if it has begun, its record and the time it took; and the model, if it got that
far. -/
def pulled (tenant model : String) (begun adds : Bool) (ms : Nat) (w : World) : World :=
  let w := { w with tasks := w.tasks + 1 }
  if begun then
    let w := ((w.record (.pulled tenant model)).struck .pull model).wait ms
    if adds then w.addModel tenant model else w
  else w

theorem giveUp_waits (w : World) (limit : Nat) : ∃ x ms, ∀ w' : World, w'.circumstances = w.circumstances →
    giveUp w' limit = (x, w'.wait ms) := by
  have same : ∀ w' : World, w'.circumstances = w.circumstances → w'.time = w.time ∧ w'.cancelAt = w.cancelAt :=
    fun w' h => ⟨congrArg Circumstances.time h, congrArg Circumstances.cancelAt h⟩
  cases hc : w.cancelAt with
  | none =>
    refine ⟨.timedOut, limit, fun w' h => ?_⟩
    unfold giveUp
    rw [(same w' h).2, hc]
  | some t =>
    by_cases ht : t < w.time + limit
    · refine ⟨.cancelled, max w.time t - w.time, fun w' h => ?_⟩
      unfold giveUp World.wait
      rw [(same w' h).2, hc]
      simp only [(same w' h).1, ht, if_true]
      congr 2
      omega
    · refine ⟨.timedOut, limit, fun w' h => ?_⟩
      unfold giveUp
      rw [(same w' h).2, hc]
      simp only [(same w' h).1, ht, if_false]

theorem awaitPull_waits (t model : String) (limit ms : Nat) (w : World) : ∃ x, ∃ adds : Bool, ∃ d,
    ∀ w' : World, w'.circumstances = w.circumstances →
      awaitPull t model limit ms w' = (x, if adds then (w'.wait d).addModel t model else w'.wait d) := by
  have same : ∀ w' : World, w'.circumstances = w.circumstances →
      w'.cancelAt.all (w'.time + ms < ·) = w.cancelAt.all (w.time + ms < ·) :=
    fun w' h => (congrArg (fun c : Circumstances => c.cancelAt.all (c.time + ms < ·)) h :)
  by_cases hms : ms < limit ∧ w.cancelAt.all (w.time + ms < ·)
  · refine ⟨.finished (.ok ()), true, ms, fun w' h => ?_⟩
    unfold awaitPull
    rw [same w' h, if_pos hms, if_pos rfl]
  · obtain ⟨x, d, hx⟩ := giveUp_waits w limit
    refine ⟨x, false, d, fun w' h => ?_⟩
    unfold awaitPull
    rw [same w' h, if_neg hms, if_neg Bool.false_ne_true]
    exact hx w' h

/-- What becomes of a pull whose task has begun, by the fault that it meets. -/
def begunPull (t model : String) (limit : Nat) (w : World) : Option Strike → PullEnd × World
  | some (.failRuntime e) => (.finished (.error e), w)
  | some .collapse => (.collapsed ("task " ++ toString w.tasks ++ " panicked"), w)
  | some .pretend => (.finished (.ok ()), w)
  | some .hang => giveUp w limit
  | some (.delay d) => awaitPull t model limit d w
  | _ => (.finished (.ok ()), w.addModel t model)

theorem pull_begun (t model : String) (limit : Duration) (w : World) (hc : w.cancelled = false)
    (hlimit : limit.nanos / 1000000 ≠ 0) : pull t model limit w =
      begunPull t model (limit.nanos / 1000000)
        ((World.record { w with tasks := w.tasks + 1 } (.pulled t model)).struck .pull model) (meet .pull model w.faults).1 := by
  have hcancelled : World.cancelled { w with tasks := w.tasks + 1 } = false := hc
  have hfaults : (World.record { w with tasks := w.tasks + 1 } (.pulled t model)).faults = w.faults := rfl
  unfold pull
  simp only [hcancelled, Bool.false_eq_true, hlimit, if_false, strike_eq, hfaults]
  rcases hs : (meet .pull model w.faults).1 with _ | s <;> rewrite [hs]
  · rfl
  · cases s <;> rfl

/-- How a pull goes depends on the circumstances only. -/
theorem pull_pulled (t model : String) (limit : Duration) (w : World) : ∃ x begun adds ms,
    ∀ w' : World, w'.circumstances = w.circumstances → pull t model limit w' = (x, pulled t model begun adds ms w') := by
  have cancels : ∀ w' : World, w'.circumstances = w.circumstances → w'.cancelled = w.cancelled := by
    intro w' h
    exact (congrArg (fun c : Circumstances => c.cancelAt.any (· ≤ c.time)) h :)
  cases hc : w.cancelled with
  | true =>
    refine ⟨.cancelled, false, false, 0, fun w' h => ?_⟩
    have hcancelled : World.cancelled { w' with tasks := w'.tasks + 1 } = true := (cancels w' h).trans hc
    unfold pull
    simp only [hcancelled, if_true]
    rfl
  | false =>
  by_cases hlimit : limit.nanos / 1000000 = 0
  · refine ⟨.timedOut, false, false, 0, fun w' h => ?_⟩
    have hcancelled : World.cancelled { w' with tasks := w'.tasks + 1 } = false := (cancels w' h).trans hc
    unfold pull
    simp only [hcancelled, Bool.false_eq_true, hlimit, if_true, if_false]
    rfl
  -- from here on the task has begun, and the fault that it meets decides
  have begins : ∀ w' : World, w'.circumstances = w.circumstances → pull t model limit w' =
      begunPull t model (limit.nanos / 1000000)
        ((World.record { w' with tasks := w'.tasks + 1 } (.pulled t model)).struck .pull model) (meet .pull model w.faults).1 := by
    intro w' h
    have hfaults : w'.faults = w.faults := congrArg Circumstances.faults h
    rw [pull_begun t model limit w' ((cancels w' h).trans hc) hlimit, hfaults]
  have after : ∀ w' : World, w'.circumstances = w.circumstances →
      ((World.record { w' with tasks := w'.tasks + 1 } (.pulled t model)).struck .pull model).circumstances =
        ((World.record { w with tasks := w.tasks + 1 } (.pulled t model)).struck .pull model).circumstances :=
    fun w' h => (congrArg (fun c : Circumstances =>
      { c with faults := (meet Target.pull model c.faults).2, tasks := c.tasks + 1 }) h :)
  rcases hs : (meet .pull model w.faults).1 with _ | s
  · exact ⟨_, true, true, 0, fun w' h => by rw [begins w' h, hs]; rfl⟩
  cases s with
  | fail e => exact ⟨_, true, true, 0, fun w' h => by rw [begins w' h, hs]; rfl⟩
  | failRuntime e => exact ⟨_, true, false, 0, fun w' h => by rw [begins w' h, hs]; rfl⟩
  | collapse =>
    refine ⟨.collapsed ("task " ++ toString (w.tasks + 1) ++ " panicked"), true, false, 0, fun w' h => ?_⟩
    have htasks : w'.tasks = w.tasks := (congrArg Circumstances.tasks h :)
    rw [begins w' h, hs, ← htasks]
    rfl
  | pretend => exact ⟨_, true, false, 0, fun w' h => by rw [begins w' h, hs]; rfl⟩
  | hang =>
    obtain ⟨x, ms, hx⟩ := giveUp_waits _ (limit.nanos / 1000000)
    exact ⟨x, true, false, ms, fun w' h => by rw [begins w' h, hs]; exact hx _ (after w' h)⟩
  | delay d =>
    obtain ⟨x, adds, ms, hx⟩ := awaitPull_waits t model (limit.nanos / 1000000) d _
    refine ⟨x, true, adds, ms, fun w' h => ?_⟩
    rw [begins w' h, hs]
    exact hx _ (after w' h)

/-! ## Calls of others -/

theorem Unseen.pulled (h : Unseen name tenants w m) (hs : s ∉ tenants) (hw : w.sharedRuntime = false) (model : String)
    (begun adds : Bool) (ms : Nat) : Unseen name tenants w (pulled s model begun adds ms m) := by
  have started : Unseen name tenants w { m with tasks := m.tasks + 1 } :=
    h.under { m.circumstances with tasks := m.tasks + 1 }
  have finished := ((started.record (e := .pulled s model) (by simpa [Effect.shows] using hs)).struck .pull model).wait ms
  unfold Simulation.pulled
  cases begun <;> cases adds
  · exact started
  · exact started
  · exact finished
  · exact finished.addModel hs hw model

/-- A write on another workspace is not seen, whether it is done or refused. -/
theorem Unseen.commits (h : Unseen name tenants w m) (hk : k ≠ name) {target : Target} {version : Option String}
    {late done : Effect} {commit : World → World} (hlate : late.shows name tenants = false)
    (hdone : done.shows name tenants = false)
    (hcommit : ∀ n, Unseen name tenants w n → Unseen name tenants w (commit n)) :
    Unseen name tenants w (Simulation.guarded target k m fun w =>
      let w := w.interfere k
      if w.stale k version then ((conflict k : Except Error Unit), w.record late)
      else (.ok (), commit (w.record done))).2 := by
  refine h.guarded fun n hn => ?_
  dsimp only
  split
  · exact (hn.interfere hk).record hlate
  · exact hcommit _ ((hn.interfere hk).record hdone)

/-- A call about another workspace and other tenants is not seen. -/
theorem unseen_handle {c : Call} (hc : c.Concerns k others) (hk : k ≠ name)
    (hothers : ∀ s ∈ others, s ∉ tenants) (hw : w.sharedRuntime = false) : Unseen name tenants w (handle c w).2 := by
  have h : Unseen name tenants w w := .refl w
  cases c with
  | workspace n => exact (h.record rfl).guarded fun _ hn => hn
  | setFinalizers n version finalizers =>
    obtain rfl : n = k := hc
    exact h.commits hk rfl rfl fun _ hn => hn.writeFinalizers hk finalizers
  | patchStatus n version status =>
    obtain rfl : n = k := hc
    exact h.commits hk rfl rfl fun _ hn => hn.modify hk _
  | childExists child => exact (h.record rfl).guarded fun _ hn => hn
  | createChild child =>
    obtain ⟨s, hs, hchild⟩ := hc
    exact h.guarded fun _ hn => (hn.record rfl).addChild (hothers s hs) hchild
  | deleteNamespace s =>
    exact h.guarded fun _ hn => (hn.record rfl).dropNamespace (hothers s hc)
  | readyReplicas ns n => exact (h.record rfl).guarded fun _ hn => hn
  | configMap ns n => exact (h.record rfl).guarded fun _ hn => hn
  | publish event =>
    refine h.record ?_
    have hne : ¬event.reference.name = some name := fun he => hk (Option.some.inj (hc.symm.trans he))
    simpa [Effect.shows] using hne
  | openRuntime t =>
    obtain ⟨s, hs, rfl⟩ := hc
    exact h.record (by simpa [Effect.shows] using hothers _ hs)
  | listModels t =>
    obtain ⟨s, hs, rfl⟩ := hc
    exact (h.record (by simpa [Effect.shows] using hothers _ hs)).runtimeCall fun _ _ hn => hn
  | listRunning t =>
    obtain ⟨s, hs, rfl⟩ := hc
    exact (h.record (by simpa [Effect.shows] using hothers _ hs)).runtimeCall fun _ _ hn => hn
  | pull t model limit =>
    obtain ⟨s, hs, rfl⟩ := hc
    obtain ⟨x, begun, adds, ms, hx⟩ := pull_pulled t model limit w
    show Unseen name tenants w (pull t model limit w).2
    rw [hx w rfl]
    exact h.pulled (hothers _ hs) hw model begun adds ms
  | createModel t model file =>
    obtain ⟨s, hs, rfl⟩ := hc
    refine (h.record (by simpa [Effect.shows] using hothers _ hs)).runtimeCall fun b n hn => ?_
    cases b
    · exact hn
    · exact hn.addModel (hothers _ hs) hw model
  | now => exact h

/-- Nor is a program that makes only such calls. -/
theorem unseen_run {p : Program α} (hp : p.Only (Call.Concerns k others) fun _ _ => True) (hk : k ≠ name)
    (hothers : ∀ s ∈ others, s ∉ tenants) (hw : w.sharedRuntime = false) :
    Unseen name tenants w (Program.run handle p w).2 := by
  induction p generalizing w with
  | done a => exact .refl w
  | ask c next ih =>
    have hstep : Unseen name tenants w (handle c w).2 := unseen_handle hp.1 hk hothers hw
    exact hstep.trans (ih _ (hp.2 _ trivial) (hstep.sharedRuntime.trans hw))

/-! ## Changes from outside -/

theorem workspace?_store {ws : Workspace} (hname : ws.metadata.name = some k) (w : World) (j : String) :
    (w.store ws).workspace? j = if j = k then some ws else w.workspace? j := by
  unfold World.store World.workspace?
  rw [hname]
  exact Dict.get?_insert ..

/-- What is stored from outside has a new version. -/
theorem renews_edit (e : Edit) (hcreate : ∀ ws, e = .create ws → ws.metadata.name = some k) (w : World) :
    Renews w (e.apply k w) := by
  cases e with
  | create ws =>
    refine ⟨Nat.le_succ _, fun j new hnew => ?_⟩
    have hnew' : ((w.store ws).bump k).workspace? j = some new := hnew
    rw [workspace?_bump, workspace?_store (hcreate ws rfl)] at hnew'
    split at hnew'
    · cases hnew'
      exact .inr ⟨w.versions + 1, rfl, Nat.lt_succ_self _, le_rfl⟩
    · exact .inl hnew'
  | remove => exact renews_remove ..
  | _ => exact renews_modify ..

/-- A change of another workspace is not seen. -/
theorem unseen_edit (e : Edit) (hcreate : ∀ ws, e = .create ws → ws.metadata.name = some k) (hk : k ≠ name) :
    Unseen name tenants w (e.apply k w) := by
  have h : Unseen name tenants w w := .refl w
  have hrenews := renews_edit e hcreate w
  cases e with
  | create ws =>
    refine ⟨rfl, rfl, ?_, fun _ _ => rfl, fun _ _ => rfl, rfl, hrenews⟩
    show ((w.store ws).bump k).workspace? name = _
    rw [workspace?_bump, if_neg hk.symm, workspace?_store (hcreate ws rfl), if_neg hk.symm]
  | remove => exact h.remove hk
  | _ => exact h.modify hk _

end Tenancy.Simulation
