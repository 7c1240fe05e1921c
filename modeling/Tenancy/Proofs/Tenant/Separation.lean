/-
Tenants do not interfere. Workspaces share a cluster and its settings; each has names of tenants allotted to it that
no other has. Whatever passes over them and changes of them come in between, in whatever order, a workspace and its
tenants see the same as if the others had done nothing (`tenants_separate`).

Two systems are followed, with and without what the others do. They stay `Parallel`: their worlds are twins to the
workspace, and what is left of its pass in the one is similar to what is left of it in the other. What others do
is not seen (`Parallel.aside`), and what is done for the workspace is done in both (`Parallel.step`).
-/
import Tenancy.Proofs.Run.System
import Tenancy.Proofs.Run.Twin

namespace Tenancy.Simulation

open Operator

variable {name : String} {allotted : String → List String} {V : Pairing} {w : World} {S S' T T' : System}

/-! ## What is seen of a system -/

/-- Two systems look the same to a workspace and its tenants: its passes ended alike, it is stored alike, up to the
version and the times, and so are the children under the names of the tenants and their models; the same has been
done in their runtimes, and the same been said of the workspace. -/
structure SameView (name : String) (tenants : List String) (S S' : System) : Prop where
  ended : S'.ended name = S.ended name
  workspace : (S'.world.workspace? name).map Workspace.bare = (S.world.workspace? name).map Workspace.bare
  child : ∀ key, Within tenants key → S'.world.child? key = S.world.child? key
  inventory : ∀ t ∈ tenants, S'.world.inventory t = S.world.inventory t
  shown : S'.world.shown name tenants = S.world.shown name tenants

/-! ## What stays so -/

/-- An act that gives the workspace no other name, and no tenant that is not allotted to it. -/
def Act.Keeps (allotted : String → List String) (a : Act) : Prop :=
  match a.move with
  | .edit (.create ws) => ws.metadata.name = some a.name ∧ ws.workspaceName ∈ allotted a.name
  | .edit (.specify spec) => spec.workspaceName ∈ allotted a.name
  | _ => True

/-- Every tenant has a runtime of its own; every workspace is stored under its name, for a tenant that is allotted
to it, and has a version. -/
structure Housed (allotted : String → List String) (w : World) : Prop where
  unshared : w.sharedRuntime = false
  filed : ∀ k ws, w.workspace? k = some ws → ws.metadata.name = some k ∧ ws.workspaceName ∈ allotted k
  versioned : Versioned w

theorem Housed.handle (h : Housed allotted w) (c : Call) : Housed allotted (handle c w).2 := by
  refine ⟨(stands_handle c w).sharedRuntime.trans h.unshared, fun k ws hws => ?_, h.versioned.renews (renews_handle c w)⟩
  obtain ⟨old, hold, hc⟩ := (hws ▸ workspace_handle c w k).continues
  have hfiled := h.filed k old hold
  unfold Workspace.workspaceName at hfiled ⊢
  rwa [hc.name, hc.spec]

theorem Housed.under (h : Housed allotted w) (c : Circumstances) : Housed allotted (w.under c) :=
  ⟨h.unshared, h.filed, h.versioned.renews (renews_of_eq rfl rfl)⟩

theorem Housed.clock (h : Housed allotted w) (now : String) : Housed allotted { w with clock := now } :=
  ⟨h.unshared, h.filed, h.versioned.renews (renews_of_eq rfl rfl)⟩

theorem Housed.modify (h : Housed allotted w) {f : Workspace → Workspace}
    (hf : ∀ ws, ws.metadata.name = some name ∧ ws.workspaceName ∈ allotted name →
      (f ws).metadata.name = some name ∧ (f ws).workspaceName ∈ allotted name) :
    Housed allotted ((w.modifyWorkspace name f).bump name) := by
  refine ⟨h.unshared, fun k ws hws => ?_, h.versioned.renews (renews_modify ..)⟩
  rw [workspace?_bump, workspace?_modify] at hws
  split at hws
  next hk =>
    obtain ⟨new, hnew, rfl⟩ := Option.map_eq_some_iff.1 hws
    obtain ⟨old, hold, rfl⟩ := Option.map_eq_some_iff.1 hnew
    subst hk
    exact hf old (h.filed k old hold)
  next => exact h.filed k ws hws

theorem Act.Keeps.create {e : Edit} (ha : Act.Keeps allotted ⟨name, .edit e⟩) :
    ∀ ws, e = .create ws → ws.metadata.name = some name := by
  rintro ws rfl
  exact ha.1

theorem Housed.edit (h : Housed allotted w) {e : Edit} (ha : Act.Keeps allotted ⟨name, .edit e⟩) :
    Housed allotted (e.apply name w) := by
  have hversioned := h.versioned.renews (renews_edit e ha.create w)
  cases e with
  | create ws =>
    refine ⟨h.unshared, fun k new hnew => ?_, hversioned⟩
    have hstored : ((w.store ws).bump name).workspace? k = some new := hnew
    rw [workspace?_bump, workspace?_store (ha.create ws rfl)] at hstored
    split at hstored
    next hk => cases hstored; exact hk ▸ ha
    next => exact h.filed k new hstored
  | specify spec => exact h.modify fun ws hws => ⟨hws.1, ha⟩
  | remove =>
    refine ⟨h.unshared, fun k ws hws => ?_, hversioned⟩
    have hstored : (if k = name then none else w.workspace? k) = some ws := (Dict.get?_erase ..).symm.trans hws
    split at hstored
    · cases hstored
    · exact h.filed k ws hstored
  | _ => exact h.modify fun ws hws => hws

/-- What is read is filed under its name. -/
theorem Housed.files (h : Housed allotted w) (c : Call) (k : String) : Files k (allotted k) c (Simulation.handle c w).1 := by
  cases c with
  | workspace n =>
    rcases hx : (Simulation.handle (.workspace n) w).1 with e | _ | ws
    · trivial
    · trivial
    · rintro rfl
      exact h.filed n ws (workspace_answer hx)
  | _ => trivial

/-- And every pass keeps to its workspace and the tenants allotted to it. -/
structure Sound (allotted : String → List String) (S : System) : Prop where
  housed : Housed allotted S.world
  running : ∀ k p, S.running k = some p → p.Only (Call.Concerns k (allotted k)) (Files k (allotted k))

theorem Sound.proceed (h : Sound allotted S) {p : Program (Except Error Requeue)}
    (hp : p.Only (Call.Concerns name (allotted name)) (Files name (allotted name))) : Sound allotted (S.proceed name p) := by
  refine ⟨(S.proceed_world name p).symm ▸ h.housed, fun k q hq => ?_⟩
  rcases System.proceed_running_cases hq with hq | ⟨rfl, rfl⟩
  · exact h.running k q hq
  · exact hp

theorem Sound.step (h : Sound allotted S) {a : Act} (ha : a.Keeps allotted) : Sound allotted (S.step a) := by
  obtain ⟨name, move⟩ := a
  have hsteps := S.steps name move
  generalize S.step ⟨name, move⟩ = T at hsteps
  cases hsteps with
  | idle => exact h
  | start => exact h.proceed (only_pass ..)
  | @call c call next hrun =>
    have hcall := h.running _ _ hrun
    have hworld := h.housed.under c
    have hnext : Sound allotted { S with world := (handle call (S.world.under c)).2 } := ⟨hworld.handle call, h.running⟩
    exact hnext.proceed (hcall.2 _ (hworld.files call name))
  | stop =>
    refine ⟨h.housed, fun k p hp => ?_⟩
    have hp : (if k = name then none else S.running k) = some p := hp
    split at hp
    · cases hp
    · exact h.running k p hp
  | edit => exact ⟨h.housed.edit ha, h.running⟩
  | clock => exact ⟨h.housed.clock _, h.running⟩

/-! ## What others do -/

/-- No other workspace has a tenant of this one. -/
def Apart (allotted : String → List String) (name : String) : Prop :=
  ∀ k ≠ name, ∀ t ∈ allotted k, t ∉ allotted name

/-- Nothing has happened that the workspace and its tenants see. -/
structure Aside (name : String) (tenants : List String) (S T : System) : Prop where
  unseen : Unseen name tenants S.world T.world
  running : T.running name = S.running name
  ended : T.ended name = S.ended name

theorem Aside.refl (S : System) : Aside name (allotted name) S S := ⟨.refl _, rfl, rfl⟩

theorem aside_step (hapart : Apart allotted name) (h : Sound allotted S) {a : Act} (ha : a.Keeps allotted)
    (hother : a.name ≠ name) : Aside name (allotted name) S (S.step a) := by
  obtain ⟨k, move⟩ := a
  have proceeds : ∀ {T : System} (p : Program (Except Error Requeue)), Aside name (allotted name) S T →
      Aside name (allotted name) S (T.proceed k p) := fun {T} p hT =>
    ⟨(T.proceed_world k p).symm ▸ hT.unseen, (T.proceed_running k p hother.symm).trans hT.running,
      (T.proceed_ended p hother).trans hT.ended⟩
  have hsteps := S.steps k move
  generalize S.step ⟨k, move⟩ = T at hsteps
  cases hsteps with
  | idle => exact .refl S
  | start => exact proceeds _ (.refl S)
  | @call c call next hrun =>
    have hcall := h.running _ _ hrun
    have hunder : Unseen name (allotted name) S.world (S.world.under c) := (Unseen.refl _).under c
    have hhandled := unseen_handle hcall.1 hother (hapart k hother) (h.housed.under c).unshared
    exact proceeds _ ⟨hunder.trans hhandled, rfl, rfl⟩
  | stop => exact ⟨.refl _, if_neg hother.symm, rfl⟩
  | @edit e => exact ⟨unseen_edit e ha.create hother, rfl, rfl⟩
  | @clock now => exact ⟨(Unseen.refl _).clock now, rfl, rfl⟩

/-! ## Side by side -/

/-- The workspace and its tenants cannot tell two systems apart, nor can the pass that is running. -/
structure Parallel (name : String) (tenants : List String) (S S' : System) : Prop where
  similar : ∃ V, Twin name tenants V S.world S'.world ∧ Option.Rel (Similar V) (S.running name) (S'.running name)
  ended : S'.ended name = S.ended name

theorem Parallel.view {tenants : List String} (h : Parallel name tenants S S') : SameView name tenants S S' := by
  obtain ⟨V, htwin, -⟩ := h.similar
  exact ⟨h.ended, htwin.workspace, htwin.child, htwin.inventory, htwin.shown⟩

/-- What others do in either system is not seen. -/
theorem Parallel.aside {tenants : List String} (h : Parallel name tenants S S') (hT : Aside name tenants S T)
    (hT' : Aside name tenants S' T') : Parallel name tenants T T' := by
  obtain ⟨V, htwin, hrun⟩ := h.similar
  refine ⟨⟨V, htwin.unseen hT.unseen hT'.unseen, ?_⟩, ?_⟩
  · rw [hT.running, hT'.running]
    exact hrun
  · rw [hT.ended, hT'.ended, h.ended]

theorem Parallel.proceed {tenants : List String} (hended : S'.ended name = S.ended name) {m m' : World}
    (htwin : Twin name tenants V m m') {p p' : Program (Except Error Requeue)} (hp : Similar V p p') :
    Parallel name tenants ({ S with world := m }.proceed name p) ({ S' with world := m' }.proceed name p') := by
  have hworld : Twin name tenants V (System.proceed { S with world := m } name p).world
      (System.proceed { S' with world := m' } name p').world := by
    rw [System.proceed_world, System.proceed_world]
    exact htwin
  have goes : ∀ {c c' : Call} {next : c.Answer → Program (Except Error Requeue)}
      {next' : c'.Answer → Program (Except Error Requeue)}, Similar V (.ask c next) (.ask c' next') →
      Option.Rel (Similar V) ((System.proceed { S with world := m } name (.ask c next)).running name)
        ((System.proceed { S' with world := m' } name (.ask c' next')).running name) := by
    intro c c' next next' hsimilar
    show Option.Rel _ ((System.replace { S with world := m } name _).running name)
      ((System.replace { S' with world := m' } name _).running name)
    rw [System.replace_running, System.replace_running]
    exact .some hsimilar
  cases hp with
  | done r =>
    refine ⟨⟨V, hworld, ?_⟩, ?_⟩
    · show Option.Rel _ ((System.replace { S with world := m } name none).running name)
        ((System.replace { S' with world := m' } name none).running name)
      rw [System.replace_running, System.replace_running]
      exact .none
    · rw [System.done_ended, System.done_ended]
      exact congrArg _ hended
  | plain hc hnext => exact ⟨⟨V, hworld, goes (.plain hc hnext)⟩, hended⟩
  | reading hnext => exact ⟨⟨V, hworld, goes (.reading hnext)⟩, hended⟩
  | clock hnext => exact ⟨⟨V, hworld, goes (.clock hnext)⟩, hended⟩
  | guards hv hnext => exact ⟨⟨V, hworld, goes (.guards hv hnext)⟩, hended⟩
  | status hv hs hnext => exact ⟨⟨V, hworld, goes (.status hv hs hnext)⟩, hended⟩

/-- A call in the same circumstances is answered alike, and the passes go on alike. -/
theorem Parallel.answer {tenants : List String} (hended : S'.ended name = S.ended name)
    (htwin : Twin name tenants V S.world S'.world) (hv : Versioned S.world) (hv' : Versioned S'.world) (c : Circumstances)
    {call : Call} {next : call.Answer → Program (Except Error Requeue)} {p' : Program (Except Error Requeue)}
    (hcall : call.Concerns name tenants) (hp : Similar V (.ask call next) p')
    (hrun : S.running name = some (.ask call next)) (hrun' : S'.running name = some p') :
    Parallel name tenants (S.step ⟨name, .call c⟩) (S'.step ⟨name, .call c⟩) := by
  have heven := htwin.under c
  rw [System.step_call hrun]
  cases hp with
  | plain hplain hnext =>
    obtain ⟨hsame, htwin'⟩ := heven.plain hplain hcall
    rw [System.step_call hrun', hsame]
    exact .proceed hended htwin' (hnext _)
  | reading hnext =>
    obtain rfl := hcall
    have hunder := hv.renews (renews_of_eq rfl rfl : Renews S.world (S.world.under c))
    have hunder' := hv'.renews (renews_of_eq rfl rfl : Renews S'.world (S'.world.under c))
    -- the pass may ask for these versions later on, so from here they stand for each other
    obtain ⟨V', hle, hread, htwin'⟩ := heven.reading hunder hunder'
    rw [System.step_call hrun']
    exact .proceed hended htwin' (hnext V' _ _ hle hread)
  | clock hnext =>
    rw [System.step_call hrun']
    exact .proceed hended heven.toTwin (hnext _ _)
  | guards hversion hnext =>
    obtain rfl := hcall
    obtain ⟨hsame, htwin'⟩ := heven.guards hversion _
    rw [System.step_call hrun', hsame]
    exact .proceed hended htwin' (hnext _)
  | status hversion hs hnext =>
    obtain rfl := hcall
    obtain ⟨hsame, htwin'⟩ := heven.status hversion hs
    rw [System.step_call hrun', hsame]
    exact .proceed hended htwin' (hnext _)

/-- What is done for the workspace is done in both systems. -/
theorem Parallel.step (h : Parallel name (allotted name) S S') (hS : Sound allotted S) (hS' : Sound allotted S')
    {move : Move} (ha : Act.Keeps allotted ⟨name, move⟩) :
    Parallel name (allotted name) (S.step ⟨name, move⟩) (S'.step ⟨name, move⟩) := by
  obtain ⟨V, htwin, hrun⟩ := h.similar
  have runs : (S.running name = none ∧ S'.running name = none) ∨
      ∃ p p', S.running name = some p ∧ S'.running name = some p' ∧ Similar V p p' := by
    generalize S.running name = r, S'.running name = r' at hrun
    cases hrun with
    | none => exact .inl ⟨rfl, rfl⟩
    | some hp => exact .inr ⟨_, _, rfl, rfl, hp⟩
  cases move with
  | start config =>
    rcases runs with ⟨hp, hp'⟩ | ⟨p, p', hp, hp', -⟩
    · rw [System.step_start hp, System.step_start hp']
      exact .proceed h.ended htwin (similar_pass V config name)
    · rw [System.step_start_running hp, System.step_start_running hp']
      exact h
  | call c =>
    rcases runs with ⟨hp, hp'⟩ | ⟨p, p', hp, hp', hsimilar⟩
    · rw [System.step_call_none hp, System.step_call_none hp']
      exact h
    · cases p with
      | done r =>
        cases hsimilar
        rw [System.step_call_done hp, System.step_call_done hp']
        exact h
      | ask call next =>
        exact .answer h.ended htwin hS.housed.versioned hS'.housed.versioned c (hS.running _ _ hp).1 hsimilar hp hp'
  | stop =>
    refine ⟨⟨V, htwin, ?_⟩, h.ended⟩
    show Option.Rel _ ((S.replace name none).running name) ((S'.replace name none).running name)
    rw [System.replace_running, System.replace_running]
    exact .none
  | edit e => exact ⟨⟨V, htwin.edit e ha.create, hrun⟩, h.ended⟩
  | clock now => exact ⟨⟨V, htwin.unseen ((Unseen.refl _).clock now) ((Unseen.refl _).clock now), hrun⟩, h.ended⟩

/-- Systems that are parallel stay so, whether or not what some of the others do is left out of the second. -/
theorem Parallel.run (hapart : Apart allotted name) {gone : String → Bool} (hstays : gone name = false) {acts : List Act}
    (hacts : ∀ a ∈ acts, a.Keeps allotted) (hS : Sound allotted S) (hS' : Sound allotted S')
    (h : Parallel name (allotted name) S S') :
    Parallel name (allotted name) (S.run acts) (S'.run (acts.filter fun a => !gone a.name)) := by
  induction acts generalizing S S' with
  | nil => exact h
  | cons a acts ih =>
    have hkeeps := hacts a (List.mem_cons_self ..)
    have hrest := fun b hb => hacts b (List.mem_cons_of_mem a hb)
    by_cases hgone : gone a.name = true
    · -- only the first system takes this step
      have hother : a.name ≠ name := fun he => Bool.false_ne_true (hstays.symm.trans (he ▸ hgone))
      rw [List.filter_cons_of_neg (by simp [hgone])]
      exact ih hrest (hS.step hkeeps) hS' (h.aside (aside_step hapart hS hkeeps hother) (.refl S'))
    · rw [List.filter_cons_of_pos (by simpa using hgone)]
      refine ih hrest (hS.step hkeeps) (hS'.step hkeeps) ?_
      by_cases hown : a.name = name
      · obtain ⟨k, move⟩ := a
        obtain rfl : k = name := hown
        exact h.step hS hS' hkeeps
      · -- both take it, on what need not be the same for the others
        exact h.aside (aside_step hapart hS hkeeps hown) (aside_step hapart hS' hkeeps hown)

/-- Twins of which nothing is read yet. -/
theorem Parallel.refl (w : World) : Parallel name (allotted name) { world := w } { world := w } :=
  ⟨⟨fun _ _ => False, ⟨rfl, rfl, rfl, fun _ _ => rfl, fun _ _ => rfl, rfl, nofun⟩, .none⟩, rfl⟩

/-! ## Separation -/

/-- A workspace and its tenants see the same, whether or not there are passes over other workspaces and changes of
them in between. No two of their plans have a key in common, and no other workspace takes away a child of theirs. -/
theorem tenants_separate (hapart : Apart allotted name) (h : Housed allotted w) {acts : List Act}
    (hacts : ∀ a ∈ acts, a.Keeps allotted) (gone : String → Bool) (hstays : gone name = false) :
    SameView name (allotted name) (System.run { world := w } acts)
        (System.run { world := w } (acts.filter fun a => !gone a.name)) ∧
      (∀ ws ws' : Workspace, ∀ k ≠ name, ws.workspaceName ∈ allotted name → ws'.workspaceName ∈ allotted k →
        ∀ settings settings' config config',
          (Tenant.keysOf (Tenant.plan ws settings config)).Disjoint (Tenant.keysOf (Tenant.plan ws' settings' config'))) ∧
      ∀ ws : Workspace, ∀ k ≠ name, ws.metadata.name = some k → ws.workspaceName ∈ allotted k →
        ∀ m : World, m.sharedRuntime = false → ∀ key, Within (allotted name) key →
          (perform (teardown ws) m).2.child? key = m.child? key := by
  refine ⟨?_, fun ws ws' k hk hws hws' settings settings' config config' key hkey hkey' => ?_,
    fun ws k hk hname hws m hm key hkey => ?_⟩
  · have hsound : Sound allotted { world := w } := ⟨h, nofun⟩
    exact ((Parallel.refl w).run hapart hstays hacts hsound hsound).view
  · rw [Tenant.keysOf_plan] at hkey hkey'
    have hsame := region_unique (region_planKeys hkey) (region_planKeys hkey')
    exact hapart k hk _ hws' (hsame ▸ hws)
  · exact (unseen_run (only_teardown hname hws) hk (hapart k hk) hm).child key hkey

/-! ## Two workspaces next to each other -/

/-- A workspace that is to be provisioned next to one that is to be torn down. -/
def neighbours : World :=
  { outpost newcomer with
    workspaces := [
      ("neighbour", { leaver with
        metadata := { leaver.metadata with name := some "neighbour", uid := some "u2", resourceVersion := some (issued 1) }
        spec := { leaver.spec with workspaceName := "team-b" } }),
      ("team", { newcomer with
        metadata := { newcomer.metadata with finalizers := some [Workspace.finalizer], resourceVersion := some (issued 2) } })]
    versions := 2 }

/-- Each has the tenant that it asks for. -/
def lots : String → List String
  | "team" => ["team-a"]
  | "neighbour" => ["team-b"]
  | _ => []

/-- Both passes run at once, and the guards of the one workspace are changed under its pass. -/
def bustle : List Act :=
  [⟨"team", .start {}⟩, ⟨"neighbour", .start {}⟩, ⟨"neighbour", .call {}⟩] ++
  List.replicate 4 ⟨"team", .call {}⟩ ++
  List.replicate 2 ⟨"neighbour", .call {}⟩ ++
  [⟨"neighbour", .edit (.guard [Workspace.finalizer, "other"])⟩, ⟨"team", .clock "later"⟩] ++
  List.replicate 4 ⟨"neighbour", .call {}⟩ ++
  List.replicate 3 ⟨"team", .call {}⟩

/-- The pass over the one ends as it would without the other, and leaves the same namespace. -/
theorem tenants_separate_neighbours :
    SameView "team" ["team-a"] (System.run { world := neighbours } bustle)
        (System.run { world := neighbours } (bustle.filter fun a => !decide (a.name = "neighbour"))) ∧
      (System.run { world := neighbours } bustle).results.map (·.1) = ["team", "neighbour"] ∧
      ((System.run { world := neighbours } bustle).world.child? (.namespace, none, "team-a")).isSome = true := by
  have hapart : Apart lots "team" := by
    intro k hk t ht
    unfold lots at ht
    split at ht
    · exact absurd rfl hk
    · obtain rfl := List.mem_singleton.1 ht
      decide
    · cases ht
  have hstored : ∀ k ws, neighbours.workspace? k = some ws →
      (ws.metadata.name = some k ∧ ws.workspaceName ∈ lots k) ∧
        ∃ v, ws.metadata.resourceVersion = some v ∧ Spent neighbours v := by
    intro k ws hws
    change (if "neighbour" = k then some _ else if "team" = k then some _ else none) = some ws at hws
    split at hws
    next hk =>
      cases hws
      exact hk ▸ ⟨⟨rfl, List.mem_singleton.2 rfl⟩, _, rfl, spent_issued (by decide)⟩
    next =>
      split at hws
      next hk =>
        cases hws
        exact hk ▸ ⟨⟨rfl, List.mem_singleton.2 rfl⟩, _, rfl, spent_issued (by decide)⟩
      next => cases hws
  have hhoused : Housed lots neighbours :=
    ⟨rfl, fun k ws hws => (hstored k ws hws).1, fun k ws hws => (hstored k ws hws).2⟩
  have hacts : ∀ a ∈ bustle, a.Keeps lots := by simp [bustle, Act.Keeps]
  exact ⟨(tenants_separate hapart hhoused hacts (fun k => decide (k = "neighbour")) (by decide)).1,
    by decide +kernel, by decide +kernel⟩

end Tenancy.Simulation
