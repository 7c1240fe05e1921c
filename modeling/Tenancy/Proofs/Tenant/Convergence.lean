/-
Convergence. If no call fails, a workspace that is to stay gets its guard in one pass, then one child a pass
until none of its plan is missing, and the pass after that finds everything in order and says so. From then
on passes only look (`Run.converges`). Nothing is assumed of where it starts: any of the children may be
there, with any status and any models.
-/
import Tenancy.Proofs.Run.Smooth
import Tenancy.Proofs.Tenant.Provisioning
import Tenancy.Proofs.Workspace.Status

namespace Tenancy.Simulation

open Operator Tenant

variable {others : World → World → Prop} {config : Config} {tenant name : String} {w w' : World} {t : Trace}
  {ws : Workspace}

/-! ## What others may do -/

/-- The settings can be read and used. -/
def Loadable (config : Config) (w : World) : Prop :=
  ∃ m settings, Dict.get? w.configMaps (config.settingsNamespace ++ "/" ++ config.settingsConfigMap) = some m ∧
    Settings.ofConfigMap m = .ok settings

/-- A world that does its part: runtimes are ready and do what they say, and the settings are there. -/
structure Fair (config : Config) (w : World) : Prop where
  honest : Honest w
  ready : expectedReplicas ≤ w.ready
  settings : Loadable config w

/-- Others leave the workspace, its children and its models alone, and the world fair. -/
structure Idle (config : Config) (tenant name : String) (w m : World) : Prop where
  workspace : m.workspace? name = w.workspace? name
  children : ∀ key ∈ planKeys tenant config.scaleToZero, m.child? key = w.child? key
  models : Grows tenant w m
  honest : Honest w → Honest m
  ready : expectedReplicas ≤ w.ready → expectedReplicas ≤ m.ready
  settings : Loadable config w → Loadable config m

theorem Idle.refl (config : Config) (tenant name : String) (w : World) : Idle config tenant name w w :=
  ⟨rfl, fun _ _ => rfl, fun _ he => he, id, id, id⟩

theorem Idle.fair {m : World} (h : Idle config tenant name w m) (hw : Fair config w) : Fair config m :=
  ⟨h.honest hw.honest, h.ready hw.ready, h.settings hw.settings⟩

theorem Idle.outside {m : World} (h : Idle config tenant name w m) :
    Outside tenant name config.scaleToZero w m :=
  ⟨h.children, fun hb ws hws => hb ws (h.workspace ▸ hws)⟩

theorem Fair.handle (h : Fair config w) (c : Call) : Fair config (handle c w).2 := by
  have hs := stands_handle c w
  refine ⟨?_, ?_, ?_⟩
  · exact h.honest.handle c
  · rw [hs.ready]; exact h.ready
  · rw [Loadable, hs.configMaps]; exact h.settings

theorem Plays.fair (h : Plays (Idle config tenant name) w t w') (hw : Fair config w) : Fair config w' :=
  h.keeps (fun _ _ ho => ho.fair) (fun x _ _ _ hm => hm.handle x.call) hw

/-! ## Cleared entries -/

/-- When the gate has been cleared, every target is held. -/
theorem Cleared.holds {done : List Entry} (h : Cleared config ws done t) (hr : .readiness ∈ done)
    (hp : Plays (Idle config ws.workspaceName name) w t w') (hw : Fair config w) :
    ∀ target ∈ targets ws.spec.promptPatterns ws.spec.models, Holds w' ws.workspaceName target.name := by
  obtain ⟨t₁, n, t₂, t₃, rfl, -, hs⟩ := h.synced hr
  obtain ⟨a, hp₁, hp⟩ := (plays_append ..).1 hp
  obtain ⟨b, hfirst, hp⟩ := (plays_append a w' [_, _] _).1 hp
  obtain ⟨c, hp₂, hp₃⟩ := (plays_append ..).1 hp
  have hb := hfirst.fair (hp₁.fair hw)
  intro target ht
  refine Holds.grow ?_ (hp₃.grows fun _ _ ho => ho.models)
  exact Syncs.holds (fun _ _ ho => ho.models) (fun _ _ ho => ho.honest) (syncModels_yields hs) hp₂ hb.honest target ht

/-- When all targets are held, clearing entries brings nothing. -/
theorem Cleared.idle {done : List Entry} (hothers : ∀ w m, others w m → Grows ws.workspaceName w m)
    (h : Cleared config ws done t) (hp : Plays others w t w')
    (hheld : ∀ target ∈ targets ws.spec.promptPatterns ws.spec.models, Holds w ws.workspaceName target.name) :
    ∀ x ∈ t, x.call.writes = false := by
  induction h generalizing w with
  | nil => exact List.forall_mem_nil _
  | ensure _ ih =>
    obtain ⟨m, ho, -, hp⟩ := hp
    refine List.forall_mem_cons.2 ⟨rfl, ih hp fun target ht => (hheld target ht).grow ?_⟩
    exact (hothers _ _ ho).trans (grows_handle _ _)
  | readiness hs _ ih =>
    obtain ⟨m, hp₁, hp₂⟩ := (plays_append ..).1 hp
    have hrest := ih hp₂ fun target ht => (hheld target ht).grow (hp₁.grows hothers)
    refine List.forall_mem_append.2 ⟨?_, hrest⟩
    obtain ⟨n, u, running, rfl, -, hs⟩ := hs.synced
    obtain ⟨b, hfirst, hp₁⟩ := (plays_append w m [_, _] _).1 hp₁
    obtain ⟨c, hsyncs, -⟩ := (plays_append ..).1 hp₁
    have := Syncs.idle hothers (syncModels_yields hs) hsyncs fun target ht =>
      (hheld target ht).grow (hfirst.grows hothers)
    exact List.forall_mem_cons.2 ⟨rfl, List.forall_mem_cons.2 ⟨rfl, List.forall_mem_append.2
      ⟨this, List.forall_mem_singleton.2 rfl⟩⟩⟩

/-- The gate does not hold up a provisioning: when it is reached the runtime is there, and so it is ready. -/
theorem Provisions.not_awaiting (h : Provisions config ws t (.ok .awaitingReadiness))
    (hp : Plays (Idle config ws.workspaceName name) w t w') (hw : Fair config w) : False := by
  cases h with
  | @followed x settings done rest t₁ t₂ _ hs hplan hc hh =>
    cases hh with
    | awaiting h =>
      generalize hres : (Except.ok RuntimeSync.notReady : Except Error RuntimeSync) = r at h
      cases h with
      | unknown | failed => cases hres
      | listed running => cases running <;> cases hres
      | @notReady n hn =>
        -- the stateful set of the runtime stands before the gate
        have hkey : (.statefulSet, some ws.workspaceName, runtimeName ws.workspaceName) ∈ keysOf done := by
          rw [plan_gate hplan]; exact runtime_mem _
        obtain ⟨child, hmem, hk⟩ := mem_keysOf.1 hkey
        have hplanned : keyOf child ∈ planKeys ws.workspaceName config.scaleToZero := by
          rw [hk]; exact List.mem_append_left _ (runtime_mem _)
        have quiet : ∀ y ∈ (⟨.configMap config.settingsNamespace config.settingsConfigMap, x⟩ :: t₁ : Trace),
            y.call.topic ≠ .change :=
          List.forall_mem_cons.2 ⟨nofun, hc.about.ne (by decide)⟩
        obtain ⟨m, hp₁, a, ho, hx, -⟩ := (plays_append w w' (_ :: t₁) _).1 hp
        have hstart := hp₁.found (fun _ _ ho => ho.children _ hplanned) quiet (List.mem_cons_of_mem _ (hc.present hmem))
        have hthere : (a.child? (keyOf child)).isSome = true := by
          rw [ho.children _ hplanned, hp₁.child? (fun _ _ ho => ho.children _ hplanned), changes_eq_nil quiet]
          exact hstart
        have hn' := readyReplicas_answer hx
        rw [← hk, if_pos hthere] at hn'
        exact absurd (hn'.symm ▸ hn) (not_lt.2 (ho.fair (hp₁.fair hw)).ready)

/-! ## Reports -/

/-- A report that ends well leaves the workspace as it is, because it says it already, or writes it. -/
theorem Reports.stored {mark : Bool} {c : Condition} (h : Reports name mark (some c) t (.ok ()))
    (hothers : ∀ w m, others w m → m.workspace? name = w.workspace? name) (hp : Plays others w t w')
    (hws : w.workspace? name = some ws) (hname : ws.metadata.name = some name) :
    ((∀ x ∈ t, x.call.writes = false) ∧ w'.workspace? name = some ws ∧ (mark = true → ws.isCreated = true) ∧
      (ws.status.getD {}).Tells c ws.metadata.generation) ∨
    ∃ now v, w'.workspace? name = some (revise { ws with status := some (Reported ws now mark (some c)) } v) ∧
      ¬((mark = true → ws.isCreated = true) ∧ (ws.status.getD {}).Tells c ws.metadata.generation) := by
  -- what the report reads is what is stored
  have read : ∀ {m : World} {ws' : Option Workspace}, others w m → (handle (.workspace name) m).1 = .ok ws' →
      ws' = some ws := fun ho hx => (workspace_answer hx).symm.trans ((hothers _ _ ho).trans hws)
  cases h with
  | gone =>
    obtain ⟨m, ho, hx, -⟩ := hp
    cases read ho hx
  | @unchanged latest now hsame =>
    obtain ⟨m, ho, hx, n, ho', -, rfl⟩ := id hp
    cases read ho hx
    have htells := Status.sameIgnoringTime_merge_iff.1 hsame
    rw [ws.isCreated_getD] at htells
    refine .inl ⟨by simp [Call.writes], ?_, htells⟩
    exact (hp.workspace? hothers (by simp [Call.topic])).trans hws
  | @written latest now x hsame =>
    obtain ⟨m, ho, hx, n, ho', -, k, ho'', hy, rfl⟩ := hp
    cases read ho hx
    have hk : k.workspace? name = some ws := by
      refine (hothers _ _ ho'').trans ?_
      rw [(handle_question _ rfl n).workspace?, hothers _ _ ho', (handle_question _ rfl m).workspace?, hothers _ _ ho, hws]
    have hnot : ¬((mark = true → ws.isCreated = true) ∧ (ws.status.getD {}).Tells c ws.metadata.generation) := by
      rw [← ws.isCreated_getD]
      exact fun h => Bool.false_ne_true (hsame.symm.trans (Status.sameIgnoringTime_merge_iff.2 h))
    have hn := Workspace.name_of_some hname
    have hrw := workspace_handle (.patchStatus ws.name ws.metadata.resourceVersion (Reported ws now mark (some c))) k
      name
    rw [hk, show (handle _ k).1 = _ from hy, hn] at hrw
    refine .inr ⟨now, ?_⟩
    show ∃ v, (handle (.patchStatus ws.name _ _) k).2.workspace? name = _ ∧ _
    rw [hn]
    generalize (handle (.patchStatus name _ _) k).2.workspace? name = stored at hrw ⊢
    cases hrw with
    | kept _ _ _ hs => exact absurd rfl (hs _ _)
    | reported _ v => exact ⟨v, rfl, hnot⟩

/-! ## What is missing -/

/-- How many keys of the plan nothing is stored under. -/
def missing (tenant : String) (scaled : Bool) (w : World) : Nat :=
  (planKeys tenant scaled).countP fun key => (w.child? key).isNone

theorem missing_congr {scaled : Bool} (h : ∀ key ∈ planKeys tenant scaled, w'.child? key = w.child? key) :
    missing tenant scaled w' = missing tenant scaled w :=
  List.countP_congr fun key hk => by rw [h key hk]

theorem missing_eq_zero {scaled : Bool} :
    missing tenant scaled w = 0 ↔ ∀ key ∈ planKeys tenant scaled, (w.child? key).isSome = true := by
  unfold missing
  rw [List.countP_eq_zero]
  simp only [Option.isNone_iff_eq_none, Option.isSome_iff_ne_none]

/-- A creation fills one gap. -/
theorem missing_created {scaled : Bool} {child : Object.Child} {done rest : List ChildKey}
    (hkeys : planKeys tenant scaled = done ++ keyOf child :: rest) (hnone : w.child? (keyOf child) = none)
    (h : ∀ key ∈ planKeys tenant scaled, w'.child? key = if keyOf child = key then some child else w.child? key) :
    missing tenant scaled w = missing tenant scaled w' + 1 := by
  have hnodup := planKeys_nodup tenant scaled
  -- no other key of the plan is that of the child
  have others : ∀ key ∈ done ++ rest, (w'.child? key).isNone = (w.child? key).isNone := by
    intro key hk
    have hne : keyOf child ≠ key := by
      rintro rfl
      rw [hkeys, List.nodup_middle] at hnodup
      exact (List.nodup_cons.1 hnodup).1 hk
    rw [h key (hkeys ▸ by simp only [List.mem_append, List.mem_cons] at hk ⊢; tauto), if_neg hne]
  have hdone : done.countP (fun key => (w'.child? key).isNone) = done.countP fun key => (w.child? key).isNone :=
    List.countP_congr fun key hk => by rw [others key (List.mem_append_left _ hk)]
  have hrest : rest.countP (fun key => (w'.child? key).isNone) = rest.countP fun key => (w.child? key).isNone :=
    List.countP_congr fun key hk => by rw [others key (List.mem_append_right _ hk)]
  have hfilled : w'.child? (keyOf child) = some child := by
    rw [h _ (hkeys ▸ List.mem_append_right _ (List.mem_cons_self ..)), if_pos rfl]
  unfold missing
  rw [hkeys, List.countP_append, List.countP_append, List.countP_cons_of_pos (by rw [hnone]; rfl),
    List.countP_cons_of_neg (by rw [hfilled]; exact Bool.false_ne_true), hdone, hrest]
  omega

/-! ## One pass -/

/-- A stored workspace that is to stay and can own children, in a fair world. -/
structure Tended (config : Config) (tenant name : String) (w : World) (ws : Workspace) : Prop where
  stored : w.workspace? name = some ws
  whose : ws.workspaceName = tenant
  named : ws.metadata.name = some name
  owned : ws.metadata.uid.isSome = true
  alive : ws.pendingDeletion = false
  fair : Fair config w

/-- One for which nothing is left to do. -/
structure Arrived (config : Config) (tenant name : String) (w : World) (ws : Workspace) : Prop
    extends Tended config tenant name w ws where
  guarded : ws.hasFinalizer = true
  created : ws.isCreated = true
  told : (ws.status.getD {}).Tells .ready ws.metadata.generation
  children : missing tenant config.scaleToZero w = 0
  models : ∀ target ∈ targets ws.spec.promptPatterns ws.spec.models, Holds w tenant target.name

theorem Tended.idle {m : World} (h : Tended config tenant name w ws) (ho : Idle config tenant name w m) :
    Tended config tenant name m ws :=
  ⟨ho.workspace.trans h.stored, h.whose, h.named, h.owned, h.alive, ho.fair h.fair⟩

theorem Arrived.idle {m : World} (h : Arrived config tenant name w ws) (ho : Idle config tenant name w m) :
    Arrived config tenant name m ws :=
  ⟨h.toTended.idle ho, h.guarded, h.created, h.told, (missing_congr ho.children).trans h.children,
    fun target ht => (h.models target ht).grow ho.models⟩

theorem Tended.continues {ws' : Workspace} (h : Tended config tenant name w ws)
    (hs : w'.workspace? name = some ws') (hc : Continues ws ws') (hf : Fair config w') : Tended config tenant name w' ws' := by
  refine ⟨hs, ?_, ?_, ?_, ?_, hf⟩
  · rw [Workspace.workspaceName, hc.spec]; exact h.whose
  · rw [hc.name]; exact h.named
  · rw [hc.uid]; exact h.owned
  · rw [Workspace.pendingDeletion, hc.deletionTimestamp]; exact h.alive

theorem Tended.owner (h : Tended config tenant name w ws) : ws.ownerReference? ≠ none := by
  obtain ⟨uid, hu⟩ := Option.isSome_iff_exists.1 h.owned
  rw [Workspace.ownerReference?_eq_some_iff.2 ⟨name, uid, h.named, hu, rfl⟩]
  nofun

/-- What a pass without failures does for the workspace: it puts the guard on, or fills the first gap, or
finds everything in order and says so. -/
inductive Turn (config : Config) (tenant name : String) (p : Leg) (ws : Workspace) : Prop
  | attached {ws' : Workspace} : ws.hasFinalizer = false → p.result = .ok .immediate → created p.trace = [] →
      Tended config tenant name p.stop ws' → ws'.hasFinalizer = true → ws'.isCreated = ws.isCreated →
      ws'.spec = ws.spec →
      missing tenant config.scaleToZero p.stop = missing tenant config.scaleToZero p.start →
      Turn config tenant name p ws
  | created {ws' : Workspace} : ws.hasFinalizer = true →
      p.result = .ok (if ws.isCreated then .immediate else .success) → (created p.trace).length = 1 →
      Tended config tenant name p.stop ws' → ws'.hasFinalizer = true → ws'.isCreated = ws.isCreated →
      ws'.spec = ws.spec →
      missing tenant config.scaleToZero p.start = missing tenant config.scaleToZero p.stop + 1 →
      Turn config tenant name p ws
  | complete {ws' : Workspace} : ws.hasFinalizer = true → missing tenant config.scaleToZero p.start = 0 →
      p.result = .ok .success → Arrived config tenant name p.stop ws' → ws'.spec = ws.spec →
      (Arrived config tenant name p.start ws → ∀ x ∈ p.trace, x.call.writes = false) →
      Turn config tenant name p ws

/-- The workspace after a report. -/
theorem Tended.reported {mark : Bool} {c : Condition} (h : Tended config tenant name w ws)
    (hr : Reports name mark (some c) t (.ok ())) (hp : Plays (Idle config tenant name) w t w') :
    ∃ ws', Tended config tenant name w' ws' ∧ ws'.spec = ws.spec ∧ ws'.hasFinalizer = ws.hasFinalizer ∧
      ws'.isCreated = (ws.isCreated || mark) ∧ (ws'.status.getD {}).Tells c ws'.metadata.generation := by
  rcases Reports.stored hr (fun _ _ ho => ho.workspace) hp h.stored h.named with
    ⟨-, hs, hmark, htells⟩ | ⟨now, v, hs, -⟩
  · refine ⟨ws, ⟨hs, h.whose, h.named, h.owned, h.alive, hp.fair h.fair⟩, rfl, rfl, ?_, htells⟩
    cases mark with
    | false => exact (Bool.or_false _).symm
    | true => rw [hmark rfl, Bool.or_true]
  · refine ⟨_, h.continues hs ⟨rfl, rfl, rfl, rfl, rfl⟩ (hp.fair h.fair), rfl, rfl, ?_, Status.tells_merge⟩
    show ((ws.status.getD {}).isCreated || mark) = _
    rw [ws.isCreated_getD]

/-- Calls that concern neither guards nor statuses leave it as it is. -/
theorem Tended.kept (h : Tended config tenant name w ws) (hp : Plays (Idle config tenant name) w t w')
    (ht : ∀ x ∈ t, x.call.topic ≠ .guards ∧ x.call.topic ≠ .status) : Tended config tenant name w' ws :=
  ⟨(hp.workspace? (fun _ _ ho => ho.workspace) ht).trans h.stored, h.whose, h.named, h.owned, h.alive, hp.fair h.fair⟩

theorem Tended.attached (h : Tended config tenant name w ws) (hp : Plays (Idle config tenant name) w
      [⟨.workspace name, .ok (some ws)⟩,
        ⟨.setFinalizers ws.name ws.metadata.resourceVersion (ws.finalizers ++ [Workspace.finalizer]), .ok ()⟩] w') :
    ∃ ws', Tended config tenant name w' ws' ∧ ws'.spec = ws.spec ∧ ws'.hasFinalizer = true ∧
      ws'.isCreated = ws.isCreated := by
  have hf := hp.fair h.fair
  obtain ⟨m, hm, n, ho, hy, rfl⟩ := (plays_append w w' [_] _).1 hp
  have hn : n.workspace? name = some ws :=
    ho.workspace.trans (h.kept hm (List.forall_mem_singleton.2 ⟨nofun, nofun⟩)).stored
  have hname := Workspace.name_of_some h.named
  have hrw := workspace_handle (.setFinalizers ws.name ws.metadata.resourceVersion
    (ws.finalizers ++ [Workspace.finalizer])) n name
  rw [hn, show (handle _ n).1 = _ from hy, hname] at hrw
  generalize hstop : (handle (.setFinalizers name _ _) n).2.workspace? name = stored at hrw
  change Fair config (handle (.setFinalizers ws.name _ _) n).2 at hf
  rw [hname] at hf
  show ∃ ws', Tended config tenant name (handle (.setFinalizers ws.name _ _) n).2 ws' ∧ _
  rw [hname]
  generalize hfin : ws.finalizers ++ [Workspace.finalizer] = finalizers at hrw
  cases hrw with
  | kept _ _ hg => exact absurd rfl (hg _ _)
  | released => simp at hfin
  | guarded _ v =>
    subst hfin
    refine ⟨_, h.continues hstop ⟨rfl, rfl, rfl, rfl, rfl⟩ hf, rfl, ?_, rfl⟩
    show (ws.finalizers ++ [Workspace.finalizer]).contains Workspace.finalizer = true
    simp

/-- A provisioning that ends complete has found every child, and the targets are held from then on. -/
theorem Provisions.complete (h : Provisions config ws t (.ok .complete))
    (hp : Plays (Idle config ws.workspaceName name) w t w') (hw : Fair config w) :
    missing ws.workspaceName config.scaleToZero w = 0 ∧ changes t = [] ∧
      (∀ x ∈ t, x.call.topic ≠ .guards ∧ x.call.topic ≠ .status) ∧
      (∀ target ∈ targets ws.spec.promptPatterns ws.spec.models, Holds w' ws.workspaceName target.name) ∧
      ((∀ target ∈ targets ws.spec.promptPatterns ws.spec.models, Holds w ws.workspaceName target.name) →
        ∀ x ∈ t, x.call.writes = false) := by
  obtain ⟨x, settings, t₁, -, rfl, hc⟩ := h.cleared
  have hkeys := keysOf_plan ws settings config
  have habout : Trace.About [.settings, .lookup, .readiness, .models]
      (⟨.configMap config.settingsNamespace config.settingsConfigMap, x⟩ :: t₁) :=
    Trace.about_cons.2 ⟨List.mem_cons_self .., hc.about.mono (List.subset_cons_self ..)⟩
  obtain ⟨m, hfirst, hrest⟩ := (plays_append w w' [_] _).1 hp
  refine ⟨missing_eq_zero.2 fun key hk => ?_, habout.changes (by decide), habout.apart (by decide) (by decide), ?_,
    fun hheld => ?_⟩
  · obtain ⟨child, hmem, rfl⟩ := mem_keysOf.1 (hkeys ▸ hk)
    exact hp.found (fun _ _ ho => ho.children _ hk) (habout.ne (by decide)) (List.mem_cons_of_mem _ (hc.present hmem))
  · refine Cleared.holds hc ?_ hrest (hfirst.fair hw)
    rw [plan_eq]
    exact List.mem_append_right _ (List.mem_cons_self ..)
  · refine List.forall_mem_cons.2 ⟨rfl, Cleared.idle (fun _ _ ho => ho.models) hc hrest fun target ht => ?_⟩
    exact (hheld target ht).grow (hfirst.grows fun _ _ ho => ho.models)

/-- A pass that creates a child leaves the workspace as it is, but for what it reports. -/
theorem Tended.created {child : Object.Child} {c : Condition} {t' : Trace} (h : Tended config tenant name w ws)
    (ha : Attempts config ws child (.ok ()) t) (hr : Reports ws.name false (some c) t' (.ok ()))
    (hp : Plays (Idle config tenant name) w (t ++ t') w') :
    (∃ owner, changes (t ++ t') = [.created (child.setOwner owner)]) ∧ ∃ ws', Tended config tenant name w' ws' ∧
      ws'.spec = ws.spec ∧ ws'.hasFinalizer = ws.hasFinalizer ∧ ws'.isCreated = ws.isCreated := by
  obtain ⟨m, hbuild, hreport⟩ := (plays_append ..).1 hp
  obtain ⟨settings, done, rest, owner, u, hplan, rfl, hu, -, -⟩ := ha.split
  have hother : ∀ x ∈ (u ++ [⟨.createChild (child.setOwner owner), .ok ()⟩] : Trace),
      x.call.topic ≠ .guards ∧ x.call.topic ≠ .status :=
    List.forall_mem_append.2 ⟨hu.apart (by decide) (by decide), List.forall_mem_singleton.2 ⟨nofun, nofun⟩⟩
  rw [Workspace.name_of_some h.named] at hr
  obtain ⟨ws', hw', hspec, hf, hcreated, -⟩ := (h.kept hbuild hother).reported hr hreport
  rw [Bool.or_false] at hcreated
  refine ⟨⟨owner, ?_⟩, ws', hw', hspec, hf, hcreated⟩
  rw [changes_append, changes_append, hu.changes (by decide), hr.about.changes (by decide)]
  rfl

/-- A pass that finds everything in order leaves nothing to do, and changes nothing but the status; if there was
nothing to do before, not even that. -/
theorem Tended.completed {step : Lifecycle.Step} {t' : Trace} (h : Tended config tenant name w ws)
    (hstep : step = if ws.isCreated then .update else .create) (hguard : ws.hasFinalizer = true)
    (hp : Provisions config ws t (.ok .complete)) (hr : Reports ws.name (decide (step = .create)) (some .ready) t' (.ok ()))
    (hplays : Plays (Idle config tenant name) w
      (t ++ (t' ++ if step = .create then [⟨.publish (createdEvent ws), ()⟩] else [])) w') :
    changes (t ++ (t' ++ if step = .create then [⟨.publish (createdEvent ws), ()⟩] else [])) = [] ∧
      missing tenant config.scaleToZero w = 0 ∧ (∃ ws', Arrived config tenant name w' ws' ∧ ws'.spec = ws.spec) ∧
      (Arrived config tenant name w ws →
        ∀ x ∈ t ++ (t' ++ if step = .create then [⟨.publish (createdEvent ws), ()⟩] else []), x.call.writes = false) := by
  obtain rfl := h.whose
  obtain ⟨m, hprovision, hrest⟩ := (plays_append ..).1 hplays
  obtain ⟨n, hreport, hpublish⟩ := (plays_append ..).1 hrest
  obtain ⟨hmissing, hnil, hother, hheld, hquiet⟩ := Provisions.complete hp hprovision h.fair
  have hevents := published_about ws step
  have hm := h.kept hprovision hother
  rw [Workspace.name_of_some h.named] at hr
  obtain ⟨ws', hw', hspec, hf, hcreated, htold⟩ := hm.reported hr hreport
  have hchanges : changes (t ++ (t' ++ if step = .create then [⟨.publish (createdEvent ws), ()⟩] else [])) = [] := by
    rw [changes_append, changes_append, hnil, hr.about.changes (by decide), hevents.changes (by decide)]
    rfl
  have hlast : missing ws.workspaceName config.scaleToZero w' = 0 := by
    rw [← hmissing]
    refine missing_congr fun key hk => ?_
    rw [hplays.child? fun _ _ ho => ho.children key hk, hchanges]
    rfl
  -- a workspace that was not created yet is marked by this pass
  have hmark : ws'.isCreated = true := by
    rw [hcreated, hstep]
    cases ws.isCreated <;> rfl
  refine ⟨hchanges, hmissing, ⟨ws', ⟨hw'.kept hpublish (hevents.apart (by decide) (by decide)), hf.trans hguard, hmark,
    htold, hlast, ?_⟩, hspec⟩, fun harrived => ?_⟩
  · rw [hspec]
    intro target hmem
    refine (hheld target hmem).grow ?_
    exact (hreport.grows fun _ _ ho => ho.models).trans (hpublish.grows fun _ _ ho => ho.models)
  · have hupdate : step = .update := by rw [hstep, harrived.created, if_pos rfl]
    simp only [hupdate, reduceCtorEq, decide_false, if_false, List.append_nil] at hr ⊢
    refine List.forall_mem_append.2 ⟨hquiet harrived.models, ?_⟩
    rcases Reports.stored hr (fun _ _ ho => ho.workspace) hreport hm.stored hm.named with ⟨hw, -⟩ | ⟨_, _, -, hnot⟩
    · exact hw
    · exact absurd ⟨nofun, harrived.told⟩ hnot

/-- In a fair world a pass in which no call fails goes as the workspace and what it finds have it. -/
theorem Leg.Happens.tends {p : Leg} (h : p.Happens (Idle config tenant name)) (hc : p.config = config)
    (hn : p.name = name) (ht : p.trace.Smooth) (hw : Tended config tenant name p.start ws) :
    Tends p.config p.name ws p.trace p.result := by
  subst hc hn
  refine h.trace.smooth ht ?_ hw.alive hw.owner ?_
  · intro x t' he
    obtain ⟨m, ho, hx, -⟩ := (plays_cons ..).1 (he ▸ h.plays)
    exact (workspace_answer hx).symm.trans (ho.workspace.trans hw.stored)
  · intro x hx
    obtain ⟨t₁, t₂, n, m, -, hp, ho, ha, -⟩ := h.plays.moment hx
    obtain ⟨data, settings, hdata, hset⟩ := (ho.fair (hp.fair hw.fair)).settings
    cases x with
    | error e => cases ht _ hx
    | ok found =>
      cases (configMap_answer ha).symm.trans hdata
      exact ⟨settings, by rw [settingsOf, hset]; rfl⟩

theorem Leg.Happens.turn {p : Leg} (h : p.Happens (Idle config tenant name)) (hc : p.config = config)
    (hn : p.name = name) (ht : p.trace.Smooth) (hw : Tended config tenant name p.start ws) :
    Turn config tenant name p ws := by
  have htends := h.tends hc hn ht hw
  obtain rfl := hw.whose
  subst hc hn
  have hplays := h.plays
  have hout : p.Happens (Outside ws.workspaceName p.name p.config.scaleToZero) :=
    ⟨h.yields, hplays.mono fun _ _ ho => ho.outside⟩
  have hprogress := hout.progress rfl rfl fun ws' hws => by
    cases hws.symm.trans hw.stored
    rfl
  have hchild : ∀ key ∈ planKeys ws.workspaceName p.config.scaleToZero,
      p.stop.child? key = (changes p.trace).foldl (remade key) (p.start.child? key) :=
    fun key hk => hplays.child? fun _ _ ho => ho.children key hk
  generalize htrace : p.trace = t at htends
  generalize hresult : p.result = r at htends
  rw [htrace] at hplays
  cases htends with
  | attached hf =>
    have hnil : changes p.trace = [] := by rw [htrace]; rfl
    obtain ⟨ws', hw', hspec, hf', hcreated⟩ := hw.attached hplays
    refine .attached hf hresult (by rw [created, hnil]; rfl) hw' hf' hcreated hspec (missing_congr fun key hk => ?_)
    rw [hchild key hk, hnil]
    rfl
  | provisioned hf hsm =>
    obtain ⟨m, hread, hplays⟩ := (plays_append _ _ [_] _).1 hplays
    have hm := hw.kept hread (List.forall_mem_singleton.2 ⟨nofun, nofun⟩)
    cases hsm with
    | created ha hr =>
      obtain ⟨⟨owner, hcs⟩, ws', hw', hspec, hf', hcreated⟩ := hm.created ha hr hplays
      rw [show changes p.trace = _ by rw [htrace, changes_cons, hcs]] at hprogress hchild
      obtain _ | ⟨hkeys, -, hnone⟩ := hprogress
      refine .created hf (hresult.trans ?_) (by rw [created, htrace, changes_cons, hcs]; rfl) hw' (hf'.trans hf) hcreated
        hspec (missing_created hkeys hnone fun key hk => hchild key hk)
      cases ws.isCreated <;> rfl
    | awaiting hp hr =>
      obtain ⟨n, hprovision, -⟩ := (plays_append ..).1 hplays
      exact (Provisions.not_awaiting hp hprovision hm.fair).elim
    | complete hp hr =>
      obtain ⟨-, hmissing, ⟨ws', harrived, hspec⟩, hquiet⟩ := hm.completed rfl hf hp hr hplays
      refine .complete hf ?_ hresult harrived hspec fun hstart => ?_
      · rw [← hmissing]
        refine (missing_congr fun key hk => ?_).symm
        rw [hread.child? fun _ _ ho => ho.children key hk]
        rfl
      · rw [htrace]
        refine List.forall_mem_cons.2 ⟨rfl, hquiet ⟨hm, hstart.guarded, hstart.created, hstart.told, hmissing, ?_⟩⟩
        exact fun target hmem => (hstart.models target hmem).grow (hread.grows fun _ _ ho => ho.models)

/-! ## Runs -/

variable {ps : List Leg}

/-- Once nothing is left to do, passes only look. -/
theorem Run.rests (h : Run (Idle config tenant name) (Idle config tenant name) w ps w')
    (hps : ∀ p ∈ ps, p.config = config ∧ p.name = name ∧ p.trace.Smooth) (hw : Arrived config tenant name w ws) :
    ∀ p ∈ ps, p.result = .ok .success ∧ (∀ x ∈ p.trace, x.call.writes = false) ∧
      ∃ ws', ws'.spec = ws.spec ∧ Arrived config tenant name p.stop ws' := by
  induction h generalizing ws with
  | rest => exact List.forall_mem_nil _
  | @pass w w' p ps ho hp _ ih =>
    obtain ⟨hc, hn, ht⟩ := hps p (List.mem_cons_self ..)
    have hstart := hw.idle ho
    cases hp.turn hc hn ht hstart.toTended with
    | attached hf => cases hf.symm.trans hw.guarded
    | created _ _ _ _ _ _ _ hm => rw [hstart.children] at hm; omega
    | @complete ws' _ _ hr hstop hspec hquiet =>
      refine List.forall_mem_cons.2 ⟨⟨hr, hquiet hstart, ws', hspec, hstop⟩, ?_⟩
      intro q hq
      obtain ⟨hr, hquiet, ws'', hspec', hstop⟩ := ih (fun q hq => hps q (List.mem_cons_of_mem _ hq)) hstop q hq
      exact ⟨hr, hquiet, ws'', hspec'.trans hspec, hstop⟩

/-- What the pass with a given number does, from a start with `f` guards and `m` children to come. -/
structure Scheduled (config : Config) (tenant name : String) (ws : Workspace) (f m i : Nat) (p : Leg) : Prop where
  attaches : i < f → p.result = .ok .immediate ∧ created p.trace = []
  creates : f ≤ i → i < f + m →
    p.result = .ok (if ws.isCreated then .immediate else .success) ∧ (created p.trace).length = 1
  arrives : f + m ≤ i → p.result = .ok .success ∧ ∃ ws', ws'.spec = ws.spec ∧ Arrived config tenant name p.stop ws'
  rests : f + m < i → ∀ x ∈ p.trace, x.call.writes = false

/-- The guards that are to come. -/
def unguarded (ws : Workspace) : Nat := if ws.hasFinalizer then 0 else 1

theorem Scheduled.later {ws' : Workspace} {f m m' i : Nat} {p : Leg}
    (h : Scheduled config tenant name ws' 0 m' i p) (hcreated : ws'.isCreated = ws.isCreated)
    (hspec : ws'.spec = ws.spec) (hf : f ≤ 1) (hm : f + m = m' + 1) :
    Scheduled config tenant name ws f m (i + 1) p := by
  refine ⟨fun hi => ?_, fun _ hi => ?_, fun hi => ?_, fun hi => h.rests (by omega)⟩
  · omega
  · rw [← hcreated]
    exact h.creates (Nat.zero_le _) (by omega)
  · obtain ⟨hr, ws'', hspec', hstop⟩ := h.arrives (by omega)
    exact ⟨hr, ws'', hspec'.trans hspec, hstop⟩

theorem Run.scheduled (h : Run (Idle config tenant name) (Idle config tenant name) w ps w')
    (hps : ∀ p ∈ ps, p.config = config ∧ p.name = name ∧ p.trace.Smooth) (hw : Tended config tenant name w ws)
    {i : Nat} {p : Leg} (hi : ps[i]? = some p) :
    Scheduled config tenant name ws (unguarded ws) (missing tenant config.scaleToZero w) i p := by
  induction h generalizing ws i with
  | rest => cases hi
  | @pass w w' q qs ho hq hrun ih =>
    obtain ⟨hc, hn, ht⟩ := hps q (List.mem_cons_self ..)
    have hqs : ∀ p ∈ qs, p.config = config ∧ p.name = name ∧ p.trace.Smooth := fun p hp =>
      hps p (List.mem_cons_of_mem _ hp)
    rw [← missing_congr ho.children]
    cases hq.turn hc hn ht (hw.idle ho) with
    | @attached ws' hf hr hcr hstop hf' hcreated hspec hm =>
      -- the next pass starts with the guard on and as many children missing
      have hone : unguarded ws = 1 := by rw [unguarded, hf]; rfl
      rw [hone]
      cases i with
      | zero =>
        cases hi
        exact ⟨fun _ => ⟨hr, hcr⟩, fun h => absurd h (by omega), fun h => absurd h (by omega), fun h => absurd h (by omega)⟩
      | succ i =>
        have := ih hqs hstop hi
        rw [show unguarded ws' = 0 by rw [unguarded, hf']; rfl] at this
        exact this.later hcreated hspec (le_refl _) (by omega)
    | @created ws' hf hr hlen hstop hf' hcreated hspec hm =>
      have hzero : unguarded ws = 0 := by rw [unguarded, hf]; rfl
      rw [hzero]
      cases i with
      | zero =>
        cases hi
        exact ⟨fun h => absurd h (by omega), fun _ _ => ⟨hr, hlen⟩, fun h => absurd h (by omega), fun h => absurd h (by omega)⟩
      | succ i =>
        have := ih hqs hstop hi
        rw [show unguarded ws' = 0 by rw [unguarded, hf']; rfl] at this
        exact this.later hcreated hspec (Nat.zero_le _) (by omega)
    | @complete ws' hf hm hr hstop hspec hquiet =>
      have hzero : unguarded ws = 0 := by rw [unguarded, hf]; rfl
      rw [hzero, hm]
      cases i with
      | zero =>
        cases hi
        exact ⟨fun h => absurd h (by omega), fun _ h => absurd h (by omega), fun _ => ⟨hr, ws', hspec, hstop⟩,
          fun h => absurd h (by omega)⟩
      | succ i =>
        obtain ⟨hr, hquiet, ws'', hspec', hstop⟩ := hrun.rests hqs hstop p (List.mem_of_getElem? hi)
        exact ⟨fun h => absurd h (by omega), fun _ h => absurd h (by omega),
          fun _ => ⟨hr, ws'', hspec'.trans hspec, hstop⟩, fun _ => hquiet⟩

/-! ## What it comes to -/

/-- Everything that a workspace asks for is there, and its status says so. -/
structure Provisioned (config : Config) (name : String) (ws : Workspace) (w : World) : Prop where
  children : ∀ settings, ∀ key ∈ keysOf (plan ws settings config), (w.child? key).isSome = true
  status : ∃ ws' c, w.workspace? name = some ws' ∧ ws'.isCreated = true ∧
    ws'.condition? Condition.readyType = some c ∧ c.status = .yes ∧ c.reason = "ReconciliationSucceeded"
  models : ∀ model ∈ ws.spec.models, Holds w ws.workspaceName model
  variants : ∀ model ∈ ws.spec.models, ∀ pattern ∈ ws.spec.promptPatterns,
    (Model.variant? model pattern).isSome = true → Holds w ws.workspaceName (Model.variantName model pattern)

theorem Arrived.provisioned {ws' : Workspace} (h : Arrived config ws.workspaceName name w ws')
    (hspec : ws'.spec = ws.spec) : Provisioned config name ws w := by
  have hmodels := h.models
  rw [hspec] at hmodels
  refine ⟨fun settings key hk => ?_, ?_, fun model hm => hmodels (.base model) (mem_targets_base hm),
    fun model hm pattern hp hv => ?_⟩
  · exact missing_eq_zero.1 h.children key (keysOf_plan ws settings config ▸ hk)
  · obtain ⟨c, hc, he⟩ := h.told.find?
    have hyes : c.untimed.status = .yes := by rw [he]; rfl
    have hreason : c.untimed.reason = "ReconciliationSucceeded" := by rw [he]; rfl
    refine ⟨ws', c, h.stored, h.created, ?_, hyes, hreason⟩
    cases hs : ws'.status with
    | none => rw [hs] at hc; cases hc
    | some s =>
      rw [hs] at hc
      rw [Workspace.condition?, hs]
      exact hc
  · obtain ⟨file, hf⟩ := Option.isSome_iff_exists.1 hv
    exact hmodels (.variant _ file) (mem_targets_variant hm hp hf)

/-- Convergence from wherever a run of passes is taken up, and rest after it. Let no call fail, and let the
workspace be stored, alive and able to own children. With one pass for the guard if it is missing and one for
each child that is missing, the next pass finds everything there, and says so; every later one writes
nothing. -/
theorem provisioning_converges (h : Run (Idle config ws.workspaceName name) (Idle config ws.workspaceName name) w ps w')
    (hps : ∀ p ∈ ps, p.config = config ∧ p.name = name ∧ p.trace.Smooth) (hstored : w.workspace? name = some ws)
    (hname : ws.metadata.name = some name) (huid : ws.metadata.uid.isSome = true) (halive : ws.pendingDeletion = false)
    (hfair : Fair config w) (settings : Settings) :
    let guards := if ws.hasFinalizer then 0 else 1
    let children := ((keysOf (plan ws settings config)).filter fun key => (w.child? key).isNone).length
    ∀ i p, ps[i]? = some p →
      (i < guards → p.result = .ok .immediate ∧ created p.trace = []) ∧
      (guards ≤ i → i < guards + children →
        p.result = .ok (if ws.isCreated then .immediate else .success) ∧ (created p.trace).length = 1) ∧
      (guards + children ≤ i → p.result = .ok .success ∧ Provisioned config name ws p.stop) ∧
      (guards + children < i → ∀ x ∈ p.trace, x.call.writes = false) := by
  intro guards children i p hi
  have hs := h.scheduled hps ⟨hstored, rfl, hname, huid, halive, hfair⟩ hi
  have hchildren : missing ws.workspaceName config.scaleToZero w = children := by
    unfold missing
    rw [List.countP_eq_length_filter, ← keysOf_plan ws settings config]
  rw [hchildren] at hs
  refine ⟨hs.attaches, hs.creates, fun hi => ?_, hs.rests⟩
  obtain ⟨hr, ws', hspec, harrived⟩ := hs.arrives hi
  exact ⟨hr, harrived.provisioned hspec⟩

/-- A new workspace needs one pass for the guard and twelve for its children. -/
theorem provisioning_converges_newcomer : ∃ p, (passes {} "team" 15 (outpost newcomer)).1[13]? = some p ∧
    Provisioned {} "team" newcomer p.stop := by
  have hrun := run_passes (Idle.refl {} "team-a" "team") (Idle.refl {} "team-a" "team") {} "team" 15 (outpost newcomer)
  have hsmooth : (passes {} "team" 15 (outpost newcomer)).1.all (·.trace.all Answered.succeeds) = true := by
    decide +kernel
  have hps : ∀ p ∈ (passes {} "team" 15 (outpost newcomer)).1, p.config = {} ∧ p.name = "team" ∧ p.trace.Smooth := by
    intro p hp
    obtain ⟨hc, hn⟩ := passes_mem hp
    exact ⟨hc, hn, List.all_eq_true.1 (List.all_eq_true.1 hsmooth p hp)⟩
  have hfair : Fair {} (outpost newcomer) :=
    ⟨List.not_mem_nil, by decide, _, ⟨"example.com", "1", "1"⟩, rfl, by decide +kernel⟩
  have hlength : (passes {} "team" 15 (outpost newcomer)).1.length = 15 := by decide +kernel
  have hlt : 13 < (passes {} "team" 15 (outpost newcomer)).1.length := by rw [hlength]; decide
  refine ⟨_, List.getElem?_eq_getElem hlt, ?_⟩
  have := provisioning_converges hrun hps rfl rfl rfl rfl hfair ⟨"example.com", "1", "1"⟩ 13 _ (List.getElem?_eq_getElem hlt)
  exact (this.2.2.1 (by decide +kernel)).2

end Tenancy.Simulation
