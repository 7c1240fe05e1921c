/-
What becomes of a workspace that is to be deleted. One that was created goes through its deletion in a single pass
in which nothing fails: what lies under its namespace is gone, the deletion is announced, and the guard is off
(`pass_deletes`). One that was never created is stuck: a pass over it reads it and does nothing else
(`Leg.Happens.stuck`), so its guard stays on however often it is looked at. And passes stop for good only where there
is no guard any more (`PassTrace.never`). All three together are `deletion_outcome`.
-/
import Tenancy.Proofs.Run.Schedule
import Tenancy.Proofs.Workspace.Guard

namespace Tenancy.Operator

open Lifecycle

variable {config : Config} {name : String} {t : Trace} {ws : Workspace}

/-- The guards of a workspace without the reconciler's own. -/
def foreign (ws : Workspace) : List String := ws.finalizers.filter (· ≠ Workspace.finalizer)

theorem finalizer_not_mem_foreign (ws : Workspace) : Workspace.finalizer ∉ foreign ws := by
  simp [foreign]

/-! ## When passes stop -/

theorem ProvisionPass.requeues {step : Step} {requeue : Requeue} (h : ProvisionPass config ws step t (.ok requeue)) :
    requeue ≠ .never := by
  generalize hr : (Except.ok requeue : Except Error Requeue) = r at h
  cases h with
  | failed | unmarked => cases hr
  | complete => cases hr; simp
  | @created _ _ _ _ x =>
    cases x with
    | error => cases hr
    | ok =>
      cases hr
      split <;> simp
  | @awaiting _ _ x =>
    cases x with
    | error => cases hr
    | ok => cases hr; simp

/-- A pass asks for no other if there is no workspace, or if it has just taken the guard off. -/
theorem PassTrace.never (h : PassTrace config name t (.ok .never)) :
    t = [⟨.workspace name, .ok none⟩] ∨ ∃ ws, select (.of ws) = some .delete ∧
      t = [⟨.workspace name, .ok (some ws)⟩, ⟨.deleteNamespace ws.workspaceName, .ok ()⟩,
        ⟨.publish (deletingEvent ws), ()⟩,
        ⟨.setFinalizers ws.name ws.metadata.resourceVersion (foreign ws), .ok ()⟩] := by
  generalize hr : (Except.ok Requeue.never : Except Error Requeue) = r at h
  cases h with
  | unread | resting | failed => cases hr
  | absent => exact .inl rfl
  | @done ws step u requeue hs hstep =>
    obtain rfl : requeue = .never := (Except.ok.inj hr).symm
    generalize hr : (Except.ok Requeue.never : Except Error Requeue) = r at hstep
    cases hstep with
    | guarded | abandoned | undeleted => cases hr
    | attached x => cases x <;> cases hr
    | created hp | updated hp =>
      subst hr
      exact absurd rfl hp.requeues
    | deleted x =>
      cases x with
      | error => cases hr
      | ok => exact .inr ⟨ws, hs, rfl⟩

end Tenancy.Operator

namespace Tenancy.Simulation

open Operator Lifecycle

/-- The event that was published, if one was. -/
def Effect.event? : Effect → Option Event
  | .published event => some event
  | _ => none

variable {others between : World → World → Prop} {config : Config} {name : String} {w m w' : World}
  {ws : Workspace} {ps : List Leg}

/-! ## Deletions that go through -/

theorem perform_bind {α β : Type} (o : Operation α) (f : α → Operation β) (w : World) :
    perform (o >>= f) w = match perform o w with
      | (.ok a, m) => perform (f a) m
      | (.error e, m) => (.error e, m) := by
  unfold perform
  rw [Operation.run_bind]
  rcases Program.run handle o.run w with ⟨_ | a, m⟩ <;> rfl

/-- The world in which the guard comes off: the namespace has been deleted, and the deletion announced. -/
def announced (ws : Workspace) (w : World) : World :=
  ((w.record (.deletedNamespace ws.workspaceName)).dropNamespace ws.workspaceName).record (.published (deletingEvent ws))

/-- The guard comes off. -/
def released (ws : Workspace) (w : World) : World :=
  writeFinalizers (w.record (.setFinalizers ws.name ws.metadata.resourceVersion (foreign ws))) ws.name (foreign ws)

theorem Calm.record (h : Calm w) (e : Effect) : Calm (w.record e) := ⟨h.faults, h.interference⟩

theorem Calm.teardown (h : Calm w) (hws : w.workspace? ws.name = some ws) :
    perform (teardown ws) w = (.ok (), released ws (announced ws w)) := by
  have hdeleted : perform (Operation.deleteNamespace ws.workspaceName) w =
      (.ok (), (w.record (.deletedNamespace ws.workspaceName)).dropNamespace ws.workspaceName) :=
    h.guarded ..
  have hpublished (m : World) : perform (Operation.publish (deletingEvent ws)) m =
      (.ok (), m.record (.published (deletingEvent ws))) := rfl
  -- nothing of this touched the workspace, so the version that was read is still the stored one
  have hcalm : Calm (announced ws w) := ⟨h.faults, h.interference⟩
  have hwritten : perform (Operation.setFinalizers ws.name ws.metadata.resourceVersion (foreign ws)) (announced ws w) =
      (.ok (), released ws (announced ws w)) :=
    hcalm.setFinalizers hws (foreign ws)
  unfold Operator.teardown
  rw [perform_bind, hdeleted]
  dsimp only
  rw [perform_bind, hpublished]
  exact hwritten

/-- In a calm world a pass over a workspace that is to go through its deletion comes to its end. -/
theorem pass_deletes (config : Config) (hcalm : Calm w) (hws : w.workspace? ws.name = some ws)
    (hselect : select (.of ws) = some .delete) :
    pass config ws.name w = (.ok .never, released ws (announced ws (w.record (.readWorkspace ws.name)))) := by
  have hmid := hcalm.record (.readWorkspace ws.name)
  have hread : perform (Operation.workspace ws.name) w = (.ok (some ws), w.record (.readWorkspace ws.name)) := by
    rw [← hws]
    exact hmid.guarded ..
  have hstep : Program.run handle (runStep config ws .delete).run (w.record (.readWorkspace ws.name)) =
      (.ok .never, released ws (announced ws (w.record (.readWorkspace ws.name)))) := by
    show perform (teardown ws >>= fun _ => return Requeue.never) _ = _
    rw [perform_bind, hmid.teardown hws]
    rfl
  unfold pass Operator.pass
  rw [perform_bind, hread]
  simp only [hselect]
  show Program.run handle (settle config ws.name ws .delete) _ = _
  unfold settle
  rw [Program.bind_eq, Program.run_bind, hstep]
  rfl

/-- What a deletion that goes through leaves of the world. -/
structure Deleted (ws : Workspace) (w w' : World) : Prop where
  children : ∀ key, w'.child? key = if World.goesWith ws.workspaceName key then none else w.child? key
  effects : w'.effects = .setFinalizers ws.name ws.metadata.resourceVersion (foreign ws) ::
    .published
      { reference := ws.reference, type := .warning, reason := "Deleting", action := "Delete"
        note := some ("Deleting namespace " ++ ws.workspaceName) } ::
    .deletedNamespace ws.workspaceName :: .readWorkspace ws.name :: w.effects
  removed : foreign ws = [] → w'.workspace? ws.name = none
  kept : foreign ws ≠ [] → ∃ v, w'.workspace? ws.name =
    some (revise { ws with metadata := { ws.metadata with finalizers := some (foreign ws) } } v)
  others : ∀ k, k ≠ ws.name → w'.workspace? k = w.workspace? k
  runtimes : w'.runtimes = w.runtimes

theorem effects_writeFinalizers (m : World) (finalizers : List String) :
    (writeFinalizers m name finalizers).effects = m.effects := by
  unfold writeFinalizers
  split
  · rfl
  · split <;> rfl

theorem deleted_released (hws : w.workspace? ws.name = some ws) (hpending : ws.pendingDeletion = true) :
    Deleted ws w (released ws (announced ws (w.record (.readWorkspace ws.name)))) := by
  unfold released
  generalize hm : (announced ws (w.record (.readWorkspace ws.name))).record
    (.setFinalizers ws.name ws.metadata.resourceVersion (foreign ws)) = m
  have hworkspace (k : String) : m.workspace? k = w.workspace? k := by rw [← hm]; rfl
  obtain ⟨-, hchildren, hruntimes⟩ := writeFinalizers_frame m ws.name (foreign ws)
  obtain ⟨v, hv⟩ := workspace?_writeFinalizers_self ((hworkspace _).trans hws) (foreign ws)
  rw [hpending, Bool.and_true] at hv
  constructor
  case children =>
    intro key
    have hdropped : m.child? key = (w.dropNamespace ws.workspaceName).child? key := by rw [← hm]; rfl
    rw [World.child?, hchildren]
    exact hdropped.trans (child?_dropNamespace ..)
  case effects =>
    rw [effects_writeFinalizers, ← hm]
    rfl
  case removed =>
    intro hnone
    rw [hv, if_pos (List.isEmpty_iff.2 hnone)]
  case kept =>
    intro hsome
    rw [hv, if_neg (fun h => hsome (List.isEmpty_iff.1 h))]
    exact ⟨v, rfl⟩
  case others =>
    intro k hk
    rw [workspace?_writeFinalizers _ _ _ _ hk, hworkspace]
  case runtimes =>
    rw [hruntimes, ← hm]
    rfl

/-! ## Deletions that never begin -/

/-- Under `name` a workspace is stored that is to be deleted and was never created. -/
def Stuck (name : String) (w : World) : Prop :=
  ∃ ws, w.workspace? name = some ws ∧ ws.isCreated = false ∧ ws.pendingDeletion = true

/-- The same is stored in both worlds, and the same has been announced; faults, clocks, pods and settings may differ. -/
structure Untouched (w m : World) : Prop where
  workspaces : m.workspaces = w.workspaces
  children : m.children = w.children
  runtimes : m.runtimes = w.runtimes
  events : m.effects.filterMap Effect.event? = w.effects.filterMap Effect.event?

theorem Untouched.refl (w : World) : Untouched w w := ⟨rfl, rfl, rfl, rfl⟩

theorem Untouched.trans {n : World} (h : Untouched w m) (h' : Untouched m n) : Untouched w n :=
  ⟨h'.workspaces.trans h.workspaces, h'.children.trans h.children, h'.runtimes.trans h.runtimes,
    h'.events.trans h.events⟩

theorem Untouched.stuck (h : Untouched w m) (hw : Stuck name w) : Stuck name m := by
  unfold Stuck World.workspace?
  rw [h.workspaces]
  exact hw

/-- A reading touches nothing. -/
theorem untouched_reading (name : String) (w : World) : Untouched w (handle (.workspace name) w).2 := by
  have halike := handle_question (.workspace name) rfl w
  refine ⟨halike.workspaces, halike.children, halike.runtimes, ?_⟩
  rcases guarded_cases .workspace name (w.record (.readWorkspace name)) (fun w => (.ok (w.workspace? name), w))
    with ⟨e, h⟩ | h
  · exact congrArg (fun x => x.2.effects.filterMap Effect.event?) h
  · exact congrArg (fun x => x.2.effects.filterMap Effect.event?) h

/-- A pass over a workspace that is stuck reads it, and that is all. -/
theorem Leg.Happens.stuck {p : Leg} (h : p.Happens others) (hw : Stuck p.name p.start)
    (hothers : ∀ w m, others w m → Stuck p.name w → Stuck p.name m) : ∃ m x, others p.start m ∧
      p.trace = [⟨.workspace p.name, x⟩] ∧ p.result = x.map (fun _ => .success) ∧
      p.stop = (handle (.workspace p.name) m).2 := by
  have hplays := h.plays
  have ht := h.trace
  -- what is read, if anything is, is stuck
  have read : ∀ {t : Trace} {found : Option Workspace},
      Plays others p.start (⟨.workspace p.name, .ok found⟩ :: t) p.stop → ∃ ws, found = some ws ∧
        select (.of ws) = some .abandon := by
    rintro t found ⟨m, ho, hx, -⟩
    obtain ⟨ws, hws, hcreated, hpending⟩ := hothers _ _ ho hw
    exact ⟨ws, (workspace_answer hx).symm.trans hws, (select_iff .abandon).2 ⟨hcreated, hpending⟩⟩
  generalize p.trace = t at ht hplays ⊢
  generalize p.result = r at ht ⊢
  cases ht with
  | unread e =>
    obtain ⟨m, ho, -, hstop⟩ := hplays
    exact ⟨m, .error e, ho, rfl, rfl, hstop⟩
  | absent =>
    obtain ⟨ws, hws, -⟩ := read hplays
    cases hws
  | resting hs =>
    obtain ⟨ws, hws, habandon⟩ := read hplays
    cases hws
    cases hs.symm.trans habandon
  | @done ws step u requeue hs hstep =>
    obtain ⟨ws', hws, habandon⟩ := read hplays
    cases hws
    obtain rfl := Option.some.inj (hs.symm.trans habandon)
    generalize hr : (Except.ok requeue : Except Error Requeue) = r at hstep
    cases hstep
    cases hr
    obtain ⟨m, ho, -, hstop⟩ := hplays
    exact ⟨m, .ok (some ws), ho, rfl, rfl, hstop⟩
  | failed hs hstep =>
    obtain ⟨ws', hws, habandon⟩ := read hplays
    cases hws
    obtain rfl := Option.some.inj (hs.symm.trans habandon)
    generalize hr : (Except.error _ : Except Error Requeue) = r at hstep
    cases hstep
    cases hr

/-- Nothing comes of any number of passes over a workspace that is stuck. -/
theorem Run.untouched (h : Run Untouched Untouched w ps w') (hw : Stuck name w) (hps : ∀ p ∈ ps, p.name = name) :
    Untouched w w' := by
  have hkeeps : Stuck name w' ∧ Untouched w w' := by
    refine h.keeps (P := fun m => Stuck name m ∧ Untouched w m) ?_ ?_ ⟨hw, .refl w⟩
    · rintro n m hnm ⟨hstuck, hn⟩
      exact ⟨hnm.stuck hstuck, hn.trans hnm⟩
    · rintro p hp hhap ⟨hstuck, hn⟩
      obtain rfl := hps p hp
      obtain ⟨m, -, ho, -, -, hstop⟩ := hhap.stuck hstuck fun _ _ ho => ho.stuck
      have hpass : Untouched p.start p.stop := by
        rw [hstop]
        exact ho.trans (untouched_reading ..)
      exact ⟨hpass.stuck hstuck, hn.trans hpass⟩
  exact hkeeps.2

/-! ## Passes that are the last -/

/-- The pass has just taken the guard off the workspace that it read. -/
def Leg.Releases (p : Leg) : Prop := ∃ ws, ws.hasFinalizer = true ∧
  p.trace = [⟨.workspace p.name, .ok (some ws)⟩, ⟨.deleteNamespace ws.workspaceName, .ok ()⟩,
    ⟨.publish (deletingEvent ws), ()⟩,
    ⟨.setFinalizers p.name ws.metadata.resourceVersion (foreign ws), .ok ()⟩]

/-- A write of guards that went well leaves those that it wrote. -/
theorem guarded_setFinalizers {version : Option String} {guards : List String}
    (h : (handle (.setFinalizers name version guards) w).1 = .ok ()) (hnot : Workspace.finalizer ∉ guards) :
    ¬Guarded name (handle (.setFinalizers name version guards) w).2 := by
  rintro ⟨ws, hws, hguard⟩
  have hrw := workspace_handle (.setFinalizers name version guards) w name
  rw [hws, h] at hrw
  generalize hx : (⟨.setFinalizers name version guards, .ok ()⟩ : Answered) = x at hrw
  generalize w.workspace? name = before at hrw
  generalize hafter : some ws = after at hrw
  cases hrw with
  | absent | released => cases hafter
  | kept _ _ hno _ => exact hno _ _ hx.symm
  | reported => cases hx
  | guarded old v =>
    cases hafter
    cases hx
    exact hnot (List.contains_iff_mem.1 hguard)

/-- A pass that asks for no other leaves no guard. -/
theorem Leg.Happens.last {p : Leg} (h : p.Happens others) (hstart : Named p.start)
    (hothers : ∀ w m, others w m → Named w → Named m) (hnever : p.result = .ok .never) :
    (p.trace = [⟨.workspace p.name, .ok none⟩] ∨ p.Releases) ∧ ¬Guarded p.name p.stop := by
  have hplays := h.plays
  have ht := h.trace
  rw [hnever] at ht
  unfold Leg.Releases
  generalize p.trace = t at ht hplays ⊢
  rcases ht.never with rfl | ⟨ws, hs, rfl⟩
  · refine ⟨.inl rfl, ?_⟩
    obtain ⟨m, -, hx, hstop⟩ := hplays
    rintro ⟨ws, hws, -⟩
    rw [(plays_nil ..).1 hstop, (handle_question (.workspace p.name) rfl m).workspace?, workspace_answer hx] at hws
    cases hws
  · obtain ⟨m, ho, hread, hrest⟩ := hplays
    have hname : ws.name = p.name := Workspace.name_of_some (hothers _ _ ho hstart _ _ (workspace_answer hread))
    rw [hname] at hrest ⊢
    obtain ⟨-, -, -, -, -, -, k, -, hx, hstop⟩ := hrest
    refine ⟨.inr ⟨ws, ((select_iff .delete).1 hs).1, rfl⟩, ?_⟩
    rw [(plays_nil ..).1 hstop]
    exact guarded_setFinalizers hx (finalizer_not_mem_foreign ws)

/-! ## What it comes to -/

/-- What becomes of a request for deletion. A stored workspace that has the guard and was created goes in one pass
in a calm world: nothing that goes with its namespace is left, the deletion is announced, and the workspace is removed
or stored with the guards of others; the pass asks for no other. One that was never created stays: whatever fails,
each of any number of passes reads it and does nothing else, so nothing stored changes, nothing is announced, and the
guard stays on. And in every run in which workspaces keep their names, a pass asks for no other only if it found no
workspace or has just taken the guard off; where a guard is left, the workspace is looked at again after some time. -/
theorem deletion_outcome :
    (∀ (config : Config) (w : World) (ws : Workspace), Calm w → w.workspace? ws.name = some ws →
      ws.hasFinalizer = true → ws.pendingDeletion = true → ws.isCreated = true →
      (pass config ws.name w).1 = .ok .never ∧ Deleted ws w (pass config ws.name w).2) ∧
    (∀ (name : String) (w w' : World) (ps : List Leg), Stuck name w → (∀ p ∈ ps, p.name = name) →
      (Run Untouched Untouched w ps w' → Untouched w w' ∧ (Guarded name w → Guarded name w')) ∧
      ∀ others between : World → World → Prop, (∀ n m, others n m → Stuck name n → Stuck name m) →
        (∀ n m, between n m → Stuck name n → Stuck name m) → Run others between w ps w' →
        ∀ p ∈ ps, ∃ x, p.trace = [⟨.workspace name, x⟩] ∧ p.result = x.map fun _ => .success) ∧
    ∀ (others between : World → World → Prop) (w w' : World) (ps : List Leg),
      (∀ n m, others n m → Named n → Named m) → (∀ n m, between n m → Named n → Named m) →
      Run others between w ps w' → Named w → ∀ p ∈ ps,
        (p.result = .ok .never → p.trace = [⟨.workspace p.name, .ok none⟩] ∨ p.Releases) ∧
        (Guarded p.name p.stop → ∀ requeue, p.result = .ok requeue → (requeue.after p.config).isSome = true) := by
  refine ⟨?_, ?_, ?_⟩
  · intro config w ws hcalm hws hguard hpending hcreated
    rw [pass_deletes config hcalm hws ((select_iff .delete).2 ⟨hguard, hcreated, hpending⟩)]
    exact ⟨rfl, deleted_released hws hpending⟩
  · intro name w w' ps hw hps
    constructor
    · intro h
      have huntouched := h.untouched hw hps
      refine ⟨huntouched, fun hguarded => ?_⟩
      unfold Guarded World.workspace?
      rw [huntouched.workspaces]
      exact hguarded
    · intro others between hothers hbetween h p hp
      obtain rfl := hps p hp
      have hstart : Stuck p.name p.start := by
        refine h.starts hbetween (fun q hq hhap hstuck => ?_) hw hp
        rw [← hps q hq] at hothers hstuck ⊢
        obtain ⟨m, -, ho, -, -, hstop⟩ := hhap.stuck hstuck hothers
        rw [hstop]
        exact (untouched_reading ..).stuck (hothers _ _ ho hstuck)
      obtain ⟨m, x, -, htrace, hresult, -⟩ := (h.happens hp).stuck hstart hothers
      exact ⟨x, htrace, hresult⟩
  · intro others between w w' ps hothers hbetween h hw p hp
    have hstart : Named p.start :=
      h.starts hbetween (fun q _ hq => hq.plays.keeps hothers fun x _ _ _ hm => hm.handle x.call) hw hp
    have hlast := (h.happens hp).last hstart hothers
    refine ⟨fun hnever => (hlast hnever).1, fun hguarded requeue hresult => ?_⟩
    cases requeue with
    | never => exact absurd hguarded (hlast hresult).2
    | immediate | success | readiness => rfl

/-- A workspace to be deleted that somebody else guards as well. -/
def lingerer : Workspace :=
  { leaver with metadata := { leaver.metadata with finalizers := some ["backup/hold", Workspace.finalizer] } }

/-- A workspace to be deleted that was never created. -/
def unborn : Workspace := { leaver with status := none }

/-- The one is left with the guard of the other, the other is left as it is by three passes, and a workspace that
nobody else guards is done with after one. -/
theorem deletion_outcome_leavers :
    ((pass {} "team" (outpost lingerer)).1 = .ok .never ∧
      ∃ ws, (pass {} "team" (outpost lingerer)).2.workspace? "team" = some ws ∧ ws.finalizers = ["backup/hold"]) ∧
    (Guarded "team" (passes {} "team" 3 (outpost unborn)).2 ∧
      ∀ p ∈ (passes {} "team" 3 (outpost unborn)).1, ∃ x, p.trace = [⟨.workspace "team", x⟩]) ∧
    ∀ p ∈ (passes {} "team" 2 (outpost leaver)).1, p.result = .ok .never →
      p.trace = [⟨.workspace p.name, .ok none⟩] ∨ p.Releases := by
  obtain ⟨hgoes, hstays, hlast⟩ := deletion_outcome
  refine ⟨?_, ?_, ?_⟩
  · obtain ⟨hresult, hdeleted⟩ := hgoes {} (outpost lingerer) lingerer ⟨by decide, rfl⟩ rfl rfl rfl rfl
    obtain ⟨v, hv⟩ := hdeleted.kept (by decide)
    have hforeign : foreign lingerer = ["backup/hold"] := by decide
    exact ⟨hresult, _, hv, hforeign⟩
  · have hstuck : Stuck "team" (outpost unborn) := ⟨unborn, rfl, rfl, rfl⟩
    have hrun := run_passes Untouched.refl Untouched.refl {} "team" 3 (outpost unborn)
    obtain ⟨hsame, htraces⟩ := hstays "team" _ _ _ hstuck fun p hp => (passes_mem hp).2
    refine ⟨(hsame hrun).2 ⟨unborn, rfl, by decide⟩, fun p hp => ?_⟩
    obtain ⟨x, hx, -⟩ := htraces _ _ (fun _ _ ho => ho.stuck) (fun _ _ ho => ho.stuck) hrun p hp
    exact ⟨x, hx⟩
  · have hrun := run_passes Alone.refl Alone.refl {} "team" 2 (outpost leaver)
    have halone : ∀ n m, Alone n m → Named n → Named m := by
      rintro n m rfl
      exact id
    intro p hp
    exact (hlast _ _ _ _ _ halone halone hrun (named_outpost rfl) p hp).1

end Tenancy.Simulation
