/-
The guard of a workspace. Nothing is provisioned for a workspace without its guard, and the guard comes off only
after the namespace has been deleted in the same pass (`guard_protocol`), whatever fails and whatever others do.
A pass that could delete the namespace but not take the guard off is made good by the next one in which
nothing fails.
-/
import Tenancy.Proofs.Run.Reports
import Tenancy.Proofs.Run.Smooth

namespace Tenancy.Operator

open Lifecycle

variable {config : Config} {name : String} {t t₁ t₂ : Trace} {r : Except Error Requeue}

/-! ## Calls that make and unmake a tenant -/

/-- Whether a call makes a part of a tenant. -/
def Call.provisions : Call → Bool
  | .createChild _ | .pull .. | .createModel .. => true
  | _ => false

theorem Call.topic_of_provisions {c : Call} (h : c.provisions = true) : c.topic = .change ∨ c.topic = .models := by
  cases c <;> first | exact .inl rfl | exact .inr rfl | cases h

/-- Parts of a tenant are made only for a workspace that has the guard and is to stay. -/
theorem PassTrace.guarded (h : PassTrace config name t r) {x : Answered} (hx : x ∈ t)
    (hc : x.call.provisions = true) : ∃ ws, t.snapshot? = some ws ∧ ws.hasFinalizer = true ∧
      ws.pendingDeletion = false := by
  obtain ⟨y, rfl⟩ | ⟨ws, step, u, v, hs, hstep, hv, rfl⟩ := h.steps
  · cases List.mem_singleton.1 hx
    cases hc
  refine ⟨ws, rfl, ?_⟩
  have hs := (select_iff step).1 hs
  rcases List.mem_cons.1 hx with rfl | hx
  · cases hc
  rcases List.mem_append.1 hx with hx | hx
  · cases hstep with
    | created => exact ⟨hs.1, hs.2.2⟩
    | updated => exact ⟨hs.1, hs.2.2⟩
    | guarded | abandoned => cases hx
    | attached | undeleted =>
      cases List.mem_singleton.1 hx
      cases hc
    | deleted =>
      simp only [List.mem_cons, List.not_mem_nil, or_false] at hx
      rcases hx with rfl | rfl | rfl <;> cases hc
  · have := hv.about x hx
    rcases Call.topic_of_provisions hc with he | he <;> rw [he] at this <;> simp at this

/-- A namespace is deleted only for a workspace that has the guard, was created and is to be deleted, and it is
its own. -/
theorem PassTrace.deletes (h : PassTrace config name t r) {n : String} {y : Except Error Unit}
    (hx : ⟨.deleteNamespace n, y⟩ ∈ t) : ∃ ws, t.snapshot? = some ws ∧ ws.hasFinalizer = true ∧
      ws.isCreated = true ∧ ws.pendingDeletion = true ∧ n = ws.workspaceName := by
  cases h.reshapes with
  | nothing hq => exact absurd rfl (hq _ hx)
  | @creation ws child x t₁ t₂ _ ha hq ht =>
    obtain ⟨settings, done, rest, owner, u, -, rfl, hu, -, -⟩ := ha.split
    have hu : ⟨.deleteNamespace n, y⟩ ∉ u := hu.not_mem (by simp [Call.topic])
    have hq : ⟨.deleteNamespace n, y⟩ ∉ t₂ := hq.not_mem (by simp [Call.topic])
    simp [ht, hu, hq] at hx
  | @deletion ws x t₁ hs hq ht =>
    have hq : ⟨.deleteNamespace n, y⟩ ∉ t₁ := hq.not_mem (by simp [Call.topic])
    obtain ⟨hf, hc, hd⟩ := (select_iff .delete).1 hs
    refine ⟨ws, by rw [ht]; rfl, hf, hc, hd, ?_⟩
    simp [ht, hq] at hx
    exact hx.1

/-- When a pass writes guards, it puts its own on, or takes it off after it has deleted the namespace. -/
theorem PassTrace.guards (h : PassTrace config name t r) {n : String} {v : Option String} {guards : List String}
    {y : Except Error Unit} (ht : t = t₁ ++ ⟨.setFinalizers n v guards, y⟩ :: t₂) :
    ∃ ws, t.snapshot? = some ws ∧ n = ws.name ∧ (Workspace.finalizer ∈ guards ∨
      select (.of ws) = some .delete ∧ guards = ws.finalizers.filter (· ≠ Workspace.finalizer) ∧
      t₁ = [⟨.workspace name, .ok (some ws)⟩, ⟨.deleteNamespace ws.workspaceName, .ok ()⟩,
        ⟨.publish (deletingEvent ws), ()⟩]) := by
  have hx : ⟨.setFinalizers n v guards, y⟩ ∈ t := by rw [ht]; simp
  obtain ⟨z, rfl⟩ | ⟨ws, step, u, s, hs, hstep, hv, rfl⟩ := h.steps
  · simp at hx
  refine ⟨ws, rfl, ?_⟩
  have hreport : ⟨.setFinalizers n v guards, y⟩ ∉ s := hv.about.not_mem (by simp [Call.topic])
  have hx : ⟨.setFinalizers n v guards, y⟩ ∈ u := by simpa [hreport] using hx
  cases hstep with
  | guarded | abandoned => cases hx
  | attached =>
    cases List.mem_singleton.1 hx
    exact ⟨rfl, .inl (by simp)⟩
  | created hp | updated hp => exact absurd hx (hp.about.not_mem (by simp [Call.topic]))
  | undeleted => simp at hx
  | deleted x =>
    simp only [List.mem_cons, Answered.mk.injEq, reduceCtorEq, false_and, false_or, List.not_mem_nil, or_false,
      Call.setFinalizers.injEq] at hx
    obtain ⟨⟨rfl, rfl, rfl⟩, -⟩ := hx
    -- the only write of guards stands behind the deletion and its announcement
    have hbefore : ⟨.setFinalizers ws.name ws.metadata.resourceVersion
        (ws.finalizers.filter (· ≠ Workspace.finalizer)), y⟩ ∉ ([⟨.workspace name, .ok (some ws)⟩,
          ⟨.deleteNamespace ws.workspaceName, .ok ()⟩, ⟨.publish (deletingEvent ws), ()⟩] : Trace) := by
      simp
    exact ⟨rfl, .inr ⟨hs, rfl, ((List.append_cons_inj_of_notMem hbefore hreport).1 ht).1.symm⟩⟩

/-- A deletion that fails ends the pass with its error, and the pass writes no guards. -/
theorem PassTrace.undeleted (h : PassTrace config name t r) {n : String} {e : Error}
    (hx : ⟨.deleteNamespace n, .error e⟩ ∈ t) : r = .error e ∧ ∀ x ∈ t, x.call.topic ≠ .guards := by
  obtain ⟨ws, hsnap, hf, hc, hd, -⟩ := h.deletes hx
  obtain ⟨y, rfl⟩ | ⟨ws', step, u, s, hs, hstep, hv, rfl⟩ := h.steps
  · simp at hx
  obtain rfl : ws' = ws := Option.some.inj hsnap
  obtain rfl : step = .delete := Option.some.inj (hs.symm.trans ((select_iff .delete).2 ⟨hf, hc, hd⟩))
  have hreport : ⟨.deleteNamespace n, .error e⟩ ∉ s := hv.about.not_mem (by simp [Call.topic])
  have hx : ⟨.deleteNamespace n, .error e⟩ ∈ u := by simpa [hreport] using hx
  cases hstep with
  | undeleted e' =>
    cases List.mem_singleton.1 hx
    refine ⟨rfl, fun x hx he => ?_⟩
    rcases List.mem_cons.1 hx with rfl | hx
    · simp [Call.topic] at he
    rcases List.mem_cons.1 hx with rfl | hx
    · simp [Call.topic] at he
    · exact hv.about.ne (by decide) x hx he
  | deleted => simp at hx

end Tenancy.Operator

namespace Tenancy.Simulation

open Operator Lifecycle

variable {others between : World → World → Prop} {config : Config} {name : String} {w m w' : World}
  {t t₁ t₂ : Trace} {ws : Workspace}

/-! ## The guard of a stored workspace -/

/-- Under `k` a workspace is stored that has the guard. -/
def Guarded (k : String) (w : World) : Prop := ∃ ws, w.workspace? k = some ws ∧ ws.hasFinalizer = true

/-- Only a write of guards takes the guard off. -/
theorem Guarded.lost {k : String} (h : Guarded k m) {c : Call} (hlost : ¬Guarded k (handle c m).2) :
    ∃ v guards, c = .setFinalizers k v guards ∧ Workspace.finalizer ∉ guards := by
  obtain ⟨old, hold, hf⟩ := h
  have hrw := workspace_handle c m k
  rw [hold] at hrw
  unfold Guarded at hlost
  generalize hx : (⟨c, (handle c m).1⟩ : Answered) = x at hrw
  generalize (handle c m).2.workspace? k = after at hrw hlost
  cases hrw with
  | kept | reported => exact absurd ⟨_, rfl, hf⟩ hlost
  | @guarded v guards _ u =>
    refine ⟨v, guards, congrArg Answered.call hx, fun hmem => hlost ⟨_, rfl, ?_⟩⟩
    exact List.contains_iff_mem.2 hmem
  | @released v => exact ⟨v, [], congrArg Answered.call hx, List.not_mem_nil⟩

/-- A pass takes a guard off only after it has deleted the namespace of the workspace that it read. -/
theorem PassTrace.unguards {r : Except Error Requeue} (h : PassTrace config name t r) {x : Answered} {k : String}
    (ht : t = t₁ ++ x :: t₂) (hm : Guarded k m) (hlost : ¬Guarded k (handle x.call m).2) :
    ∃ ws, t.snapshot? = some ws ∧ k = ws.name ∧ ⟨.deleteNamespace ws.workspaceName, .ok ()⟩ ∈ t₁ := by
  obtain ⟨v, guards, hc, hnot⟩ := hm.lost hlost
  obtain ⟨call, y⟩ := x
  obtain rfl : call = _ := hc
  obtain ⟨ws, hsnap, hk, hmem | ⟨-, -, rfl⟩⟩ := h.guards ht
  · exact absurd hmem hnot
  · exact ⟨ws, hsnap, hk, by simp⟩

/-- A pass that writes no guards leaves every guard on. -/
theorem Plays.guarded {k : String} (hothers : ∀ w m, others w m → Guarded k w → Guarded k m)
    (h : Plays others w t w') (ht : ∀ x ∈ t, x.call.topic ≠ .guards) (hw : Guarded k w) : Guarded k w' := by
  refine h.keeps hothers (fun x hx m _ hm => ?_) hw
  by_contra hlost
  obtain ⟨v, guards, hc, -⟩ := hm.lost hlost
  exact ht x hx (by rw [hc]; rfl)

/-! ## What decides about a deletion -/

/-- The part of a workspace that decides about its deletion. -/
structure Fate where
  name : Option String
  tenant : String
  finalizers : List String
  isCreated : Bool
  pendingDeletion : Bool

def fate (ws : Workspace) : Fate :=
  ⟨ws.metadata.name, ws.workspaceName, ws.finalizers, ws.isCreated, ws.pendingDeletion⟩

/-- The workspace was created, has the guard and is to be deleted. -/
structure Fate.Doomed (f : Fate) : Prop where
  guarded : Workspace.finalizer ∈ f.finalizers
  created : f.isCreated = true
  pending : f.pendingDeletion = true

/-- A workspace with this fate is stored. -/
def Fated (name : String) (f : Fate) (w : World) : Prop := (w.workspace? name).map fate = some f

/-- Others leave the workspace alone as far as its deletion goes; they may still overtake a write on it. -/
def Spares (name : String) (w m : World) : Prop := (m.workspace? name).map fate = (w.workspace? name).map fate

theorem select_doomed {f : Fate} (h : f.Doomed) (hws : fate ws = f) : select (.of ws) = some .delete := by
  subst hws
  exact (select_iff .delete).2 ⟨List.contains_iff_mem.2 h.guarded, h.created, h.pending⟩

variable {f : Fate}

theorem fated_iff : Fated name f w ↔ ∃ ws, w.workspace? name = some ws ∧ fate ws = f := Option.map_eq_some_iff

theorem Fated.spared (h : Fated name f w) (ho : Spares name w m) : Fated name f m := Eq.trans ho h

theorem Fated.handle (h : Fated name f w) (c : Call) (hg : c.topic ≠ .guards) (hs : c.topic ≠ .status) :
    Fated name f (handle c w).2 := by
  unfold Fated World.workspace?
  rw [workspaces_handle c hg hs]
  exact h

theorem Plays.fated (h : Plays (Spares name) w t w') (ht : ∀ x ∈ t, x.call.topic ≠ .guards ∧ x.call.topic ≠ .status)
    (hw : Fated name f w) : Fated name f w' :=
  h.keeps (fun _ _ ho hm => hm.spared ho) (fun x hx _ _ hm => hm.handle x.call (ht x hx).1 (ht x hx).2) hw

/-- A report leaves the fate of a workspace as it is, once it was created. -/
theorem Reports.fated {mark : Bool} {c : Option Condition} {r : Except Error Unit} (h : Reports name mark c t r)
    (hp : Plays (Spares name) w t w') (hw : Fated name f w) (hf : f.isCreated = true) : Fated name f w' := by
  cases h with
  | unread | gone | unchanged => exact hp.fated (by simp [Call.topic]) hw
  | @written latest now x _ =>
    obtain ⟨m, ho, hread, n, hn, -, k, hk, -, rfl⟩ := hp
    have hm := hw.spared ho
    have hthen := (hm.handle (.workspace name) (by simp [Call.topic]) (by simp [Call.topic])).spared hn
    obtain ⟨ws, hws, hfate⟩ := fated_iff.1 ((hthen.handle .now (by simp [Call.topic]) (by simp [Call.topic])).spared hk)
    obtain ⟨ws', hws', hfate'⟩ := fated_iff.1 hm
    obtain rfl : ws' = latest := Option.some.inj (hws'.symm.trans (workspace_answer hread))
    have hrw := workspace_handle (.patchStatus ws'.name ws'.metadata.resourceVersion (Reported ws' now mark c)) k name
    rw [hws] at hrw
    apply fated_iff.2
    change ∃ ws, (handle (.patchStatus ws'.name _ _) k).2.workspace? name = some ws ∧ fate ws = f
    generalize hx : (⟨_, (handle _ k).1⟩ : Answered) = x at hrw
    generalize (handle (.patchStatus ws'.name _ _) k).2.workspace? name = after at hrw ⊢
    cases hrw with
    | kept _ v => exact ⟨_, rfl, hfate⟩
    | guarded | released => cases congrArg Answered.call hx
    | reported _ v =>
      cases congrArg Answered.call hx
      refine ⟨_, rfl, ?_⟩
      -- what was read had the mark, so what is written has it
      have hcreated : ws'.isCreated = true := by rw [← hf, ← hfate']; rfl
      rw [← hfate]
      unfold fate
      congr 1
      have hws : ws.isCreated = true := by rw [← hf, ← hfate]; rfl
      change (Reported ws' now mark c).isCreated = _
      rw [isCreated_reported, hcreated, hws, Bool.true_or]

/-- A write of guards that failed has changed nothing. -/
theorem Fated.refused {k : String} {v : Option String} {guards : List String} {e : Error} (h : Fated name f w)
    (hx : (Simulation.handle (.setFinalizers k v guards) w).1 = .error e) :
    Fated name f (Simulation.handle (.setFinalizers k v guards) w).2 := by
  obtain ⟨ws, hws, hfate⟩ := fated_iff.1 h
  have hrw := workspace_handle (.setFinalizers k v guards) w name
  rw [hws, hx] at hrw
  apply fated_iff.2
  generalize (Simulation.handle (.setFinalizers k v guards) w).2.workspace? name = after at hrw ⊢
  cases hrw with
  | kept => exact ⟨_, rfl, hfate⟩

/-- A pass over a doomed workspace leaves it as it is, unless no call of the pass fails. -/
theorem Leg.Happens.doomed {p : Leg} (h : p.Happens (Spares p.name)) (hf : Fated p.name f p.start) (hd : f.Doomed) :
    p.trace.Smooth ∨ Fated p.name f p.stop := by
  have hplays := h.plays
  -- the pass goes through the deletion if it gets to a step
  have select : ∀ {ws : Workspace} {step : Step} {t : Trace},
      Plays (Spares p.name) p.start (⟨.workspace p.name, .ok (some ws)⟩ :: t) p.stop →
      select (.of ws) = some step → step = .delete := by
    rintro ws step t ⟨m, ho, hx, -⟩ hs
    obtain ⟨ws', hws', hfate⟩ := fated_iff.1 (hf.spared ho)
    obtain rfl : ws' = ws := Option.some.inj (hws'.symm.trans (workspace_answer hx))
    exact Option.some.inj (hs.symm.trans (select_doomed hd hfate))
  have ht := h.trace
  generalize p.trace = t at ht hplays
  generalize p.result = r at ht
  cases ht with
  | unread | absent | resting => exact .inr (hplays.fated (by simp [Call.topic]) hf)
  | done hs hstep =>
    obtain rfl := select hplays hs
    generalize hr : (Except.ok _ : Except Error Requeue) = r at hstep
    cases hstep with
    | undeleted => cases hr
    | deleted x =>
      cases x with
      | ok u => exact .inl (by simp [Trace.Smooth, Answered.succeeds, Except.isOk, Except.toBool])
      | error e => cases hr
  | failed hs hstep hreport =>
    obtain rfl := select hplays hs
    obtain ⟨m, hstepped, hreported⟩ := (plays_append _ _ (_ :: _) _).1 hplays
    have hm : Fated p.name f m := by
      generalize hr : (Except.error _ : Except Error Requeue) = r at hstep
      cases hstep with
      | undeleted e => exact hstepped.fated (by simp [Call.topic]) hf
      | deleted x =>
        cases x with
        | ok u => cases hr
        | error e =>
          obtain ⟨a, hbefore, b, hb, hx, rfl⟩ := (plays_append _ _ [_, _, _] _).1 hstepped
          exact ((hbefore.fated (by simp [Call.topic]) hf).spared hb).refused hx
    cases hreport with
    | silent => cases (plays_nil ..).1 hreported; exact .inr hm
    | made _ hr => exact .inr (Reports.fated hr hreported hm hd.created)

/-! ## A calm world -/

/-- No fault has a strike left, and no other writer is waiting. -/
structure Calm (w : World) : Prop where
  faults : ∀ f ∈ w.faults, f.times = 0
  interference : w.interference = 0

/-- Others leave the workspace and the calm alone. -/
structure Peaceful (name : String) (w m : World) : Prop where
  workspace : m.workspace? name = w.workspace? name
  calm : Calm w → Calm m

theorem Peaceful.refl (name : String) (w : World) : Peaceful name w w := ⟨rfl, id⟩

theorem meet_spent (target : Simulation.Target) (argument : String) {faults : List (Fault Simulation.Target Strike)}
    (h : ∀ f ∈ faults, f.times = 0) : meet target argument faults = (none, faults) := by
  induction faults with
  | nil => rfl
  | cons f rest ih =>
    have hf : f.awaits target argument = false := by
      unfold Fault.awaits
      rw [h f (List.mem_cons_self ..)]
      simp
    unfold meet
    rw [hf, if_neg Bool.false_ne_true, ih fun g hg => h g (List.mem_cons_of_mem _ hg)]

theorem Calm.guarded {α : Type} (h : Calm w) (target : Simulation.Target) (argument : String)
    (go : World → Except Error α × World) : guarded target argument w go = go w := by
  have hstrike : w.strike target argument = (none, w) := by
    unfold World.strike
    rw [meet_spent target argument h.faults]
  unfold Simulation.guarded
  rw [hstrike]

/-- In a calm world a write of guards on a fresh reading is done. -/
theorem Calm.setFinalizers (h : Calm w) (hws : w.workspace? name = some ws) (guards : List String) :
    handle (.setFinalizers name ws.metadata.resourceVersion guards) w =
      (.ok (), writeFinalizers (w.record (.setFinalizers name ws.metadata.resourceVersion guards)) name guards) := by
  have hstale : w.stale name ws.metadata.resourceVersion = false := by
    unfold World.stale
    rw [hws]
    cases hv : ws.metadata.resourceVersion with
    | none => rfl
    | some v => simp [hv]
  show Simulation.setFinalizers .. = _
  unfold Simulation.setFinalizers
  rw [h.guarded]
  unfold World.interfere
  simp only [h.interference, if_true, hstale, Bool.false_eq_true, if_false]

/-- The guard is off: the workspace is stored with the guards of others, or gone if there are none. -/
def Released (name : String) (f : Fate) (w : World) : Prop :=
  let others := f.finalizers.filter (· ≠ Workspace.finalizer)
  (others = [] ∧ w.workspace? name = none) ∨ (others ≠ [] ∧ Fated name { f with finalizers := others } w)

theorem released_writeFinalizers (hws : w.workspace? name = some ws) (hpending : ws.pendingDeletion = true) :
    Released name (fate ws) (writeFinalizers w name (ws.finalizers.filter (· ≠ Workspace.finalizer))) := by
  obtain ⟨v, hv⟩ := workspace?_writeFinalizers_self hws (ws.finalizers.filter (· ≠ Workspace.finalizer))
  rw [hpending, Bool.and_true] at hv
  by_cases hnone : ws.finalizers.filter (· ≠ Workspace.finalizer) = []
  · rw [if_pos (List.isEmpty_iff.2 hnone)] at hv
    exact .inl ⟨hnone, hv⟩
  · rw [if_neg (fun h => hnone (List.isEmpty_iff.1 h))] at hv
    exact .inr ⟨hnone, fated_iff.2 ⟨_, hv, rfl⟩⟩

/-- In a calm world the deletion of a workspace goes through. -/
theorem StepTrace.releases {r : Except Error Requeue} (h : StepTrace config ws .delete t r)
    (hp : Plays (Peaceful name) w t w') (hw : Calm w) (hws : w.workspace? name = some ws)
    (hname : ws.metadata.name = some name) (hpending : ws.pendingDeletion = true) :
    r = .ok .never ∧ ⟨.deleteNamespace ws.workspaceName, .ok ()⟩ ∈ t ∧ Released name (fate ws) w' := by
  have deletion : ∀ {m : World}, Calm m → handle (.deleteNamespace ws.workspaceName) m =
      (.ok (), (m.record (.deletedNamespace ws.workspaceName)).dropNamespace ws.workspaceName) :=
    fun hm => hm.guarded ..
  cases h with
  | undeleted e =>
    obtain ⟨m, ho, hx, -⟩ := hp
    rw [deletion (ho.calm hw)] at hx
    cases hx
  | deleted x =>
    obtain ⟨m, ho, -, n, hn, -, k, hk, hx, rfl⟩ := hp
    rw [Workspace.name_of_some hname] at hx ⊢
    have hm := ho.calm hw
    -- the deletion changes no workspace, so the version that was read is still the stored one
    have hmid : Calm (handle (.deleteNamespace ws.workspaceName) m).2 ∧
        (handle (.deleteNamespace ws.workspaceName) m).2.workspace? name = some ws := by
      rw [deletion hm]
      exact ⟨⟨hm.faults, hm.interference⟩, ho.workspace.trans hws⟩
    have hcalm : Calm k := hk.calm ⟨(hn.calm hmid.1).faults, (hn.calm hmid.1).interference⟩
    have hstored : k.workspace? name = some ws := hk.workspace.trans (hn.workspace.trans hmid.2)
    have hdone := hcalm.setFinalizers hstored (ws.finalizers.filter (· ≠ Workspace.finalizer))
    rw [hdone] at hx ⊢
    obtain rfl : x = .ok () := hx.symm
    exact ⟨rfl, by simp, released_writeFinalizers hstored hpending⟩

/-- In a calm world a pass over a doomed workspace deletes its namespace and takes the guard off. -/
theorem Leg.Happens.releases {p : Leg} (h : p.Happens (Peaceful p.name)) (hcalm : Calm p.start)
    (hf : Fated p.name f p.start) (hd : f.Doomed) (hname : f.name = some p.name) :
    p.result = .ok .never ∧ ⟨.deleteNamespace f.tenant, .ok ()⟩ ∈ p.trace ∧ Released p.name f p.stop := by
  obtain ⟨ws, hws, rfl⟩ := fated_iff.1 hf
  have hplays := h.plays
  have ht := h.trace
  -- what the pass reads is the workspace
  have read : ∀ {t : Trace} {y : Except Error (Option Workspace)},
      Plays (Peaceful p.name) p.start (⟨.workspace p.name, y⟩ :: t) p.stop → y = .ok (some ws) ∧
        ∃ m, Calm m ∧ m.workspace? p.name = some ws ∧ Plays (Peaceful p.name) m t p.stop := by
    rintro t y ⟨m, ho, hx, hp⟩
    have hstored : m.workspace? p.name = some ws := ho.workspace.trans hws
    have hm : Calm (m.record (.readWorkspace p.name)) := ⟨(ho.calm hcalm).faults, (ho.calm hcalm).interference⟩
    have hanswer : handle (.workspace p.name) m = (.ok (m.workspace? p.name), m.record (.readWorkspace p.name)) :=
      hm.guarded ..
    rw [hanswer] at hx hp
    exact ⟨by rw [← hstored]; exact hx.symm, _, hm, hstored, hp⟩
  have hselect : select (.of ws) = some .delete := select_doomed hd rfl
  generalize p.trace = t at ht hplays ⊢
  generalize p.result = r at ht ⊢
  cases ht with
  | unread | absent => cases (read hplays).1
  | resting hs =>
    cases (read hplays).1
    cases hs.symm.trans hselect
  | done hs hstep =>
    obtain ⟨heq, m, hm, hstored, hrest⟩ := read hplays
    cases heq
    obtain rfl := Option.some.inj (hs.symm.trans hselect)
    obtain ⟨hr, hmem, hreleased⟩ := StepTrace.releases hstep hrest hm hstored hname hd.pending
    exact ⟨hr, List.mem_cons_of_mem _ hmem, hreleased⟩
  | failed hs hstep =>
    obtain ⟨heq, m, hm, hstored, hrest⟩ := read hplays
    cases heq
    obtain rfl := Option.some.inj (hs.symm.trans hselect)
    obtain ⟨a, hstepped, -⟩ := (plays_append ..).1 hrest
    cases (StepTrace.releases hstep hstepped hm hstored hname hd.pending).1

/-! ## What it comes to -/

variable {ps : List Leg}

/-- The protocol of the guard, in a run in which anything may fail and others may do anything. Parts of a tenant
are made only by a pass that read its workspace with the guard and not to be deleted. A namespace is deleted only by
a pass that read its workspace with the guard, as created and as to be deleted. A guard is taken off only after
the deletion of that namespace ended well in the same pass; if the deletion fails, the pass ends with its error and
leaves every guard on that others leave on. And after a pass that failed to take a guard off, and others that
failed in any way, one in a calm world deletes the namespace again and takes the guard off, if others have left
the workspace alone. -/
theorem guard_protocol (h : Run others between w ps w') :
    (∀ p ∈ ps, ∀ x ∈ p.trace, x.call.provisions = true →
      ∃ ws, p.trace.snapshot? = some ws ∧ ws.hasFinalizer = true ∧ ws.pendingDeletion = false) ∧
    (∀ p ∈ ps, ∀ n y, ⟨.deleteNamespace n, y⟩ ∈ p.trace →
      ∃ ws, p.trace.snapshot? = some ws ∧ ws.hasFinalizer = true ∧ ws.isCreated = true ∧
        ws.pendingDeletion = true ∧ n = ws.workspaceName) ∧
    (∀ p ∈ ps, ∀ t₁ x t₂ m k, p.trace = t₁ ++ x :: t₂ → Guarded k m → ¬Guarded k (handle x.call m).2 →
      ∃ ws, p.trace.snapshot? = some ws ∧ k = ws.name ∧ ⟨.deleteNamespace ws.workspaceName, .ok ()⟩ ∈ t₁) ∧
    (∀ p ∈ ps, ∀ n e, ⟨.deleteNamespace n, .error e⟩ ∈ p.trace → p.result = .error e ∧
      ∀ k, (∀ w m, others w m → Guarded k w → Guarded k m) → Guarded k p.start → Guarded k p.stop) ∧
    ∀ (p : Leg) (qs : List Leg) (q : Leg), p.Happens (Spares p.name) →
      Run (Spares p.name) (Spares p.name) p.stop qs q.start → q.Happens (Peaceful q.name) → q.name = p.name →
      (∀ r ∈ qs, r.name = p.name ∧ ¬r.trace.Smooth) → Named p.start → Calm q.start →
      (∃ n v guards e, ⟨.setFinalizers n v guards, .error e⟩ ∈ p.trace ∧ Workspace.finalizer ∉ guards) →
      ∃ ws, p.trace.snapshot? = some ws ∧ q.result = .ok .never ∧
        ⟨.deleteNamespace ws.workspaceName, .ok ()⟩ ∈ q.trace ∧ Released p.name (fate ws) q.stop := by
  refine ⟨fun p hp x hx hc => (h.happens hp).trace.guarded hx hc,
    fun p hp n y hx => (h.happens hp).trace.deletes hx,
    fun p hp t₁ x t₂ m k ht hm hlost => PassTrace.unguards (h.happens hp).trace ht hm hlost, ?_, ?_⟩
  · intro p hp n e hx
    obtain ⟨hr, hquiet⟩ := (h.happens hp).trace.undeleted hx
    exact ⟨hr, fun k hothers => (h.happens hp).plays.guarded hothers hquiet⟩
  · rintro p qs q hp hqs hq hname hrough hnamed hcalm ⟨n, v, guards, e, hx, hnot⟩
    have rough : ∀ {t : Trace}, ⟨.setFinalizers n v guards, .error e⟩ ∈ t → ¬t.Smooth := by
      intro t hx ht
      cases ht _ hx
    obtain ⟨t₁, t₂, ht⟩ := List.append_of_mem hx
    obtain ⟨ws, hsnap, -, hmem | ⟨hselect, -, rfl⟩⟩ := hp.trace.guards ht
    · exact absurd hmem hnot
    obtain ⟨hguard, hcreated, hpending⟩ := (select_iff .delete).1 hselect
    have hd : (fate ws).Doomed := ⟨List.contains_iff_mem.1 hguard, hcreated, hpending⟩
    -- what the pass read was stored when it started, up to versions
    have hstart : Fated p.name (fate ws) p.start := by
      have hplays := hp.plays
      rw [ht] at hplays
      obtain ⟨m, ho, hread, -⟩ := hplays
      unfold Fated
      rw [← show _ = _ from ho, workspace_answer hread]
      rfl
    have hself : (fate ws).name = some p.name := by
      obtain ⟨old, hold, hfate⟩ := fated_iff.1 hstart
      rw [← hfate]
      exact hnamed _ _ hold
    have hstop := (hp.doomed hstart hd).resolve_left (rough hx)
    have hlast : Fated p.name (fate ws) q.start := by
      refine hqs.keeps (fun _ _ ho hm => hm.spared ho) (fun r hr hhap hm => ?_) hstop
      obtain ⟨hrname, hnotsmooth⟩ := hrough r hr
      rw [← hrname] at hhap hm ⊢
      exact (hhap.doomed hm hd).resolve_left hnotsmooth
    rw [← hname] at hlast hself ⊢
    obtain ⟨hresult, hdeleted, hreleased⟩ := hq.releases hcalm hlast hd hself
    exact ⟨ws, hsnap, hresult, hdeleted, hreleased⟩

/-- The guard was to be taken off, and was not. -/
def clings : Answered → Bool
  | ⟨.setFinalizers _ _ guards, .error _⟩ => !guards.contains Workspace.finalizer
  | _ => false

/-- A world in which another writer will come before the next write on a workspace that is to be deleted. -/
def crowded : World := { outpost leaver with interference := 1 }

/-- The first pass fails to take the guard off, and the second makes it good. -/
theorem guard_protocol_crowded : ∃ p q, (passes {} "team" 2 crowded).1 = [p, q] ∧
    (∃ n v guards e, ⟨.setFinalizers n v guards, .error e⟩ ∈ p.trace ∧ Workspace.finalizer ∉ guards) ∧
    ∃ ws, p.trace.snapshot? = some ws ∧ q.result = .ok .never ∧
      ⟨.deleteNamespace ws.workspaceName, .ok ()⟩ ∈ q.trace ∧ Released "team" (fate ws) q.stop := by
  have hspares : ∀ w, Spares "team" w w := fun _ => rfl
  have hrun := run_passes hspares hspares {} "team" 2 crowded
  have hpeaceful := run_passes (Peaceful.refl "team") (Peaceful.refl "team") {} "team" 2 crowded
  have hcalm : Calm (pass {} "team" crowded).2 := ⟨by decide +kernel, by decide +kernel⟩
  have hfailed : (transcript (Operator.pass {} "team").run crowded).any clings = true := by decide +kernel
  have hremoval : ∃ n v guards e, ⟨.setFinalizers n v guards, .error e⟩ ∈
      transcript (Operator.pass {} "team").run crowded ∧ Workspace.finalizer ∉ guards := by
    obtain ⟨x, hx, hclings⟩ := List.any_eq_true.1 hfailed
    unfold clings at hclings
    split at hclings
    next => exact ⟨_, _, _, _, hx, by simpa using hclings⟩
    next => cases hclings
  refine ⟨_, _, rfl, hremoval, ?_⟩
  obtain ⟨-, -, -, -, hretry⟩ := guard_protocol hrun
  exact hretry _ [] _ (hrun.happens (List.mem_cons_self ..)) (.rest rfl)
    (hpeaceful.happens (List.mem_cons_of_mem _ (List.mem_cons_self ..))) rfl (List.forall_mem_nil _)
    (named_outpost (show leaver.metadata.name = some "team" from rfl)) hcalm hremoval

end Tenancy.Simulation
