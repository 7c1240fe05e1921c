/-
The objects of a plan as documents. With an owner, the document of every object that a plan asks for carries the
name of the object and reads as one of its kind (`plan_sound`); and each has its place in the cluster if the
tenant's name can stand in an address (`plan_placed`). So whatever the tenant is called and configured, looking for
its objects and creating them are errands that a cluster can answer.
-/
import Tenancy.Proofs.Cluster.Errand
import Tenancy.Proofs.Tenant.Plan
import Mathlib

namespace Tenancy.Tenant

open Cluster (PathSafe)
open Object Operator

variable {tenant : String} {settings : Settings} {child : Child}

/-! ## Soundness -/

section

variable {owner : Workspace} {reference : OwnerReference}

set_option maxRecDepth 1000 in
/-- Whatever a plan asks for can be created. What a document says and how it is read back depends on no name in it,
so the names are left open and the rest is evaluated. -/
theorem plan_sound {ws : Workspace} {config : Config} (h : .ensure child ∈ plan ws settings config)
    (ho : owner.ownerReference? = some reference) : Sound (child.setOwner reference) := by
  obtain ⟨name, uid, -, -, rfl⟩ := Workspace.ownerReference?_eq_some_iff.1 ho
  simp only [ensure_mem_plan, runtimeEntries, chatEntries, scalingEntries, labelled, List.mem_cons, List.not_mem_nil,
    Entry.ensure.injEq, or_false, or_assoc] at h
  generalize ws.workspaceName = tenant at h
  generalize quotaName tenant = quota, chatName tenant = chat, runtimeName tenant = runtime,
    interceptorName tenant = interceptor, chatHost tenant settings.defaultDomain = chatHost,
    runtimeHost tenant settings.defaultDomain = runtimeHost,
    runtimeUrl tenant config.clusterDomain Manifest.runtimePort = url at h
  rcases h with rfl | rfl | rfl | rfl | rfl | rfl | rfl | rfl | rfl | rfl | rfl | rfl | ⟨-, rfl⟩
  all_goals
    refine .of_fits ?name ?fits ?kind
    case name => cbv
    case fits => cbv
    case kind =>
      conv => lhs; arg 1; cbv
      exact Option.isSome_some

end

/-! ## Places -/

theorem pathSafe_suffixed {suffix : String} (h : PathSafe tenant) (hs : PathSafe suffix) : PathSafe (tenant ++ suffix) := by
  refine ⟨fun he => h.1 (String.append_eq_empty_iff.1 he).1, fun c hc => ?_⟩
  rw [String.toList_append] at hc
  exact (List.mem_append.1 hc).elim (h.2 c) (hs.2 c)

/-- If the name of the tenant can stand in an address, whatever a plan asks for has its place. -/
theorem plan_placed {ws : Workspace} {config : Config} (hws : PathSafe ws.workspaceName)
    (h : .ensure child ∈ plan ws settings config) : Placed child.key := by
  rcases (plan_planned h).placed with ⟨hkind, hns, hname⟩ | ⟨hkind, hns, suffix, hsuffix, hname⟩
  · have hkey : child.key = ⟨.namespace, none, ws.workspaceName⟩ := by rw [Child.key, hkind, hns, hname]
    rw [hkey]
    exact ⟨hws, rfl, fun n hn => by cases hn⟩
  · have hkey : child.key = ⟨child.kind, some ws.workspaceName, ws.workspaceName ++ suffix⟩ := by
      rw [Child.key, hns, hname]
    have hsafe : ∀ suffix ∈ suffixes, PathSafe suffix := by decide
    rw [hkey]
    refine ⟨pathSafe_suffixed hws (hsafe suffix hsuffix), hkind.symm, fun n hn => ?_⟩
    exact Option.some.inj hn ▸ hws

/-- Looking for what a plan asks for, and creating it for an owner, are proper errands. -/
theorem plan_proper {ws owner : Workspace} {config : Config} {reference : OwnerReference}
    (hws : PathSafe ws.workspaceName) (ho : owner.ownerReference? = some reference)
    (h : .ensure child ∈ plan ws settings config) :
    (Errand.look child).Proper ∧ (Errand.make (child.setOwner reference)).Proper := by
  have hplaced := plan_placed hws h
  refine ⟨.inr ⟨hplaced, ?_⟩, .inr ⟨hplaced, ?_⟩⟩
  · rintro made ⟨⟩
  · rintro made ⟨⟩
    exact plan_sound h ho

end Tenancy.Tenant
