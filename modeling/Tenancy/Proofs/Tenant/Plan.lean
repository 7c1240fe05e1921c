/-
The keys of a plan. Which objects a plan asks for, and in which order, depends on the tenant's name and on
whether its front-end is scaled, and on nothing else (`keysOf_plan`); no object is asked for twice
(`planKeys_nodup`), and all of them go with the tenant's namespace (`planKeys_goesWith`) and are named and labelled
for the tenant (`plan_planned`). With the gate among them, the keys make the outline of a plan, which tells the name
and the scaling, and which nothing else changes (`plan_identity`).
-/
import Tenancy.Simulation.World
import Tenancy.Tenant.Plan
import Mathlib.Tactic

namespace Tenancy.Tenant

open Object Simulation

/-! ## Keys -/

def Entry.child? : Entry → Option Child
  | .ensure child => some child
  | .readiness => none

/-- The keys under which the children of entries are stored, in their order. -/
def keysOf (entries : List Entry) : List ChildKey := entries.filterMap fun e => e.child?.map keyOf

theorem keysOf_ensure (child : Child) (rest : List Entry) :
    keysOf (.ensure child :: rest) = keyOf child :: keysOf rest := rfl

theorem keysOf_readiness (rest : List Entry) : keysOf (.readiness :: rest) = keysOf rest := rfl

theorem keysOf_append (a b : List Entry) : keysOf (a ++ b) = keysOf a ++ keysOf b := List.filterMap_append ..

theorem mem_keysOf {entries : List Entry} {key : ChildKey} :
    key ∈ keysOf entries ↔ ∃ child, .ensure child ∈ entries ∧ keyOf child = key := by
  unfold keysOf
  rw [List.mem_filterMap]
  constructor
  · rintro ⟨e, he, hk⟩
    cases e with
    | ensure child => exact ⟨child, he, Option.some.inj hk⟩
    | readiness => cases hk
  · rintro ⟨child, hc, rfl⟩
    exact ⟨_, hc, rfl⟩

/-! ## The keys of a tenant -/

/-- What comes before the gate. -/
def runtimeKeys (tenant : String) : List ChildKey :=
  [(.namespace, none, tenant),
    (.resourceQuota, some tenant, quotaName tenant),
    (.volumeClaim, some tenant, chatName tenant),
    (.serviceAccount, some tenant, chatName tenant),
    (.serviceAccount, some tenant, runtimeName tenant),
    (.statefulSet, some tenant, runtimeName tenant),
    (.service, some tenant, runtimeName tenant)]

/-- What comes after it. -/
def chatKeys (tenant : String) (scaled : Bool) : List ChildKey :=
  [(.deployment, some tenant, chatName tenant),
    (.service, some tenant, chatName tenant),
    (.service, some tenant, interceptorName tenant),
    (.ingress, some tenant, chatName tenant),
    (.ingress, some tenant, runtimeName tenant)] ++
  if scaled then [(.scaledObject, some tenant, chatName tenant)] else []

def planKeys (tenant : String) (scaled : Bool) : List ChildKey := runtimeKeys tenant ++ chatKeys tenant scaled

section

variable (ws : Workspace) (settings : Settings) (config : Operator.Config)

/-- The part of a plan after its gate. -/
def gatedEntries : List Entry :=
  chatEntries ws.workspaceName ws.spec.workspaceEnv settings config.clusterDomain ++
    if config.scaleToZero then scalingEntries ws.workspaceName settings else []

theorem plan_eq : plan ws settings config =
    runtimeEntries ws.workspaceName settings ++ .readiness :: gatedEntries ws settings config := rfl

theorem keysOf_runtimeEntries (tenant : String) : keysOf (runtimeEntries tenant settings) = runtimeKeys tenant := rfl

theorem keysOf_gatedEntries :
    keysOf (gatedEntries ws settings config) = chatKeys ws.workspaceName config.scaleToZero := by
  unfold gatedEntries chatKeys
  rw [keysOf_append]
  cases config.scaleToZero <;> rfl

/-- The keys of a plan depend on the tenant's name and the scaling only. -/
theorem keysOf_plan : keysOf (plan ws settings config) = planKeys ws.workspaceName config.scaleToZero := by
  rw [plan_eq, keysOf_append, keysOf_readiness, keysOf_gatedEntries]
  rfl

end

theorem chatName_ne_runtimeName (tenant : String) : chatName tenant ≠ runtimeName tenant := by
  unfold chatName runtimeName
  rw [ne_eq, String.append_right_inj]
  decide

theorem chatName_ne_interceptorName (tenant : String) : chatName tenant ≠ interceptorName tenant := by
  unfold chatName interceptorName
  rw [ne_eq, String.append_right_inj]
  decide

theorem runtimeName_ne_interceptorName (tenant : String) : runtimeName tenant ≠ interceptorName tenant := by
  unfold runtimeName interceptorName
  rw [ne_eq, String.append_right_inj]
  decide

/-- No object is asked for twice. -/
theorem planKeys_nodup (tenant : String) (scaled : Bool) : (planKeys tenant scaled).Nodup := by
  have h₁ := chatName_ne_runtimeName tenant
  have h₂ := chatName_ne_interceptorName tenant
  have h₃ := runtimeName_ne_interceptorName tenant
  cases scaled <;> simp [planKeys, runtimeKeys, chatKeys, h₁, h₁.symm, h₂, h₃]

/-- All objects of a tenant go with its namespace. -/
theorem planKeys_goesWith {tenant : String} {scaled : Bool} {key : ChildKey} (h : key ∈ planKeys tenant scaled) :
    World.goesWith tenant key = true := by
  have all : (planKeys tenant scaled).all (World.goesWith tenant) = true := by
    cases scaled <;> simp [planKeys, runtimeKeys, chatKeys, World.goesWith]
  exact List.all_eq_true.1 all key h

/-- The runtime stands before the gate. -/
theorem runtime_mem (tenant : String) : (.statefulSet, some tenant, runtimeName tenant) ∈ runtimeKeys tenant := by
  simp [runtimeKeys]

/-! ## Splitting a plan -/

section

variable {ws : Workspace} {settings : Settings} {config : Operator.Config}

/-- A child of a plan comes before its gate, or after it, or scales the front-end. -/
theorem ensure_mem_plan {child : Child} : .ensure child ∈ plan ws settings config ↔
    .ensure child ∈ runtimeEntries ws.workspaceName settings ∨
      .ensure child ∈ chatEntries ws.workspaceName ws.spec.workspaceEnv settings config.clusterDomain ∨
      config.scaleToZero = true ∧ .ensure child ∈ scalingEntries ws.workspaceName settings := by
  rw [plan_eq, gatedEntries]
  cases config.scaleToZero <;> simp

/-- Wherever a plan is cut, the gate is behind the cut or the next child is one of those before the gate. -/
theorem plan_split {done rest : List Entry} {child : Child}
    (h : plan ws settings config = done ++ .ensure child :: rest) :
    .readiness ∈ done ∨ keyOf child ∈ runtimeKeys ws.workspaceName := by
  rw [plan_eq] at h
  rcases List.append_eq_append_iff.1 h with ⟨a, rfl, ha⟩ | ⟨a, ha, hb⟩
  · cases a with
    | nil => cases ha
    | cons e a =>
      obtain ⟨rfl, -⟩ := List.cons.inj ha
      exact .inl (List.mem_append_right _ (List.mem_cons_self ..))
  · cases a with
    | nil => cases hb
    | cons e a =>
      cases hb
      rw [← keysOf_runtimeEntries settings, ha]
      exact .inr (mem_keysOf.2 ⟨child, List.mem_append_right _ (List.mem_cons_self ..), rfl⟩)

/-- If the gate is the next entry, everything before the gate is behind the cut. -/
theorem plan_gate {done rest : List Entry} (h : plan ws settings config = done ++ .readiness :: rest) :
    keysOf done = runtimeKeys ws.workspaceName := by
  have hr : Entry.readiness ∉ runtimeEntries ws.workspaceName settings := by simp [runtimeEntries]
  have hg : Entry.readiness ∉ gatedEntries ws settings config := by
    unfold gatedEntries
    cases config.scaleToZero <;> simp [chatEntries, scalingEntries]
  rw [plan_eq] at h
  rw [← ((List.append_cons_inj_of_notMem hr hg).1 h).1, keysOf_runtimeEntries]

end

/-! ## Objects -/

/-- What the names of the objects in a tenant's namespace have behind the tenant's. -/
def suffixes : List String := ["-rquota", "-openwebui", "-ollama", "-interceptor"]

/-- An object as plans ask for it: it carries the labels of the tenant for its own name, and either is the tenant's
namespace or lies there under a name that starts with the tenant's. -/
structure Planned (tenant : String) (child : Child) : Prop where
  identified : ∃ c, child.metadata = Manifest.identified child.ns child.name (labelled tenant child.name c)
  placed : child.kind = .namespace ∧ child.ns = none ∧ child.name = tenant ∨
    child.kind.namespaced = true ∧ child.ns = some tenant ∧ ∃ suffix ∈ suffixes, child.name = tenant ++ suffix

section

variable {ws : Workspace} {settings : Settings} {config : Operator.Config} {child : Child}

theorem planned_within {tenant suffix : String} {c : Labels.Component} (hsuffix : suffix ∈ suffixes)
    (hkind : child.kind.namespaced = true)
    (h : child.metadata = Manifest.identified (some tenant) (tenant ++ suffix) (labelled tenant (tenant ++ suffix) c)) :
    Planned tenant child := by
  have hns : child.ns = some tenant := by rw [Child.ns, h, Manifest.identified]
  have hname : child.name = tenant ++ suffix := by rw [Child.name, h, Manifest.identified, Option.getD_some]
  exact ⟨⟨c, by rw [h, hns, hname]⟩, .inr ⟨hkind, hns, suffix, hsuffix, hname⟩⟩

theorem plan_planned (h : .ensure child ∈ plan ws settings config) : Planned ws.workspaceName child := by
  rcases ensure_mem_plan.1 h with h | h | ⟨-, h⟩
  · simp only [runtimeEntries, List.mem_cons, List.not_mem_nil, Entry.ensure.injEq, or_false] at h
    rcases h with rfl | rfl | rfl | rfl | rfl | rfl | rfl
    · exact ⟨⟨_, rfl⟩, .inl ⟨rfl, rfl, rfl⟩⟩
    all_goals exact planned_within (by decide) rfl rfl
  · simp only [chatEntries, List.mem_cons, List.not_mem_nil, Entry.ensure.injEq, or_false] at h
    rcases h with rfl | rfl | rfl | rfl | rfl
    all_goals exact planned_within (by decide) rfl rfl
  · simp only [scalingEntries, List.mem_singleton, Entry.ensure.injEq] at h
    subst h
    exact planned_within (by decide) rfl rfl

/-- Only a plan that scales asks for the scaling. -/
theorem scaled_of_kind (h : .ensure child ∈ plan ws settings config) (hk : child.kind = .scaledObject) :
    config.scaleToZero = true := by
  have hkey := mem_keysOf.2 ⟨child, h, rfl⟩
  rw [keysOf_plan] at hkey
  cases hs : config.scaleToZero with
  | true => rfl
  | false =>
    have hother : ∀ key ∈ planKeys ws.workspaceName false, key.1 ≠ .scaledObject := by
      simp [planKeys, runtimeKeys, chatKeys]
    exact absurd hk (hother _ (hs ▸ hkey))

end

/-! ## Outlines -/

/-- A plan without what its objects hold: their keys in order, and the gate between them. -/
def outline (entries : List Entry) : List (Option Key) := entries.map Entry.key?

/-- Under which key an object of the given key is stored. -/
def storedKey (key : Key) : ChildKey := (key.kind, key.ns, key.name)

/-- The key of the object that is stored under the given one. -/
def keyStored (key : ChildKey) : Key := ⟨key.1, key.2.1, key.2.2⟩

def planOutline (tenant : String) (scaled : Bool) : List (Option Key) :=
  (runtimeKeys tenant).map (some ∘ keyStored) ++ none :: (chatKeys tenant scaled).map (some ∘ keyStored)

theorem keysOf_eq_map (entries : List Entry) : keysOf entries = (entries.filterMap Entry.key?).map storedKey := by
  rw [keysOf, List.map_filterMap]
  refine List.filterMap_congr fun e _ => ?_
  cases e <;> rfl

theorem outline_plan (ws : Workspace) (settings : Settings) (config : Operator.Config) :
    outline (plan ws settings config) = planOutline ws.workspaceName config.scaleToZero := by
  rw [plan_eq, gatedEntries, planOutline, chatKeys]
  cases config.scaleToZero <;> rfl

theorem length_planOutline (tenant : String) (scaled : Bool) :
    (planOutline tenant scaled).length = 13 + scaled.toNat := by
  cases scaled <;> rfl

/-- One outline starts another exactly if they are of one tenant, and the longer one scales if the shorter does. -/
theorem planOutline_prefix_iff {tenant tenant' : String} {scaled scaled' : Bool} :
    planOutline tenant scaled <+: planOutline tenant' scaled' ↔ tenant = tenant' ∧ scaled ≤ scaled' := by
  constructor
  · intro h
    have hle : ∀ a b : Bool, 13 + a.toNat ≤ 13 + b.toNat → a ≤ b := by decide
    have hlength := h.length_le
    rw [length_planOutline, length_planOutline] at hlength
    -- the first child is the namespace, which has the tenant's name
    have hhead := (List.cons_prefix_cons.1 h).1
    exact ⟨congrArg Key.name (Option.some.inj hhead), hle _ _ hlength⟩
  · rintro ⟨rfl, hle⟩
    cases scaled with
    | true =>
      cases scaled' with
      | false => cases hle rfl
      | true => exact List.prefix_refl _
    | false =>
      cases scaled' with
      | false => exact List.prefix_refl _
      | true => exact List.prefix_append (planOutline tenant false) _

/-- Two plans are the same up to what their objects hold exactly if they are made for one name and under one choice of
scaling; the plan without the scaling is the first part of the plan with it. No plan asks for an object twice. -/
theorem plan_identity (ws ws' : Workspace) (settings settings' : Settings) (config config' : Operator.Config) :
    (outline (plan ws settings config) = outline (plan ws' settings' config') ↔
      ws.workspaceName = ws'.workspaceName ∧ config.scaleToZero = config'.scaleToZero) ∧
    (outline (plan ws settings config) <+: outline (plan ws' settings' config') ↔
      ws.workspaceName = ws'.workspaceName ∧ config.scaleToZero ≤ config'.scaleToZero) ∧
    plan ws settings { config with scaleToZero := false } <+: plan ws settings { config with scaleToZero := true } ∧
    ((plan ws settings config).filterMap Entry.key?).Nodup ∧ (keysOf (plan ws settings config)).Nodup := by
  have hnodup : (keysOf (plan ws settings config)).Nodup := keysOf_plan ws settings config ▸ planKeys_nodup _ _
  rw [outline_plan, outline_plan]
  refine ⟨⟨fun h => ?_, ?_⟩, planOutline_prefix_iff, ?_, ?_, hnodup⟩
  · obtain ⟨hname, hle⟩ := planOutline_prefix_iff.1 ⟨[], (List.append_nil _).trans h⟩
    obtain ⟨-, hge⟩ := planOutline_prefix_iff.1 ⟨[], (List.append_nil _).trans h.symm⟩
    exact ⟨hname, le_antisymm hle hge⟩
  · rintro ⟨hname, hscaled⟩
    rw [hname, hscaled]
  · exact ⟨scalingEntries ws.workspaceName settings, by simp [plan]⟩
  · rw [keysOf_eq_map] at hnodup
    exact hnodup.of_map

end Tenancy.Tenant
