/-
What a pass does to the children. Whatever happens, it makes at most one call that changes them: the
creation of the first child of the plan that is missing, after everything before it was found in order, or
the deletion of the namespace of the workspace (`PassTrace.reshapes`).
-/
import Tenancy.Proofs.Run.Models

namespace Tenancy.Operator

open Lifecycle

variable {config : Config} {ws : Workspace} {name : String} {t : Trace}

/-! ## Topics -/

theorem Reports.about {mark : Bool} {condition : Option Condition} {r : Except Error Unit}
    (h : Reports name mark condition t r) : t.About [.reading, .clock, .status] := by
  cases h <;> simp [Trace.About, Call.topic]

theorem FailureReports.about {e : Error} (h : FailureReports name e t) : t.About [.reading, .clock, .status] := by
  cases h with
  | silent => exact Trace.about_nil _
  | made _ h => exact h.about

/-- What follows a step in a pass: nothing, or the report of its failure. -/
inductive Follows (name : String) : Except Error Requeue → Trace → Prop
  | nothing {requeue : Requeue} : Follows name (.ok requeue) []
  | report {e : Error} {t : Trace} : FailureReports name e t → Follows name (.error e) t

theorem Follows.about {r : Except Error Requeue} (h : Follows name r t) : t.About [.reading, .clock, .status] := by
  cases h with
  | nothing => exact Trace.about_nil _
  | report h => exact h.about

/-- A pass stops after it has read the workspace, or goes through a step. -/
theorem PassTrace.steps {r : Except Error Requeue} (h : PassTrace config name t r) :
    (∃ x, t = [⟨.workspace name, x⟩]) ∨ ∃ ws step u v, select (.of ws) = some step ∧ StepTrace config ws step u r ∧
      Follows name r v ∧ t = ⟨.workspace name, .ok (some ws)⟩ :: (u ++ v) := by
  cases h with
  | unread | absent | resting => exact .inl ⟨_, rfl⟩
  | done hs h => exact .inr ⟨_, _, _, [], hs, h, .nothing, by rw [List.append_nil]⟩
  | failed hs h hr => exact .inr ⟨_, _, _, _, hs, h, .report hr, rfl⟩

theorem SyncsRuntime.about {r : Except Error RuntimeSync} (h : SyncsRuntime config ws t r) :
    t.About [.readiness, .models] := by
  have sub : [Topic.models] ⊆ [.readiness, .models] := List.subset_cons_self ..
  cases h with
  | unknown e => simp [Trace.About, Call.topic]
  | notReady => simp [Trace.About, Call.topic]
  | failed _ h =>
    have := (syncModels_yields h).about.mono sub
    simpa [Trace.about_cons, Call.topic] using this
  | listed _ _ h =>
    have := (syncModels_yields h).about.mono sub
    simpa [Trace.about_cons, Trace.about_append, Trace.about_nil, Call.topic] using this

theorem Cleared.about {done : List Tenant.Entry} (h : Cleared config ws done t) :
    t.About [.lookup, .readiness, .models] := by
  induction h with
  | nil => exact Trace.about_nil _
  | ensure _ ih => exact Trace.about_cons.2 ⟨List.mem_cons_self .., ih⟩
  | readiness hs _ ih => exact Trace.about_append.2 ⟨hs.about.mono (List.subset_cons_self ..), ih⟩

theorem published_about (ws : Workspace) (step : Step) :
    Trace.About [.events] (if step = .create then [⟨.publish (createdEvent ws), ()⟩] else []) := by
  split
  · exact Trace.about_cons.2 ⟨List.mem_singleton_self _, Trace.about_nil _⟩
  · exact Trace.about_nil _

/-- A provisioning that ends complete has cleared the whole plan. -/
theorem Provisions.cleared (h : Provisions config ws t (.ok .complete)) : ∃ x settings t₁,
    settingsOf config x = .ok settings ∧ t = ⟨.configMap config.settingsNamespace config.settingsConfigMap, x⟩ :: t₁ ∧
      Cleared config ws (Tenant.plan ws settings config) t₁ := by
  cases h with
  | followed hs hplan hc hh =>
    cases hh
    rw [List.append_nil] at hplan ⊢
    exact ⟨_, _, _, hs, rfl, hplan ▸ hc⟩

/-! ## Creations -/

/-- The part of a trace that comes to a missing child and tries to create it. -/
inductive Attempts (config : Config) (ws : Workspace) (child : Object.Child) (x : Except Error Unit) :
    Trace → Prop
  | made {m : Except Error (Option ConfigMap)} {settings : Settings} {done rest : List Tenant.Entry}
      {owner : Object.OwnerReference} {t : Trace} : settingsOf config m = .ok settings →
      Tenant.plan ws settings config = done ++ .ensure child :: rest → Cleared config ws done t →
      ws.ownerReference? = some owner →
      Attempts config ws child x
        (⟨.configMap config.settingsNamespace config.settingsConfigMap, m⟩ :: (t ++
          [⟨.childExists child, .ok false⟩, ⟨.createChild (child.setOwner owner), x⟩]))

/-- Before the creation everything up to the child was asked for, and nothing was changed. -/
theorem Attempts.split {child : Object.Child} {x : Except Error Unit} (h : Attempts config ws child x t) :
    ∃ settings done rest owner, ∃ u : Trace, Tenant.plan ws settings config = done ++ .ensure child :: rest ∧
      t = u ++ [⟨.createChild (child.setOwner owner), x⟩] ∧ u.About [.settings, .lookup, .readiness, .models] ∧
      ⟨.childExists child, .ok false⟩ ∈ u ∧ ∀ c, .ensure c ∈ done → ⟨.childExists c, .ok true⟩ ∈ u := by
  cases h with
  | @made m settings done rest owner u _ hp hc _ =>
    refine ⟨settings, done, rest, owner, ⟨.configMap config.settingsNamespace config.settingsConfigMap, m⟩ ::
      (u ++ [⟨.childExists child, .ok false⟩]), hp, by simp, ?_, by simp, ?_⟩
    · refine Trace.about_cons.2 ⟨List.mem_cons_self .., Trace.about_append.2 ⟨?_, ?_⟩⟩
      · exact hc.about.mono (List.subset_cons_self ..)
      · simp [Trace.About, Call.topic]
    · intro c hm
      exact List.mem_cons_of_mem _ (List.mem_append_left _ (hc.present hm))

/-- The provisioning changes nothing, or its last call tries to create the first child that is missing. -/
theorem Provisions.attempts {r : Except Error Outcome} (h : Provisions config ws t r) :
    t.About [.settings, .lookup, .readiness, .models] ∨
      ∃ child x, Attempts config ws child x t ∧ r = x.map fun _ => .created child.kind child.name := by
  cases h with
  | unsettled h => exact .inl (by simp [Trace.About, Call.topic])
  | @followed m _ done rest t₁ t₂ _ hs hp hc hh =>
    have quiet : t₂.About [.lookup, .readiness, .models] →
        Trace.About [.settings, .lookup, .readiness, .models]
          (⟨.configMap config.settingsNamespace config.settingsConfigMap, m⟩ :: (t₁ ++ t₂)) := by
      intro h
      refine Trace.about_cons.2 ⟨List.mem_cons_self .., ?_⟩
      exact (Trace.about_append.2 ⟨hc.about, h⟩).mono (List.subset_cons_self ..)
    cases hh with
    | complete => exact .inl (quiet (Trace.about_nil _))
    | created h =>
      cases h with
      | created ho => exact .inr ⟨_, .ok (), .made hs hp hc ho, rfl⟩
    | refused h =>
      cases h with
      | unknown e => exact .inl (quiet (by simp [Trace.About, Call.topic]))
      | ownerless h => exact .inl (quiet (by simp [Trace.About, Call.topic]))
      | refused _ ho => exact .inr ⟨_, .error _, .made hs hp hc ho, rfl⟩
    | awaiting h => exact .inl (quiet (h.about.mono (List.subset_cons_self ..)))
    | failed h => exact .inl (quiet (h.about.mono (List.subset_cons_self ..)))

theorem Provisions.about {r : Except Error Outcome} (h : Provisions config ws t r) :
    t.About [.settings, .lookup, .readiness, .models, .change] := by
  rcases h.attempts with ha | ⟨child, x, ha, -⟩
  · exact ha.mono (by decide)
  · obtain ⟨settings, done, rest, owner, u, -, rfl, hu, -, -⟩ := ha.split
    refine Trace.about_append.2 ⟨hu.mono (by decide), ?_⟩
    simp [Trace.About, Call.topic]

/-- A pass that provisions writes no guards. -/
theorem ProvisionPass.about {step : Step} {r : Except Error Requeue} (h : ProvisionPass config ws step t r) :
    t.About [.settings, .lookup, .readiness, .models, .change, .reading, .clock, .status, .events] := by
  cases h with
  | failed hp => exact hp.about.mono (by decide)
  | created hp hr | awaiting hp hr | unmarked hp hr =>
    exact Trace.about_append.2 ⟨hp.about.mono (by decide), hr.about.mono (by decide)⟩
  | complete hp hr =>
    refine Trace.about_append.2 ⟨hp.about.mono (by decide), Trace.about_append.2 ⟨hr.about.mono (by decide), ?_⟩⟩
    exact (published_about ws step).mono (by decide)

/-! ## Passes -/

/-- What a pass does to the children. -/
inductive Reshapes (config : Config) (name : String) (t : Trace) : Prop
  | nothing : (∀ x ∈ t, x.call.topic ≠ .change) → Reshapes config name t
  | creation {ws : Workspace} {child : Object.Child} {x : Except Error Unit} {t₁ t₂ : Trace} :
      select (.of ws) = some .create ∨ select (.of ws) = some .update → Attempts config ws child x t₁ →
      t₂.About [.reading, .clock, .status] → t = ⟨.workspace name, .ok (some ws)⟩ :: (t₁ ++ t₂) →
      Reshapes config name t
  | deletion {ws : Workspace} {x : Except Error Unit} {t₁ : Trace} : select (.of ws) = some .delete →
      t₁.About [.reading, .clock, .status, .events, .guards] →
      t = ⟨.workspace name, .ok (some ws)⟩ :: ⟨.deleteNamespace ws.workspaceName, x⟩ :: t₁ →
      Reshapes config name t

theorem ProvisionPass.attempts {step : Step} {r : Except Error Requeue} (h : ProvisionPass config ws step t r) :
    (∀ x ∈ t, x.call.topic ≠ .change) ∨
      ∃ child x t₁ t₂, Attempts config ws child x t₁ ∧ t₂.About [.reading, .clock, .status] ∧ t = t₁ ++ t₂ := by
  -- a provisioning that ends without a creation has changed nothing
  have still : ∀ {t : Trace} {o : Outcome}, Provisions config ws t (.ok o) → (∀ k n, o ≠ .created k n) →
      ∀ x ∈ t, x.call.topic ≠ .change := by
    intro t o hp ho
    rcases hp.attempts with ha | ⟨child, x, -, hr⟩
    · exact ha.ne (by decide)
    · cases x with
      | ok u => cases hr; exact absurd rfl (ho _ _)
      | error e => cases hr
  cases h with
  | failed hp =>
    rcases hp.attempts with ha | ⟨child, x, ha, -⟩
    · exact .inl (ha.ne (by decide))
    · exact .inr ⟨child, x, _, [], ha, Trace.about_nil _, (List.append_nil _).symm⟩
  | created hp hr =>
    rcases hp.attempts with ha | ⟨child, x, ha, -⟩
    · exact .inl (List.forall_mem_append.2 ⟨ha.ne (by decide), hr.about.ne (by decide)⟩)
    · exact .inr ⟨child, x, _, _, ha, hr.about, rfl⟩
  | awaiting hp hr | unmarked hp hr =>
    exact .inl (List.forall_mem_append.2 ⟨still hp nofun, hr.about.ne (by decide)⟩)
  | complete hp hr =>
    refine .inl (List.forall_mem_append.2 ⟨still hp nofun, List.forall_mem_append.2 ⟨hr.about.ne (by decide), ?_⟩⟩)
    exact (published_about ws step).ne (by decide)

/-- A pass makes at most one call that changes the children. -/
theorem PassTrace.reshapes {r : Except Error Requeue} (h : PassTrace config name t r) : Reshapes config name t := by
  obtain ⟨x, rfl⟩ | ⟨ws, step, u, v, hs, hstep, hv, rfl⟩ := h.steps
  · exact .nothing (List.forall_mem_singleton.2 nofun)
  have hreport : ∀ x ∈ v, x.call.topic ≠ .change := hv.about.ne (by decide)
  have still : (∀ x ∈ u, x.call.topic ≠ .change) →
      Reshapes config name (⟨.workspace name, .ok (some ws)⟩ :: (u ++ v)) := fun h =>
    .nothing (List.forall_mem_cons.2 ⟨nofun, List.forall_mem_append.2 ⟨h, hreport⟩⟩)
  have provision : step = .create ∨ step = .update → ProvisionPass config ws step u r →
      Reshapes config name (⟨.workspace name, .ok (some ws)⟩ :: (u ++ v)) := by
    intro hcu hp
    rcases hp.attempts with h | ⟨child, x, t₁, t₂, ha, h₂, rfl⟩
    · exact still h
    · refine .creation (hcu.imp (· ▸ hs) (· ▸ hs)) ha (Trace.about_append.2 ⟨h₂, hv.about⟩) ?_
      rw [List.append_assoc]
  cases hstep with
  | guarded | abandoned => exact still (List.forall_mem_nil _)
  | attached => exact still (List.forall_mem_singleton.2 nofun)
  | created hp => exact provision (.inl rfl) hp
  | updated hp => exact provision (.inr rfl) hp
  | undeleted => exact .deletion hs (hv.about.mono (by decide)) rfl
  | deleted =>
    refine .deletion hs (Trace.about_append.2 ⟨?_, hv.about.mono (by decide)⟩) rfl
    simp [Trace.About, Call.topic]

end Tenancy.Operator
