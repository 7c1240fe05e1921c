/-
Passes in which no call fails. Such a pass can fail only on its own account: an object that cannot own
children, or settings that are not usable. Without that it ends well, and as its workspace and what it
finds have it.
-/
import Tenancy.Proofs.Run.Children
import Tenancy.Proofs.Workspace.Lifecycle

namespace Tenancy.Operator

open Lifecycle

/-- Whether a call was answered and not failed. -/
def Answered.succeeds : Answered → Bool
  | ⟨.workspace _, x⟩ => x.isOk
  | ⟨.setFinalizers .., x⟩ => x.isOk
  | ⟨.patchStatus .., x⟩ => x.isOk
  | ⟨.childExists _, x⟩ => x.isOk
  | ⟨.createChild _, x⟩ => x.isOk
  | ⟨.deleteNamespace _, x⟩ => x.isOk
  | ⟨.readyReplicas .., x⟩ => x.isOk
  | ⟨.configMap .., x⟩ => x.isOk
  | ⟨.listModels _, x⟩ => x.isOk
  | ⟨.listRunning _, x⟩ => x.isOk
  | ⟨.pull .., .finished x⟩ => x.isOk
  | ⟨.pull .., _⟩ => false
  | ⟨.createModel .., x⟩ => x.isOk
  | ⟨.publish _, _⟩ | ⟨.openRuntime _, _⟩ | ⟨.now, _⟩ => true

/-- No call of the trace failed. -/
def Trace.Smooth (t : Trace) : Prop := ∀ x ∈ t, x.succeeds = true

theorem Trace.smooth_cons {x : Answered} {t : Trace} :
    Trace.Smooth (x :: t) ↔ x.succeeds = true ∧ Trace.Smooth t := List.forall_mem_cons

theorem Trace.smooth_append {t t' : Trace} :
    Trace.Smooth (t ++ t') ↔ Trace.Smooth t ∧ Trace.Smooth t' := List.forall_mem_append

variable {config : Config} {ws : Workspace} {name : String} {t : Trace}

/-! ## What cannot fail -/

theorem Target.Brings.not_smooth {tenant : String} {limit : Duration} {target : Target} {x : Answered} {e : Error}
    (h : target.Brings tenant limit x (.error e)) : x.succeeds = false := by
  cases target with
  | base model =>
    obtain ⟨y, rfl, hy⟩ := h
    cases y with
    | finished z =>
      cases z with
      | ok u => cases hy
      | error e => rfl
    | _ => rfl
  | variant name file =>
    obtain ⟨y, rfl, hy⟩ := h
    cases y with
    | ok u => cases hy
    | error e => rfl

theorem Syncs.not_smooth {tenant : String} {limit : Duration} {ts : List Target} {e : Error}
    (h : Syncs tenant limit ts t (.error e)) : ¬t.Smooth := by
  generalize hr : (Except.error e : Except Error Unit) = r at h
  intro ht
  induction h with
  | done => cases hr
  | unlisted e => cases (Trace.smooth_cons.1 ht).1
  | held _ _ ih => exact ih hr (Trace.smooth_cons.1 ht).2
  | brought _ _ _ ih => exact ih hr (Trace.smooth_cons.1 (Trace.smooth_cons.1 ht).2).2
  | failed _ hb =>
    cases hb.not_smooth.symm.trans (Trace.smooth_cons.1 (Trace.smooth_cons.1 ht).2).1

theorem SyncsRuntime.not_smooth {e : Error} (h : SyncsRuntime config ws t (.error e)) : ¬t.Smooth := by
  generalize hr : (Except.error e : Except Error RuntimeSync) = r at h
  intro ht
  cases h with
  | unknown e => cases (Trace.smooth_cons.1 ht).1
  | notReady => cases hr
  | failed _ h =>
    exact (syncModels_yields h).not_smooth (Trace.smooth_cons.1 (Trace.smooth_cons.1 ht).2).2
  | listed running _ h =>
    cases running with
    | ok entries => cases hr
    | error e =>
      have := (Trace.smooth_append.1 (Trace.smooth_cons.1 (Trace.smooth_cons.1 ht).2).2).2
      cases (Trace.smooth_cons.1 this).1

theorem Reports.not_smooth {mark : Bool} {condition : Option Condition} {e : Error}
    (h : Reports name mark condition t (.error e)) : ¬t.Smooth := by
  intro ht
  cases h with
  | unread e => cases (Trace.smooth_cons.1 ht).1
  | written => cases (Trace.smooth_cons.1 (Trace.smooth_cons.1 (Trace.smooth_cons.1 ht).2).2).1

/-! ## What ends well -/

/-- If the workspace can own children and the settings can be used, the provisioning ends well. -/
theorem Provisions.smooth {r : Except Error Outcome} (h : Provisions config ws t r) (ht : t.Smooth)
    (howner : ws.ownerReference? ≠ none)
    (hsettings : ∀ x, ⟨.configMap config.settingsNamespace config.settingsConfigMap, x⟩ ∈ t →
      ∃ settings, settingsOf config x = .ok settings) : ∃ o, r = .ok o := by
  cases h with
  | unsettled hs =>
    obtain ⟨settings, h⟩ := hsettings _ (List.mem_singleton_self _)
    cases hs.symm.trans h
  | followed hs hp hc hh =>
    have ht₂ := (Trace.smooth_append.1 (Trace.smooth_cons.1 ht).2).2
    cases hh with
    | complete => exact ⟨_, rfl⟩
    | created h => exact ⟨_, rfl⟩
    | awaiting h => exact ⟨_, rfl⟩
    | failed h => exact absurd ht₂ h.not_smooth
    | refused h =>
      cases h with
      | unknown e => cases (Trace.smooth_cons.1 ht₂).1
      | ownerless h => exact absurd h howner
      | refused e => cases (Trace.smooth_cons.1 (Trace.smooth_cons.1 ht₂).2).1

/-- How a pass that provisions goes if no call fails. -/
inductive Smoothly (config : Config) (ws : Workspace) (step : Step) : Trace → Except Error Requeue → Prop
  | created {child : Object.Child} {t t' : Trace} : Attempts config ws child (.ok ()) t →
      Reports ws.name false (some (.progressing ("created " ++ child.kind.label ++ " " ++ child.name))) t' (.ok ()) →
      Smoothly config ws step (t ++ t') (.ok (if step = .update then .immediate else .success))
  | awaiting {t t' : Trace} : Provisions config ws t (.ok .awaitingReadiness) →
      Reports ws.name false (some (.progressing "waiting for the model runtime to become ready")) t' (.ok ()) →
      Smoothly config ws step (t ++ t') (.ok .readiness)
  | complete {t t' : Trace} : Provisions config ws t (.ok .complete) →
      Reports ws.name (decide (step = .create)) (some .ready) t' (.ok ()) →
      Smoothly config ws step
        (t ++ (t' ++ if step = .create then [⟨.publish (createdEvent ws), ()⟩] else [])) (.ok .success)

theorem ProvisionPass.smooth {step : Step} {r : Except Error Requeue} (h : ProvisionPass config ws step t r)
    (ht : t.Smooth) (howner : ws.ownerReference? ≠ none)
    (hsettings : ∀ x, ⟨.configMap config.settingsNamespace config.settingsConfigMap, x⟩ ∈ t →
      ∃ settings, settingsOf config x = .ok settings) : Smoothly config ws step t r := by
  have reported : ∀ {t : Trace} {mark : Bool} {c : Condition} {x : Except Error Unit},
      Reports ws.name mark (some c) t x → t.Smooth → x = .ok () := by
    intro t mark c x hr ht
    cases x with
    | ok u => rfl
    | error e => exact absurd ht hr.not_smooth
  cases h with
  | failed hp =>
    obtain ⟨o, ho⟩ := hp.smooth ht howner hsettings
    cases ho
  | @created t t' kind name x hp hr =>
    rcases hp.attempts with ha | ⟨child, y, ha, hy⟩
    · -- a provisioning without a call that changes something has not created anything
      cases hp with
      | followed hs hplan hc hh =>
        cases hh with
        | created h =>
          cases h with
          | created ho =>
            have := ha _ (List.mem_cons_of_mem _ (List.mem_append_right _ (List.mem_cons_of_mem _ (List.mem_cons_self ..))))
            simp [Call.topic] at this
    · cases y with
      | error e => cases hy
      | ok u =>
        cases hy
        obtain rfl := reported hr (Trace.smooth_append.1 ht).2
        exact .created ha hr
  | awaiting hp hr =>
    obtain rfl := reported hr (Trace.smooth_append.1 ht).2
    exact .awaiting hp hr
  | unmarked hp hr => exact absurd (Trace.smooth_append.1 ht).2 hr.not_smooth
  | complete hp hr => exact .complete hp hr

/-! ## Passes over a workspace that is to stay -/

/-- How a pass over a stored workspace that is not to be deleted goes if no call fails. -/
inductive Tends (config : Config) (name : String) (ws : Workspace) : Trace → Except Error Requeue → Prop
  | attached : ws.hasFinalizer = false → Tends config name ws
      [⟨.workspace name, .ok (some ws)⟩,
        ⟨.setFinalizers ws.name ws.metadata.resourceVersion (ws.finalizers ++ [Workspace.finalizer]), .ok ()⟩]
      (.ok .immediate)
  | provisioned {t : Trace} {r : Except Error Requeue} : ws.hasFinalizer = true →
      Smoothly config ws (if ws.isCreated then .update else .create) t r →
      Tends config name ws (⟨.workspace name, .ok (some ws)⟩ :: t) r

theorem StepTrace.smooth {step : Step} {r : Except Error Requeue} (h : StepTrace config ws step t r)
    (hstep : step = if ws.hasFinalizer then if ws.isCreated then .update else .create else .finalizer)
    (ht : t.Smooth) (howner : ws.ownerReference? ≠ none)
    (hsettings : ∀ x, ⟨.configMap config.settingsNamespace config.settingsConfigMap, x⟩ ∈ t →
      ∃ settings, settingsOf config x = .ok settings) :
    Tends config name ws (⟨.workspace name, .ok (some ws)⟩ :: t) r := by
  cases hf : ws.hasFinalizer with
  | false =>
    rw [hf, if_neg Bool.false_ne_true] at hstep
    subst hstep
    cases h with
    | guarded h => cases hf.symm.trans h
    | attached x _ =>
      cases x with
      | ok u => exact .attached hf
      | error e => cases (Trace.smooth_cons.1 ht).1
  | true =>
    rw [hf, if_pos rfl] at hstep
    have hp : ProvisionPass config ws step t r := by
      cases hc : ws.isCreated <;> rw [hc] at hstep <;> subst hstep <;> cases h <;> assumption
    exact .provisioned hf (hstep ▸ hp.smooth ht howner hsettings)

/-- A report of a failure follows no pass in which no call fails. -/
theorem PassTrace.smooth {r : Except Error Requeue} (h : PassTrace config name t r) (ht : t.Smooth)
    (hws : ∀ x t', t = ⟨.workspace name, .ok x⟩ :: t' → x = some ws) (halive : ws.pendingDeletion = false)
    (howner : ws.ownerReference? ≠ none)
    (hsettings : ∀ x, ⟨.configMap config.settingsNamespace config.settingsConfigMap, x⟩ ∈ t →
      ∃ settings, settingsOf config x = .ok settings) : Tends config name ws t r := by
  have hselect : select (.of ws) =
      some (if ws.hasFinalizer then if ws.isCreated then .update else .create else .finalizer) := by
    rw [← select_alive, ← halive]
    rfl
  cases h with
  | unread e => cases (Trace.smooth_cons.1 ht).1
  | absent => cases hws _ _ rfl
  | resting hs =>
    cases hws _ _ rfl
    cases hs.symm.trans hselect
  | done hs h =>
    cases hws _ _ rfl
    exact h.smooth (Option.some.inj (hs.symm.trans hselect)) (Trace.smooth_cons.1 ht).2 howner
      fun x hx => hsettings x (List.mem_cons_of_mem _ hx)
  | failed hs h hr =>
    -- no step ends with an error on its own account
    cases hws _ _ rfl
    have : Tends config name ws _ _ := h.smooth (Option.some.inj (hs.symm.trans hselect))
      (Trace.smooth_append.1 (Trace.smooth_cons.1 ht).2).1 howner
      fun x hx => hsettings x (List.mem_cons_of_mem _ (List.mem_append_left _ hx))
    generalize hr : (Except.error _ : Except Error Requeue) = r' at this
    cases this with
    | attached => cases hr
    | provisioned _ h => cases h <;> cases hr

end Tenancy.Operator
