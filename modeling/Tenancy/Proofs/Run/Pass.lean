/-
The anatomy of a pass. For each operation of the reconciler an inductive relation lists the traces
it can have, one constructor for each way in which it can end, and a lemma says that there are no
others. `PassTrace` does this for a whole pass; every statement about what a pass may call, and in
which order, is read off it.
-/
import Tenancy.Operator.Reconcile
import Tenancy.Proofs.Run.Trace

namespace Tenancy.Operator

open Program Lifecycle

variable {config : Config} {ws : Workspace} {t : Trace}

/-! ## Children -/

/-- How the look for a child, and its creation if it is missing, can go. -/
inductive Ensures (owner : Workspace) (child : Object.Child) : Trace → Except Error Ensured → Prop
  | unknown (e : Error) : Ensures owner child [⟨.childExists child, .error e⟩] (.error e)
  | present : Ensures owner child [⟨.childExists child, .ok true⟩] (.ok .present)
  | ownerless : owner.ownerReference? = none → Ensures owner child [⟨.childExists child, .ok false⟩]
      (.error (.internal ("workspace " ++ owner.name ++ " has no uid; cannot own children")))
  | refused {o : Object.OwnerReference} (e : Error) : owner.ownerReference? = some o →
      Ensures owner child [⟨.childExists child, .ok false⟩, ⟨.createChild (child.setOwner o), .error e⟩]
        (.error e)
  | created {o : Object.OwnerReference} : owner.ownerReference? = some o →
      Ensures owner child [⟨.childExists child, .ok false⟩, ⟨.createChild (child.setOwner o), .ok ()⟩]
        (.ok .created)

theorem ensure_yields {owner : Workspace} {child : Object.Child} {r : Except Error Ensured}
    (h : (ensure owner child).run.Yields t r) : Ensures owner child t r := by
  unfold ensure at h
  rw [Operation.yields_bind] at h
  rcases h with ⟨e, h, rfl⟩ | ⟨t₁, found, t₂, rfl, h₁, h⟩
  · obtain rfl := (yields_call ..).1 h
    exact .unknown e
  · obtain rfl := (yields_call ..).1 h₁
    cases found with
    | true => rw [if_pos rfl] at h; obtain ⟨rfl, rfl⟩ := h; exact .present
    | false =>
      cases ho : owner.ownerReference? with
      | none =>
        simp only [ho, Bool.false_eq_true, if_false] at h
        obtain ⟨rfl, rfl⟩ := h
        exact .ownerless ho
      | some o =>
        simp only [ho, Bool.false_eq_true, if_false] at h
        rw [Operation.yields_bind] at h
        rcases h with ⟨e, h, rfl⟩ | ⟨t₁, x, t₂, rfl, h₁, h⟩
        · obtain rfl := (yields_call ..).1 h
          exact .refused e ho
        · obtain rfl := (yields_call ..).1 h₁
          obtain ⟨rfl, rfl⟩ := h
          exact .created ho

/-! ## Runtimes -/

/-- How the look at a runtime, and the work on its models, can go. -/
inductive SyncsRuntime (config : Config) (ws : Workspace) : Trace → Except Error RuntimeSync → Prop
  | unknown (e : Error) : SyncsRuntime config ws
      [⟨.readyReplicas ws.workspaceName (Tenant.runtimeName ws.workspaceName), .error e⟩] (.error e)
  | notReady {n : Int} : n < expectedReplicas → SyncsRuntime config ws
      [⟨.readyReplicas ws.workspaceName (Tenant.runtimeName ws.workspaceName), .ok n⟩] (.ok .notReady)
  | failed {n : Int} {t : Trace} {e : Error} : expectedReplicas ≤ n →
      (syncModels ws.workspaceName ws.spec.promptPatterns config.pullLimit ws.spec.models).run.Yields t
        (.error e) →
      SyncsRuntime config ws
        (⟨.readyReplicas ws.workspaceName (Tenant.runtimeName ws.workspaceName), .ok n⟩ ::
          ⟨.openRuntime ws.workspaceName, ()⟩ :: t) (.error e)
  | listed {n : Int} {t : Trace} (running : Except Model.Error (List Model.Entry)) : expectedReplicas ≤ n →
      (syncModels ws.workspaceName ws.spec.promptPatterns config.pullLimit ws.spec.models).run.Yields t
        (.ok ()) →
      SyncsRuntime config ws
        (⟨.readyReplicas ws.workspaceName (Tenant.runtimeName ws.workspaceName), .ok n⟩ ::
          ⟨.openRuntime ws.workspaceName, ()⟩ :: (t ++ [⟨.listRunning ws.workspaceName, running⟩]))
        ((running.mapError .modelRuntime).map fun _ => .synced)

theorem syncRuntime_yields {r : Except Error RuntimeSync} (h : (syncRuntime config ws).run.Yields t r) :
    SyncsRuntime config ws t r := by
  unfold syncRuntime at h
  rw [Operation.yields_bind] at h
  rcases h with ⟨e, h, rfl⟩ | ⟨t₁, n, t₂, rfl, h₁, h⟩
  · obtain rfl := (yields_call ..).1 h
    exact .unknown e
  · obtain rfl := (yields_call ..).1 h₁
    by_cases hn : n < expectedReplicas
    · rw [if_pos hn] at h
      obtain ⟨rfl, rfl⟩ := h
      exact .notReady hn
    · rw [if_neg hn] at h
      have hn := not_lt.1 hn
      obtain ⟨u, t₂, rfl, hopen⟩ := (Operation.yields_always_bind (.openRuntime _) ..).1 h
      rw [Operation.yields_bind] at hopen
      rcases hopen with ⟨e, hsync, rfl⟩ | ⟨t₁, y, t₂, rfl, hsync, hlist⟩
      · exact .failed hn hsync
      -- what is running is asked for the record only, but the question can fail
      rw [Operation.yields_bind] at hlist
      rcases hlist with ⟨e, hlist, rfl⟩ | ⟨t₃, z, t₄, rfl, hlist, rfl, rfl⟩
      · obtain ⟨running, hr, he⟩ := (Operation.yields_attemptRuntime ..).1 hlist
        obtain rfl := (yields_call ..).1 hr
        have := @SyncsRuntime.listed config ws _ _ running hn hsync
        rwa [← he] at this
      · obtain ⟨running, hr, he⟩ := (Operation.yields_attemptRuntime ..).1 hlist
        obtain rfl := (yields_call ..).1 hr
        have := @SyncsRuntime.listed config ws _ _ running hn hsync
        rwa [← he] at this

/-! ## The plan -/

/-- The trace of entries that were all found in order: each child present, the runtime ready and its
models up to date. -/
inductive Cleared (config : Config) (ws : Workspace) : List Tenant.Entry → Trace → Prop
  | nil : Cleared config ws [] []
  | ensure {child : Object.Child} {rest : List Tenant.Entry} {t : Trace} : Cleared config ws rest t →
      Cleared config ws (.ensure child :: rest) (⟨.childExists child, .ok true⟩ :: t)
  | readiness {rest : List Tenant.Entry} {t t' : Trace} : SyncsRuntime config ws t (.ok .synced) →
      Cleared config ws rest t' → Cleared config ws (.readiness :: rest) (t ++ t')

/-- How the way through a plan ends, at its first entry that is not in order. -/
inductive Halts (config : Config) (ws : Workspace) :
    List Tenant.Entry → Trace → Except Error Outcome → Prop
  | complete : Halts config ws [] [] (.ok .complete)
  | created {child : Object.Child} {rest : List Tenant.Entry} {t : Trace} :
      Ensures ws child t (.ok .created) →
      Halts config ws (.ensure child :: rest) t (.ok (.created child.kind child.name))
  | refused {child : Object.Child} {rest : List Tenant.Entry} {t : Trace} {e : Error} :
      Ensures ws child t (.error e) → Halts config ws (.ensure child :: rest) t (.error e)
  | awaiting {rest : List Tenant.Entry} {t : Trace} : SyncsRuntime config ws t (.ok .notReady) →
      Halts config ws (.readiness :: rest) t (.ok .awaitingReadiness)
  | failed {rest : List Tenant.Entry} {t : Trace} {e : Error} : SyncsRuntime config ws t (.error e) →
      Halts config ws (.readiness :: rest) t (.error e)

/-- A way through a plan clears some of its first entries and halts at the next. -/
theorem follow_yields {entries : List Tenant.Entry} {r : Except Error Outcome}
    (h : (follow config ws entries).run.Yields t r) :
    ∃ done rest t₁ t₂, entries = done ++ rest ∧ t = t₁ ++ t₂ ∧ Cleared config ws done t₁ ∧
      Halts config ws rest t₂ r := by
  induction entries generalizing t with
  | nil =>
    obtain ⟨rfl, rfl⟩ := h
    exact ⟨[], [], [], [], rfl, rfl, .nil, .complete⟩
  | cons entry entries ih =>
    cases entry with
    | ensure child =>
      unfold follow at h
      rw [Operation.yields_bind] at h
      rcases h with ⟨e, h, rfl⟩ | ⟨t₁, found, t₂, rfl, h₁, h⟩
      · exact ⟨[], _, [], t, rfl, rfl, .nil, .refused (ensure_yields h)⟩
      · have h₁ := ensure_yields h₁
        cases found with
        | created =>
          obtain ⟨rfl, rfl⟩ := h
          exact ⟨[], _, [], t₁, rfl, by simp, .nil, .created h₁⟩
        | present =>
          cases h₁
          obtain ⟨done, rest, u₁, u₂, rfl, rfl, hc, hh⟩ := ih h
          exact ⟨.ensure child :: done, rest, _, u₂, rfl, rfl, .ensure hc, hh⟩
    | readiness =>
      unfold follow at h
      rw [Operation.yields_bind] at h
      rcases h with ⟨e, h, rfl⟩ | ⟨t₁, state, t₂, rfl, h₁, h⟩
      · exact ⟨[], _, [], t, rfl, rfl, .nil, .failed (syncRuntime_yields h)⟩
      · have h₁ := syncRuntime_yields h₁
        cases state with
        | notReady =>
          obtain ⟨rfl, rfl⟩ := h
          exact ⟨[], _, [], t₁, rfl, by simp, .nil, .awaiting h₁⟩
        | synced =>
          obtain ⟨done, rest, u₁, u₂, rfl, rfl, hc, hh⟩ := ih h
          exact ⟨.readiness :: done, rest, _, u₂, rfl, by rw [List.append_assoc], .readiness h₁ hc, hh⟩

/-- A child among the cleared entries was found present. -/
theorem Cleared.present {done : List Tenant.Entry} (h : Cleared config ws done t) {child : Object.Child}
    (hc : .ensure child ∈ done) : ⟨.childExists child, .ok true⟩ ∈ t := by
  induction h with
  | nil => cases hc
  | ensure _ ih =>
    rcases List.mem_cons.1 hc with hc | hc
    · cases hc; exact List.mem_cons_self ..
    · exact List.mem_cons_of_mem _ (ih hc)
  | readiness _ _ ih =>
    rcases List.mem_cons.1 hc with hc | hc
    · cases hc
    · exact List.mem_append_right _ (ih hc)

/-- A runtime that is in order was found ready, and its models were brought up to date. -/
theorem SyncsRuntime.synced (h : SyncsRuntime config ws t (.ok .synced)) : ∃ n u running,
    t = ⟨.readyReplicas ws.workspaceName (Tenant.runtimeName ws.workspaceName), .ok n⟩ ::
      ⟨.openRuntime ws.workspaceName, ()⟩ :: (u ++ [⟨.listRunning ws.workspaceName, running⟩]) ∧
    expectedReplicas ≤ n ∧
    (syncModels ws.workspaceName ws.spec.promptPatterns config.pullLimit ws.spec.models).run.Yields u (.ok ()) := by
  generalize hr : (Except.ok RuntimeSync.synced : Except Error RuntimeSync) = r at h
  cases h with
  | unknown | notReady | failed => cases hr
  | listed running hn hs => exact ⟨_, _, running, rfl, hn, hs⟩

/-- If the gate is among the cleared entries, the runtime was found ready and its models were brought up
to date. -/
theorem Cleared.synced {done : List Tenant.Entry} (h : Cleared config ws done t)
    (hr : .readiness ∈ done) : ∃ t₁ n t₂ t₃,
      t = t₁ ++ ⟨.readyReplicas ws.workspaceName (Tenant.runtimeName ws.workspaceName), .ok n⟩ ::
        ⟨.openRuntime ws.workspaceName, ()⟩ :: (t₂ ++ t₃) ∧ expectedReplicas ≤ n ∧
      (syncModels ws.workspaceName ws.spec.promptPatterns config.pullLimit ws.spec.models).run.Yields t₂
        (.ok ()) := by
  induction h with
  | nil => cases hr
  | ensure _ ih =>
    rcases List.mem_cons.1 hr with hr | hr
    · cases hr
    · obtain ⟨t₁, n, t₂, t₃, rfl, hn, hs⟩ := ih hr
      exact ⟨_ :: t₁, n, t₂, t₃, rfl, hn, hs⟩
  | @readiness _ t t' hs _ _ =>
    obtain ⟨n, u, running, rfl, hn, hs⟩ := hs.synced
    exact ⟨[], n, u, ⟨.listRunning ws.workspaceName, running⟩ :: t', by simp, hn, hs⟩

/-! ## Reports -/

/-- The status of a workspace with a report merged into it. -/
def Reported (latest : Workspace) (now : String) (mark : Bool) (condition : Option Condition) : Status :=
  (latest.status.getD {}).merge now mark condition latest.metadata.generation

/-- How a report can go; it makes at most one write, based on its own reading. -/
inductive Reports (name : String) (mark : Bool) (condition : Option Condition) :
    Trace → Except Error Unit → Prop
  | unread (e : Error) : Reports name mark condition [⟨.workspace name, .error e⟩] (.error e)
  | gone : Reports name mark condition [⟨.workspace name, .ok none⟩] (.ok ())
  | unchanged {latest : Workspace} {now : String} :
      (latest.status.getD {}).sameIgnoringTime (Reported latest now mark condition) = true →
      Reports name mark condition [⟨.workspace name, .ok (some latest)⟩, ⟨.now, now⟩] (.ok ())
  | written {latest : Workspace} {now : String} (x : Except Error Unit) :
      (latest.status.getD {}).sameIgnoringTime (Reported latest now mark condition) = false →
      Reports name mark condition [⟨.workspace name, .ok (some latest)⟩, ⟨.now, now⟩,
        ⟨.patchStatus latest.name latest.metadata.resourceVersion (Reported latest now mark condition), x⟩] x

theorem report_yields {name : String} {mark : Bool} {condition : Option Condition} {r : Except Error Unit}
    (h : (report name mark condition).run.Yields t r) : Reports name mark condition t r := by
  unfold report at h
  rw [Operation.yields_bind] at h
  rcases h with ⟨e, h, rfl⟩ | ⟨t₁, latest, t₂, rfl, h₁, h⟩
  · obtain rfl := (yields_call ..).1 h
    exact .unread e
  · obtain rfl := (yields_call ..).1 h₁
    cases latest with
    | none => obtain ⟨rfl, rfl⟩ := h; exact .gone
    | some latest =>
      obtain ⟨now, t₂, rfl, hnow⟩ := (Operation.yields_always_bind .now ..).1 h
      cases hs : (latest.status.getD {}).sameIgnoringTime (Reported latest now mark condition) with
      | true =>
        rw [Reported] at hs
        simp only [hs, if_true] at hnow
        obtain ⟨rfl, rfl⟩ := hnow
        exact .unchanged hs
      | false =>
        have hs' := hs
        rw [Reported] at hs'
        simp only [hs', Bool.false_eq_true, if_false] at hnow
        obtain rfl := (yields_call ..).1 hnow
        exact .written r hs

/-- How the report of a failure can go; a cancelled pass makes none. -/
inductive FailureReports (name : String) (e : Error) : Trace → Prop
  | silent : e.isCancelled = true → FailureReports name e []
  | made {t : Trace} {x : Except Error Unit} : e.isCancelled = false →
      Reports name false (some (.failed e)) t x → FailureReports name e t

theorem reportFailure_yields {name : String} {e : Error} (h : (reportFailure name e).Yields t ()) :
    FailureReports name e t := by
  unfold reportFailure at h
  cases hc : e.isCancelled with
  | true =>
    rw [if_pos hc] at h
    obtain ⟨rfl, -⟩ := h
    exact .silent hc
  | false =>
    rw [if_neg (by simp [hc])] at h
    obtain ⟨t₁, x, t₂, rfl, h₁, rfl, -⟩ := (yields_bind ..).1 h
    rw [List.append_nil]
    exact .made hc (report_yields h₁)

/-! ## Steps -/

/-- What the answer to the question for the settings comes to. -/
def settingsOf (config : Config) : Except Error (Option ConfigMap) → Except Error Settings
  | .error e => .error e
  | .ok none => .error (.settings (.notFound config.settingsNamespace config.settingsConfigMap))
  | .ok (some m) => (Settings.ofConfigMap m).mapError .settings

theorem loadSettings_yields {r : Except Error Settings} (h : (loadSettings config).run.Yields t r) :
    ∃ x, t = [⟨.configMap config.settingsNamespace config.settingsConfigMap, x⟩] ∧ r = settingsOf config x := by
  unfold loadSettings at h
  simp only [Operation.yields_bind] at h
  rcases h with ⟨e, h, rfl⟩ | ⟨t₁, m, t₂, rfl, h₁, h⟩
  · exact ⟨.error e, (yields_call ..).1 h, rfl⟩
  · obtain rfl := (yields_call ..).1 h₁
    cases m with
    | none => obtain ⟨rfl, rfl⟩ := h; exact ⟨_, rfl, rfl⟩
    | some m => obtain ⟨rfl, rfl⟩ := h; exact ⟨_, rfl, rfl⟩

/-- How the provisioning can go: the settings are read, then the plan is followed. -/
inductive Provisions (config : Config) (ws : Workspace) : Trace → Except Error Outcome → Prop
  | unsettled {x : Except Error (Option ConfigMap)} {e : Error} : settingsOf config x = .error e →
      Provisions config ws [⟨.configMap config.settingsNamespace config.settingsConfigMap, x⟩] (.error e)
  | followed {x : Except Error (Option ConfigMap)} {settings : Settings} {done rest : List Tenant.Entry}
      {t₁ t₂ : Trace} {r : Except Error Outcome} : settingsOf config x = .ok settings →
      Tenant.plan ws settings config = done ++ rest → Cleared config ws done t₁ → Halts config ws rest t₂ r →
      Provisions config ws
        (⟨.configMap config.settingsNamespace config.settingsConfigMap, x⟩ :: (t₁ ++ t₂)) r

theorem provision_yields {r : Except Error Outcome} (h : (provision config ws).run.Yields t r) :
    Provisions config ws t r := by
  unfold provision at h
  rw [Operation.yields_bind] at h
  rcases h with ⟨e, h, rfl⟩ | ⟨t₁, settings, t₂, rfl, h₁, h⟩
  · obtain ⟨x, rfl, hx⟩ := loadSettings_yields h
    exact .unsettled hx.symm
  · obtain ⟨x, rfl, hx⟩ := loadSettings_yields h₁
    obtain ⟨done, rest, u₁, u₂, hp, rfl, hc, hh⟩ := follow_yields h
    have := Provisions.followed hx.symm hp hc hh
    exact this

/-- How a pass that provisions can go. -/
inductive ProvisionPass (config : Config) (ws : Workspace) (step : Step) :
    Trace → Except Error Requeue → Prop
  | failed {t : Trace} {e : Error} : Provisions config ws t (.error e) →
      ProvisionPass config ws step t (.error e)
  | created {t t' : Trace} {kind : Object.Kind} {child : String} {x : Except Error Unit} :
      Provisions config ws t (.ok (.created kind child)) →
      Reports ws.name false (some (.progressing ("created " ++ kind.label ++ " " ++ child))) t' x →
      ProvisionPass config ws step (t ++ t') (x.map fun _ => if step = .update then .immediate else .success)
  | awaiting {t t' : Trace} {x : Except Error Unit} : Provisions config ws t (.ok .awaitingReadiness) →
      Reports ws.name false (some (.progressing "waiting for the model runtime to become ready")) t' x →
      ProvisionPass config ws step (t ++ t') (x.map fun _ => .readiness)
  | unmarked {t t' : Trace} {e : Error} : Provisions config ws t (.ok .complete) →
      Reports ws.name (decide (step = .create)) (some .ready) t' (.error e) →
      ProvisionPass config ws step (t ++ t') (.error e)
  | complete {t t' : Trace} : Provisions config ws t (.ok .complete) →
      Reports ws.name (decide (step = .create)) (some .ready) t' (.ok ()) →
      ProvisionPass config ws step
        (t ++ (t' ++ if step = .create then [⟨.publish (createdEvent ws), ()⟩] else [])) (.ok .success)

theorem provisionPass_yields {step : Step} {r : Except Error Requeue}
    (h : (provisionPass config step ws).run.Yields t r) : ProvisionPass config ws step t r := by
  unfold provisionPass at h
  rw [Operation.yields_bind] at h
  rcases h with ⟨e, h, rfl⟩ | ⟨t₁, outcome, t₂, rfl, h₁, h⟩
  · exact .failed (provision_yields h)
  · have h₁ := provision_yields h₁
    cases outcome with
    | created kind child =>
      simp only [Operation.yields_bind] at h
      rcases h with ⟨e, h, rfl⟩ | ⟨t₃, x, t₄, rfl, h₂, rfl, rfl⟩
      · exact .created h₁ (report_yields h)
      · rw [List.append_nil]; exact .created h₁ (report_yields h₂)
    | awaitingReadiness =>
      simp only [Operation.yields_bind] at h
      rcases h with ⟨e, h, rfl⟩ | ⟨t₃, x, t₄, rfl, h₂, rfl, rfl⟩
      · exact .awaiting h₁ (report_yields h)
      · rw [List.append_nil]; exact .awaiting h₁ (report_yields h₂)
    | complete =>
      simp only [Operation.yields_bind] at h
      rcases h with ⟨e, h, rfl⟩ | ⟨t₃, x, t₄, rfl, h₂, h⟩
      · exact .unmarked h₁ (report_yields h)
      · have := ProvisionPass.complete h₁ (report_yields h₂)
        by_cases hs : step = .create
        · simp only [hs, decide_true, if_true] at h
          obtain ⟨u, t₅, rfl, rfl, rfl⟩ := (Operation.yields_always_bind (.publish _) ..).1 h
          rw [if_pos hs] at this
          exact this
        · simp only [hs, decide_false, Bool.false_eq_true, if_false] at h
          obtain ⟨rfl, rfl⟩ := h
          rw [if_neg hs] at this
          simpa using this

/-- How a step can go. -/
inductive StepTrace (config : Config) (ws : Workspace) : Step → Trace → Except Error Requeue → Prop
  | guarded : ws.hasFinalizer = true → StepTrace config ws .finalizer [] (.ok .immediate)
  | attached (x : Except Error Unit) : ws.hasFinalizer = false → StepTrace config ws .finalizer
      [⟨.setFinalizers ws.name ws.metadata.resourceVersion (ws.finalizers ++ [Workspace.finalizer]), x⟩]
      (x.map fun _ => .immediate)
  | created {t : Trace} {r : Except Error Requeue} : ProvisionPass config ws .create t r →
      StepTrace config ws .create t r
  | abandoned : StepTrace config ws .abandon [] (.ok .success)
  | updated {t : Trace} {r : Except Error Requeue} : ProvisionPass config ws .update t r →
      StepTrace config ws .update t r
  | undeleted (e : Error) : StepTrace config ws .delete [⟨.deleteNamespace ws.workspaceName, .error e⟩] (.error e)
  | deleted (x : Except Error Unit) : StepTrace config ws .delete
      [⟨.deleteNamespace ws.workspaceName, .ok ()⟩, ⟨.publish (deletingEvent ws), ()⟩,
        ⟨.setFinalizers ws.name ws.metadata.resourceVersion
          (ws.finalizers.filter (· ≠ Workspace.finalizer)), x⟩]
      (x.map fun _ => .never)

theorem attach_yields {r : Except Error Unit} (h : (attach ws).run.Yields t r) :
    (ws.hasFinalizer = true ∧ t = [] ∧ r = .ok ()) ∨
      (ws.hasFinalizer = false ∧ t = [⟨.setFinalizers ws.name ws.metadata.resourceVersion
        (ws.finalizers ++ [Workspace.finalizer]), r⟩]) := by
  unfold attach at h
  cases hf : ws.hasFinalizer with
  | true =>
    rw [hf, if_pos rfl] at h
    obtain ⟨rfl, rfl⟩ := h
    exact .inl ⟨rfl, rfl, rfl⟩
  | false =>
    rw [hf, if_neg Bool.false_ne_true] at h
    exact .inr ⟨rfl, (yields_call ..).1 h⟩

theorem teardown_yields {r : Except Error Unit} (h : (teardown ws).run.Yields t r) :
    (∃ e, t = [⟨.deleteNamespace ws.workspaceName, .error e⟩] ∧ r = .error e) ∨
      t = [⟨.deleteNamespace ws.workspaceName, .ok ()⟩, ⟨.publish (deletingEvent ws), ()⟩,
        ⟨.setFinalizers ws.name ws.metadata.resourceVersion
          (ws.finalizers.filter (· ≠ Workspace.finalizer)), r⟩] := by
  unfold teardown at h
  rw [Operation.yields_bind] at h
  rcases h with ⟨e, h, rfl⟩ | ⟨t₁, x, t₂, rfl, h₁, h⟩
  · exact .inl ⟨e, (yields_call ..).1 h, rfl⟩
  · obtain rfl := (yields_call ..).1 h₁
    obtain ⟨u, t₂, rfl, hpublish⟩ := (Operation.yields_always_bind (.publish _) ..).1 h
    obtain rfl := (yields_call ..).1 hpublish
    exact .inr rfl

theorem runStep_yields {step : Step} {r : Except Error Requeue} (h : (runStep config ws step).run.Yields t r) :
    StepTrace config ws step t r := by
  cases step with
  | finalizer =>
    simp only [runStep, Operation.yields_bind] at h
    rcases h with ⟨e, h, rfl⟩ | ⟨t₁, x, t₂, rfl, h, rfl, rfl⟩
    · rcases attach_yields h with ⟨-, -, he⟩ | ⟨hf, rfl⟩
      · cases he
      · exact .attached (.error e) hf
    · rcases attach_yields h with ⟨hf, rfl, -⟩ | ⟨hf, rfl⟩
      · exact .guarded hf
      · exact .attached (.ok x) hf
  | create => exact .created (provisionPass_yields h)
  | abandon => obtain ⟨rfl, rfl⟩ := h; exact .abandoned
  | update => exact .updated (provisionPass_yields h)
  | delete =>
    simp only [runStep, Operation.yields_bind] at h
    rcases h with ⟨e, h, rfl⟩ | ⟨t₁, x, t₂, rfl, h, rfl, rfl⟩
    · rcases teardown_yields h with ⟨e', rfl, he⟩ | rfl
      · cases he; exact .undeleted e
      · exact .deleted (.error e)
    · rcases teardown_yields h with ⟨e', rfl, he⟩ | rfl
      · cases he
      · exact .deleted (.ok x)

/-! ## Passes -/

/-- How a pass can go: it reads the workspace and runs at most one step, whose error is its own. -/
inductive PassTrace (config : Config) (name : String) : Trace → Except Error Requeue → Prop
  | unread (e : Error) : PassTrace config name [⟨.workspace name, .error e⟩] (.error e)
  | absent : PassTrace config name [⟨.workspace name, .ok none⟩] (.ok .never)
  | resting {ws : Workspace} : select (.of ws) = none →
      PassTrace config name [⟨.workspace name, .ok (some ws)⟩] (.ok .success)
  | done {ws : Workspace} {step : Step} {t : Trace} {requeue : Requeue} : select (.of ws) = some step →
      StepTrace config ws step t (.ok requeue) →
      PassTrace config name (⟨.workspace name, .ok (some ws)⟩ :: t) (.ok requeue)
  | failed {ws : Workspace} {step : Step} {t t' : Trace} {e : Error} : select (.of ws) = some step →
      StepTrace config ws step t (.error e) → FailureReports name e t' →
      PassTrace config name (⟨.workspace name, .ok (some ws)⟩ :: (t ++ t')) (.error e)

theorem pass_yields {name : String} {r : Except Error Requeue} (h : (pass config name).run.Yields t r) :
    PassTrace config name t r := by
  unfold pass at h
  rw [Operation.yields_bind] at h
  rcases h with ⟨e, h, rfl⟩ | ⟨t₁, ws, t₂, rfl, h₁, h⟩
  · obtain rfl := (yields_call ..).1 h
    exact .unread e
  · obtain rfl := (yields_call ..).1 h₁
    cases ws with
    | none => obtain ⟨rfl, rfl⟩ := h; exact .absent
    | some ws =>
      cases hs : select (.of ws) with
      | none =>
        simp only [hs] at h
        obtain ⟨rfl, rfl⟩ := h
        exact .resting hs
      | some step =>
        simp only [hs] at h
        obtain ⟨t₁, x, t₃, rfl, h₁, h⟩ := (yields_bind ..).1 (show (settle config name ws step).Yields t₂ r from h)
        cases x with
        | ok requeue =>
          obtain ⟨rfl, rfl⟩ := h
          rw [List.append_nil]
          exact .done hs (runStep_yields h₁)
        | error e =>
          obtain ⟨t₂, u, t₄, rfl, h₂, rfl, rfl⟩ := (yields_bind ..).1 h
          rw [List.append_nil]
          have := PassTrace.failed hs (runStep_yields h₁) (reportFailure_yields h₂)
          exact this

/-- The reading of the workspace with which a pass starts, if it found one. -/
def Trace.snapshot? : Trace → Option Workspace
  | ⟨.workspace _, .ok ws⟩ :: _ => ws
  | _ => none

theorem Trace.snapshot?_append (h : t.snapshot? = some ws) (t' : Trace) : (t ++ t').snapshot? = some ws := by
  unfold Trace.snapshot? at h
  split at h
  · subst h; rfl
  · cases h

end Tenancy.Operator
