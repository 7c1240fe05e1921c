/-
What a failed pass has done, and what it leaves behind. Its error is that of its step, and all that comes after the
step is one report of it, or nothing if the pass was cancelled (`pass_fails_iff`). A step that fails has written
neither guards nor a status, whatever it was doing (`StepTrace.idle`), and the report takes the mark from what it has
just read; so guards and mark are what they were before the pass (`failure_contained`).
-/
import Tenancy.Proofs.Run.Reports
import Tenancy.Proofs.Run.Smooth
import Tenancy.Proofs.Workspace.Repetition

namespace Tenancy

/-! ## Settings -/

namespace Settings

/-- The keys that the settings are read from. -/
def required : List String := [defaultDomainKey, runtimeTagKey, chatTagKey]

/-- Under the key stands no text, and no bytes that are one. -/
def Lacks (m : ConfigMap) (key : String) : Prop :=
  m.data.bind (Dict.get? · key) = none ∧ (m.binaryData.bind (Dict.get? · key)).bind Utf8.decode? = none

theorem lookup_lacking {m : ConfigMap} {key : String} (h : Lacks m key) : ∃ e, lookup m key = .error e := by
  obtain ⟨htext, hbytes⟩ := h
  unfold lookup
  rw [htext]
  cases hb : m.binaryData.bind (Dict.get? · key) with
  | none => exact ⟨_, rfl⟩
  | some bytes =>
    rw [hb, Option.bind_some] at hbytes
    simp only [hbytes]
    exact ⟨_, rfl⟩

/-- Settings of which a required key is missing, or not a text, cannot be read. -/
theorem ofConfigMap_lacking {m : ConfigMap} {key : String} (hkey : key ∈ required) (h : Lacks m key) :
    ∃ e, ofConfigMap m = .error e := by
  obtain ⟨e, he⟩ := lookup_lacking h
  unfold ofConfigMap
  simp only [required, List.mem_cons, List.not_mem_nil, or_false] at hkey
  cases hdomain : lookup m defaultDomainKey with
  | error e => exact ⟨e, rfl⟩
  | ok domain =>
    cases hruntime : lookup m runtimeTagKey with
    | error e => exact ⟨e, rfl⟩
    | ok tag =>
      cases hchat : lookup m chatTagKey with
      | error e => exact ⟨e, rfl⟩
      | ok chat => rcases hkey with rfl | rfl | rfl <;> simp_all

end Settings

namespace Operator

open Program Lifecycle

variable {config : Config} {ws : Workspace} {name : String} {step : Step} {e : Error} {t : Trace}

/-- A configuration map that is missing, or lacks a required key, gives no settings. -/
theorem settingsOf_lacking {x : Except Error (Option ConfigMap)}
    (h : ∀ m, x = .ok (some m) → ∃ key ∈ Settings.required, Settings.Lacks m key) :
    ∃ e, settingsOf config x = .error e := by
  match x with
  | .error e => exact ⟨e, rfl⟩
  | .ok none => exact ⟨_, rfl⟩
  | .ok (some m) =>
    obtain ⟨key, hkey, hlacks⟩ := h m rfl
    obtain ⟨e, he⟩ := Settings.ofConfigMap_lacking hkey hlacks
    exact ⟨.settings e, congrArg (Except.mapError Error.settings) he⟩

/-! ## The report of a failure -/

/-- The calls after a step that has failed: those of one report of the failure, and none if it was cancelled. -/
def ReportsOnce (name : String) (e : Error) (t : Trace) : Prop :=
  if e = .cancelled then t = [] else ∃ x, (report name false (some (.failed e))).run.Yields t x

theorem reportFailure_yields_iff : (reportFailure name e).Yields t () ↔ ReportsOnce name e t := by
  have hcancelled : e.isCancelled = true ↔ e = .cancelled := by
    cases e <;> simp [Error.isCancelled]
  unfold reportFailure ReportsOnce
  simp only [hcancelled]
  split
  · exact and_iff_left rfl
  · exact (yields_map ..).trans (exists_congr fun _ => and_iff_left rfl)

theorem settle_fails_iff : (settle config name ws step).Yields t (.error e) ↔
    ∃ u v, (runStep config ws step).run.Yields u (.error e) ∧ ReportsOnce name e v ∧ t = u ++ v := by
  -- what comes after a step that has failed
  have after : ∀ (v : Trace) (e' : Error),
      ((reportFailure name e').bind fun _ => .done (Except.error e' : Except Error Requeue)).Yields v (.error e) ↔
        ReportsOnce name e' v ∧ e' = e := by
    intro v e'
    rw [yields_map, ← reportFailure_yields_iff]
    constructor
    · rintro ⟨_, h, he⟩
      cases he
      exact ⟨h, rfl⟩
    · rintro ⟨h, rfl⟩
      exact ⟨(), h, rfl⟩
  refine (yields_bind ..).trans ⟨?_, ?_⟩
  · rintro ⟨u, x, v, rfl, hstep, h⟩
    cases x with
    | ok requeue => cases h.2
    | error e' =>
      obtain ⟨hreport, rfl⟩ := (after v e').1 h
      exact ⟨u, v, hstep, hreport, rfl⟩
  · rintro ⟨u, v, hstep, hreport, rfl⟩
    exact ⟨u, .error e, v, rfl, hstep, (after v e).2 ⟨hreport, rfl⟩⟩

/-- A pass fails as its step does, and reports it, whatever becomes of the report. -/
theorem pass_fails_iff :
    (pass config name).run.Yields (⟨.workspace name, .ok (some ws)⟩ :: t) (.error e) ↔
      ∃ step u v, select (.of ws) = some step ∧ (runStep config ws step).run.Yields u (.error e) ∧
        ReportsOnce name e v ∧ t = u ++ v := by
  unfold pass
  rw [Operation.yields_bind]
  constructor
  · rintro (⟨e', h, -⟩ | ⟨t₁, found, t₂, ht, h₁, h⟩)
    · cases (yields_call ..).1 h
    · obtain rfl := (yields_call ..).1 h₁
      cases ht
      cases hs : select (.of ws) with
      | none =>
        simp only [hs] at h
        cases h.2
      | some step =>
        simp only [hs] at h
        obtain ⟨u, v, hstep, hreport, rfl⟩ := settle_fails_iff.1 h
        exact ⟨step, u, v, rfl, hstep, hreport, rfl⟩
  · rintro ⟨step, u, v, hs, hstep, hreport, rfl⟩
    refine .inr ⟨[_], some ws, u ++ v, rfl, (yields_call ..).2 rfl, ?_⟩
    simp only [hs]
    exact settle_fails_iff.2 ⟨u, v, hstep, hreport, rfl⟩

/-! ## Failed steps -/

/-- An answered call that has written neither guards nor a status. -/
def Answered.Idle (x : Answered) : Prop :=
  ∀ k version, (∀ guards, x ≠ ⟨.setFinalizers k version guards, .ok ()⟩) ∧ ∀ s, x ≠ ⟨.patchStatus k version s, .ok ()⟩

theorem Trace.About.idle {topics : List Topic} (h : t.About topics) (hg : .guards ∉ topics) (hs : .status ∉ topics) :
    ∀ x ∈ t, x.Idle := by
  intro x hx k version
  refine ⟨fun guards hk => hg ?_, fun s hk => hs ?_⟩
  · have := h x hx
    rwa [hk] at this
  · have := h x hx
    rwa [hk] at this

/-- A report that fails has written nothing. -/
theorem Reports.idle {mark : Bool} {condition : Option Condition} (h : Reports name mark condition t (.error e)) :
    ∀ x ∈ t, x.Idle := by
  cases h with
  | unread => simp [Answered.Idle]
  | written => simp [Answered.Idle]

/-- A pass that provisions fails before a report, or at one. -/
theorem ProvisionPass.fails (h : ProvisionPass config ws step t (.error e)) :
    Provisions config ws t (.error e) ∨ ∃ a b o mark c, t = a ++ b ∧ Provisions config ws a (.ok o) ∧
      Reports ws.name mark (some c) b (.error e) ∧
      ∀ kind child, o = .created kind child →
        mark = false ∧ c = .progressing ("created " ++ kind.label ++ " " ++ child) := by
  generalize hr : (Except.error e : Except Error Requeue) = r at h
  cases h with
  | failed hp =>
    cases hr
    exact .inl hp
  | @created a b kind child x hp hreport =>
    cases x with
    | ok u => cases hr
    | error e' =>
      cases hr
      exact .inr ⟨a, b, _, _, _, rfl, hp, hreport, fun _ _ ho => by cases ho; exact ⟨rfl, rfl⟩⟩
  | @awaiting a b x hp hreport =>
    cases x with
    | ok u => cases hr
    | error e' =>
      cases hr
      exact .inr ⟨a, b, _, _, _, rfl, hp, hreport, nofun⟩
  | @unmarked a b e' hp hreport =>
    cases hr
    exact .inr ⟨a, b, _, _, _, rfl, hp, hreport, nofun⟩
  | complete => cases hr

theorem ProvisionPass.idle (h : ProvisionPass config ws step t (.error e)) :
    (∀ x ∈ t, x.Idle) ∧ ∀ x ∈ t, x.call.topic ≠ .events := by
  rcases h.fails with hp | ⟨a, b, o, mark, c, rfl, hp, hreport, -⟩
  · exact ⟨hp.about.idle (by decide) (by decide), hp.about.ne (by decide)⟩
  · exact ⟨List.forall_mem_append.2 ⟨hp.about.idle (by decide) (by decide), hreport.idle⟩,
      List.forall_mem_append.2 ⟨hp.about.ne (by decide), hreport.about.ne (by decide)⟩⟩

/-- A step that fails has written neither guards nor a status. -/
theorem StepTrace.idle (h : StepTrace config ws step t (.error e)) : ∀ x ∈ t, x.Idle := by
  generalize hr : (Except.error e : Except Error Requeue) = r at h
  cases h with
  | guarded | abandoned => cases hr
  | attached x =>
    cases x with
    | ok u => cases hr
    | error e' => simp [Answered.Idle]
  | created hp | updated hp =>
    cases hr
    exact hp.idle.1
  | undeleted => simp [Answered.Idle]
  | deleted x =>
    cases x with
    | ok u => cases hr
    | error e' => simp [Answered.Idle]

/-- All that a failed step may have announced is that it deletes a namespace. -/
theorem StepTrace.announces (h : StepTrace config ws step t (.error e)) {event : Event} {y : Unit}
    (hx : ⟨.publish event, y⟩ ∈ t) : event = deletingEvent ws := by
  generalize hr : (Except.error e : Except Error Requeue) = r at h
  cases h with
  | guarded | abandoned => cases hr
  | attached | undeleted => simp at hx
  | created hp | updated hp =>
    cases hr
    exact absurd rfl (hp.idle.2 _ hx)
  | deleted =>
    simp only [List.mem_cons, Answered.mk.injEq, reduceCtorEq, false_and, List.not_mem_nil, or_false, false_or,
      Call.publish.injEq] at hx
    exact hx.1

theorem created_append (t t' : Trace) : created (t ++ t') = created t ++ created t' := by
  rw [created, changes_append, List.filterMap_append]
  rfl

theorem Trace.About.created {topics : List Topic} (h : t.About topics) (hc : .change ∉ topics) : created t = [] := by
  rw [Operator.created, h.changes hc]
  rfl

/-- What a failed step has created: nothing, or one child, and then what failed is the report of it. -/
def CreatesOne (ws : Workspace) (e : Error) (t : Trace) : Prop :=
  created t = [] ∨ ∃ (child : Object.Child) (owner : Object.OwnerReference) (t₁ t₂ : Trace),
    t = t₁ ++ ⟨.createChild (child.setOwner owner), .ok ()⟩ :: t₂ ∧ created t = [child.setOwner owner] ∧
    (report ws.name false (some (.progressing ("created " ++ child.kind.label ++ " " ++ child.name)))).run.Yields t₂
      (.error e)

theorem ProvisionPass.creates (h : ProvisionPass config ws step t (.error e)) : CreatesOne ws e t := by
  rcases h.fails with hp | ⟨a, b, o, mark, c, rfl, hp, hreport, hcreated⟩
  · rcases hp.attempts with ha | ⟨child, x, ha, hx⟩
    · exact Or.inl (ha.created (by decide))
    · obtain ⟨settings, done, rest, owner, u, -, rfl, hu, -, -⟩ := ha.split
      cases x with
      | ok v => cases hx
      | error e' =>
        refine Or.inl ?_
        rw [created_append, hu.created (by decide)]
        rfl
  · have hb : Operator.created b = [] := hreport.about.created (by decide)
    rcases hp.attempts with ha | ⟨child, x, ha, hx⟩
    · refine Or.inl ?_
      rw [created_append, ha.created (by decide), hb]
      rfl
    · obtain ⟨settings, done, rest, owner, u, -, rfl, hu, -, -⟩ := ha.split
      cases x with
      | error e' => cases hx
      | ok v =>
        cases hx
        obtain ⟨rfl, rfl⟩ := hcreated _ _ rfl
        refine Or.inr ⟨child, owner, u, b, by simp, ?_, hreport.yields⟩
        rw [created_append, created_append, hu.created (by decide), hb]
        rfl

theorem StepTrace.creates (h : StepTrace config ws step t (.error e)) : CreatesOne ws e t := by
  generalize hr : (Except.error e : Except Error Requeue) = r at h
  cases h with
  | guarded | abandoned => cases hr
  | attached | undeleted | deleted => exact Or.inl rfl
  | created hp | updated hp =>
    cases hr
    exact hp.creates

/-- The status says that its workspace is not ready since a pass has failed, and gives the text of the error. -/
def Blames (e : Error) (s : Status) : Prop :=
  ∃ c, s.conditions.find? (·.type = Condition.readyType) = some c ∧ c.status = .no ∧
    c.reason = "ReconciliationFailed" ∧ c.message = e.message

theorem blames_of_tells {s : Status} {generation : Option Int} (h : s.Tells (.failed e) generation) : Blames e s := by
  obtain ⟨c, hfind, hc⟩ := h.find?
  refine ⟨c, hfind, ?_, ?_, ?_⟩
  · exact congrArg Condition.status hc
  · exact congrArg Condition.reason hc
  · exact congrArg Condition.message hc

/-- What the report of a failure writes says that the workspace is not ready, and why. -/
theorem Reports.tells {mark : Bool} {x y : Except Error Unit} {n : String} {version : Option String} {s : Status}
    (h : Reports name mark (some (.failed e)) t x) (hs : ⟨.patchStatus n version s, y⟩ ∈ t) : Blames e s := by
  obtain ⟨t₁, t₂, ht⟩ := List.append_of_mem hs
  obtain ⟨latest, now, -, -, rfl⟩ := h.patches ht
  exact blames_of_tells Status.tells_merge

/-- A pass over `ws` that has failed with `e`, in the calls of its step and those of its report. The error is that of
the step, and would be whatever became of the report; only the report of a creation can fail with a child created;
and nothing tells that the workspace has been created. -/
structure Failed (config : Config) (name : String) (ws : Workspace) (e : Error) (u v : Trace) : Prop where
  step : ∃ step, select (.of ws) = some step ∧ (runStep config ws step).run.Yields u (.error e)
  report : ReportsOnce name e v
  anyhow : ∀ v', ReportsOnce name e v' →
    (pass config name).run.Yields (⟨.workspace name, .ok (some ws)⟩ :: (u ++ v')) (.error e)
  tells : ∀ n version s y, ⟨.patchStatus n version s, y⟩ ∈ v → Blames e s
  creates : CreatesOne ws e u
  reports : created v = []
  unannounced : ∀ event y, ⟨.publish event, y⟩ ∈ u ++ v → event.reason ≠ "Created"

theorem PassTrace.loaded {r : Except Error Requeue} (h : PassTrace config name t r) (hs : t.snapshot? = some ws) :
    ∃ t', t = ⟨.workspace name, .ok (some ws)⟩ :: t' := by
  obtain ⟨x, rfl⟩ | ⟨ws', step, u, v, -, -, -, rfl⟩ := h.steps
  · cases x with
    | error e => cases hs
    | ok found =>
      obtain rfl : found = some ws := hs
      exact ⟨[], rfl⟩
  · obtain rfl : ws' = ws := Option.some.inj hs
    exact ⟨_, rfl⟩

theorem pass_failed (h : (pass config name).run.Yields (⟨.workspace name, .ok (some ws)⟩ :: t) (.error e)) :
    ∃ u v, t = u ++ v ∧ Failed config name ws e u v := by
  obtain ⟨step, u, v, hs, hstep, hreport, rfl⟩ := pass_fails_iff.1 h
  have hu := runStep_yields hstep
  have hv := reportFailure_yields (reportFailure_yields_iff.2 hreport)
  refine ⟨u, v, rfl, ⟨step, hs, hstep⟩, hreport, ?_, ?_, hu.creates, hv.about.created (by decide), ?_⟩
  · exact fun v' hv' => pass_fails_iff.2 ⟨step, u, v', hs, hstep, hv', rfl⟩
  · intro n version s y hpatch
    cases hv with
    | silent => cases hpatch
    | made _ hr => exact hr.tells hpatch
  · intro event y hevent
    rcases List.mem_append.1 hevent with hevent | hevent
    · rw [hu.announces hevent]
      exact (by decide : "Deleting" ≠ "Created")
    · exact absurd hevent (hv.about.not_mem (by simp [Call.topic]))

/-! ## Passes without settings -/

/-- Whether a call looks for a child, makes one, or is about a runtime. -/
def Call.tends : Call → Bool
  | .childExists _ | .createChild _ | .readyReplicas .. | .openRuntime _ | .listModels _ | .listRunning _ | .pull ..
  | .createModel .. => true
  | _ => false

theorem Call.topic_of_tends {c : Call} (h : c.tends = true) : c.topic ∈ [.lookup, .change, .readiness, .models] := by
  cases c <;> simp_all [Call.tends, Call.topic]

theorem Trace.About.not_tends {topics : List Topic} (h : t.About topics)
    (hd : ∀ topic ∈ topics, topic ∉ [.lookup, .change, .readiness, .models]) : ∀ x ∈ t, x.call.tends = false := by
  intro x hx
  rw [← Bool.not_eq_true]
  exact fun hc => hd _ (h x hx) (Call.topic_of_tends hc)

/-- What a trace was answered for the settings gives none. -/
def Unsettled (config : Config) (t : Trace) : Prop :=
  ∀ x, ⟨.configMap config.settingsNamespace config.settingsConfigMap, x⟩ ∈ t → ∃ e, settingsOf config x = .error e

theorem Provisions.unsettled_tends {r : Except Error Outcome} (h : Provisions config ws t r)
    (ht : Unsettled config t) : (∀ x ∈ t, x.call.tends = false) ∧ ∀ o, r ≠ .ok o := by
  cases h with
  | unsettled => exact ⟨by simp [Call.tends], nofun⟩
  | followed hs =>
    obtain ⟨e, he⟩ := ht _ (List.mem_cons_self ..)
    cases he.symm.trans hs

theorem ProvisionPass.unsettled_tends {r : Except Error Requeue} (h : ProvisionPass config ws step t r)
    (ht : Unsettled config t) : ∀ x ∈ t, x.call.tends = false := by
  have never : ∀ {a b : Trace} {o : Outcome}, Provisions config ws a (.ok o) → ¬Unsettled config (a ++ b) :=
    fun hp hab => (hp.unsettled_tends fun x hx => hab x (List.mem_append_left _ hx)).2 _ rfl
  cases h with
  | failed hp => exact (hp.unsettled_tends ht).1
  | created hp | awaiting hp | unmarked hp | complete hp => exact absurd ht (never hp)

/-- A pass that gets no settings looks for no child, makes none and leaves the runtime alone. -/
theorem PassTrace.unsettled_tends {r : Except Error Requeue} (h : PassTrace config name t r)
    (ht : Unsettled config t) : ∀ x ∈ t, x.call.tends = false := by
  obtain ⟨x, rfl⟩ | ⟨ws, step, u, v, hs, hstep, hv, rfl⟩ := h.steps
  · exact List.forall_mem_singleton.2 rfl
  have hu : Unsettled config u := fun x hx => ht x (List.mem_cons_of_mem _ (List.mem_append_left _ hx))
  refine List.forall_mem_cons.2 ⟨rfl, List.forall_mem_append.2 ⟨?_, hv.about.not_tends (by decide)⟩⟩
  cases hstep with
  | guarded | abandoned => exact List.forall_mem_nil _
  | attached | undeleted | deleted => simp [Call.tends]
  | created hp | updated hp => exact hp.unsettled_tends hu

end Operator

namespace Simulation

open Operator

variable {w w' : World} {name : String} {t : Trace} {e : Error}

/-! ## Guards and mark -/

/-- The guards of the workspace stored under a name, and whether it is marked as created. -/
def World.standing? (w : World) (name : String) : Option (List String × Bool) :=
  (w.workspace? name).map fun ws => (ws.finalizers, ws.isCreated)

/-- Only a write of guards, or of a status with another mark, changes the guards and the mark. -/
theorem standing_handle (c : Call) (w : World) {k : String}
    (hguards : ∀ version guards, (⟨c, (handle c w).1⟩ : Answered) ≠ ⟨.setFinalizers k version guards, .ok ()⟩)
    (hstatus : ∀ version s ws, (⟨c, (handle c w).1⟩ : Answered) = ⟨.patchStatus k version s, .ok ()⟩ →
      w.workspace? k = some ws → s.isCreated = ws.isCreated) : (handle c w).2.standing? k = w.standing? k := by
  have hrw := workspace_handle c w k
  unfold World.standing?
  generalize (⟨c, (handle c w).1⟩ : Answered) = x at hrw hguards hstatus
  generalize (handle c w).2.workspace? k = after at hrw ⊢
  generalize w.workspace? k = before at hrw hstatus ⊢
  cases hrw with
  | absent | kept => rfl
  | guarded | released => exact absurd rfl (hguards _ _)
  | reported ws v =>
    refine congrArg (fun mark => some (ws.finalizers, mark)) ?_
    exact hstatus _ _ ws rfl rfl

/-- Others leave the guards and the mark of the workspace alone, and the settings. -/
structure Heedful (name : String) (w m : World) : Prop where
  standing : m.standing? name = w.standing? name
  settings : m.configMaps = w.configMaps

theorem Heedful.refl (name : String) (w : World) : Heedful name w w := ⟨rfl, rfl⟩

theorem Plays.settings (h : Plays (Heedful name) w t w') : w'.configMaps = w.configMaps :=
  h.keeps (P := fun m => m.configMaps = w.configMaps) (fun _ _ ho hn => ho.settings.trans hn)
    (fun x _ m _ hm => (stands_handle x.call m).configMaps.trans hm) rfl

theorem Plays.standing (h : Plays (Heedful name) w t w') (ht : ∀ x ∈ t, x.Idle) :
    w'.standing? name = w.standing? name := by
  refine h.keeps (P := fun m => m.standing? name = w.standing? name) (fun _ _ ho hn => ho.standing.trans hn)
    (fun x hx m hanswer hm => ?_) rfl
  have hidle := ht x hx
  refine (standing_handle x.call m (fun version guards he => ?_) fun version s ws he _ => ?_).trans hm
  · rw [hanswer] at he
    exact absurd he ((hidle name version).1 guards)
  · rw [hanswer] at he
    exact absurd he ((hidle name version).2 s)

/-- The report of a failure takes the mark from what it has just read. -/
theorem FailureReports.standing (h : FailureReports name e t) (hp : Plays (Heedful name) w t w') :
    w'.standing? name = w.standing? name := by
  cases h with
  | silent => exact hp.standing (List.forall_mem_nil _)
  | made _ hr =>
    cases hr with
    | unread | gone | unchanged => exact hp.standing (by simp [Answered.Idle])
    | @written latest now x hs =>
      have hp' : Plays (Heedful name) w ([⟨.workspace name, .ok (some latest)⟩, ⟨.now, now⟩] ++ [_]) w' := hp
      obtain ⟨n, hbefore, k, hk, hx, rfl⟩ := (plays_append ..).1 hp'
      obtain ⟨m, ho, hread, -⟩ := hp
      have hn : n.standing? name = w.standing? name := hbefore.standing (by simp [Answered.Idle])
      have hlatest : k.standing? name = some (latest.finalizers, latest.isCreated) := by
        rw [hk.standing, hn, ← ho.standing, World.standing?, workspace_answer hread]
        rfl
      refine Eq.trans ?_ (hk.standing.trans hn)
      refine standing_handle _ k (fun version guards he => ?_) fun version s ws he hws => ?_
      · have hcall := (Answered.mk.inj he).1
        cases hcall
      · rw [World.standing?, hws] at hlatest
        rw [← (Call.patchStatus.inj (Answered.mk.inj he).1).2.2, isCreated_reported, Bool.or_false]
        exact (congrArg Prod.snd (Option.some.inj hlatest)).symm

/-! ## What the report leaves -/

/-- A workspace keeps the name that it goes by. -/
theorem Filed.handle (h : Filed name w) (c : Call) : Filed name (handle c w).2 := by
  intro ws hws
  have hrewrites := workspace_handle c w name
  rw [hws] at hrewrites
  generalize (⟨c, (Simulation.handle c w).1⟩ : Answered) = x at hrewrites
  generalize hbefore : w.workspace? name = before at hrewrites
  generalize hafter : some ws = after at hrewrites
  cases hrewrites with
  | absent | released => cases hafter
  | kept old | guarded old | reported old =>
    cases hafter
    exact h old hbefore

theorem Plays.filed (h : Plays (Bypasses name) w t w') (hw : Filed name w) : Filed name w' := by
  refine h.keeps (fun n m ho hn ws hws => hn ws ?_) (fun x _ m _ hm => hm.handle x.call) hw
  rw [← ho]
  exact hws

/-- The report of a failure that ends well leaves the workspace with the blame, if it is stored. -/
theorem Plays.blames (hr : (report name false (some (.failed e))).run.Yields t (.ok ()))
    (h : Plays (Bypasses name) w t w') (hw : Filed name w) {ws : Workspace} (hws : w'.workspace? name = some ws) :
    Blames e (ws.status.getD {}) := by
  have htold : Told name false (some (.failed e)) w' := told_of_reports (report_yields hr) h hw
  exact blames_of_tells ((htold ws hws).2 _ rfl)

/-! ## What it comes to -/

/-- What a failed pass has done and what it leaves, whatever has failed, and whatever others do who leave the guards
and the mark of its workspace and the settings alone. If the workspace was read, the error is that of the step, and one
report of it comes after the step, or none if it was cancelled (`Failed`); a report that ends well leaves a workspace
that is stored not ready, with the text of the error, if nobody else writes it; guards and mark are as before the pass;
and at most one child was created. A pass whose settings are missing, or lack a required key, looks for no child, makes
none, and leaves the runtime alone. A pass that could not read the workspace, or found none, only read. -/
theorem failure_contained {p : Leg} (h : p.Happens (Heedful p.name)) :
    (∀ ws e, p.trace.snapshot? = some ws → p.result = .error e →
      (∃ u v, p.trace = ⟨.workspace p.name, .ok (some ws)⟩ :: (u ++ v) ∧ Failed p.config p.name ws e u v ∧
        (p.Happens (Bypasses p.name) → Filed p.name p.start →
          (report p.name false (some (.failed e))).run.Yields v (.ok ()) →
            ∀ stored, p.stop.workspace? p.name = some stored → Blames e (stored.status.getD {}))) ∧
        p.stop.standing? p.name = p.start.standing? p.name ∧ (created p.trace).length ≤ 1) ∧
    ((∀ m, Dict.get? p.start.configMaps (p.config.settingsNamespace ++ "/" ++ p.config.settingsConfigMap) = some m →
        ∃ key ∈ Settings.required, Settings.Lacks m key) →
      ∀ x ∈ p.trace, x.call.tends = false) ∧
    (p.trace.snapshot? = none → (∃ x, p.trace = [⟨.workspace p.name, x⟩]) ∧ ∀ x ∈ p.trace, x.call.writes = false) := by
  have hplays := h.plays
  refine ⟨fun ws e hsnap hresult => ?_, fun hsettings => ?_, fun hsnap => ?_⟩
  · obtain ⟨t, ht⟩ := h.trace.loaded hsnap
    have hyields := h.yields
    rw [ht, hresult] at hyields
    obtain ⟨u, v, rfl, hfailed⟩ := pass_failed hyields
    refine ⟨⟨u, v, ht, hfailed, fun hbypassed hfiled hreport stored hstored => ?_⟩, ?_, ?_⟩
    · have hplays := hbypassed.plays
      rw [ht] at hplays
      obtain ⟨m, hbefore, hafter⟩ := (plays_append p.start p.stop (_ :: u) v).1 hplays
      exact hafter.blames hreport (hbefore.filed hfiled) hstored
    · rw [ht] at hplays
      obtain ⟨step, -, hstep⟩ := hfailed.step
      obtain ⟨m, hbefore, hafter⟩ := (plays_append p.start p.stop (_ :: u) v).1 hplays
      have hu : m.standing? p.name = p.start.standing? p.name :=
        hbefore.standing (List.forall_mem_cons.2 ⟨by simp [Answered.Idle], (runStep_yields hstep).idle⟩)
      exact (FailureReports.standing (reportFailure_yields (reportFailure_yields_iff.2 hfailed.report)) hafter).trans hu
    · have hcreated : created p.trace = created u := by
        rw [ht]
        refine (created_append (_ :: u) v).trans ?_
        rw [hfailed.reports, List.append_nil]
        rfl
      rw [hcreated]
      rcases hfailed.creates with hnone | ⟨child, owner, t₁, t₂, -, hone, -⟩
      · rw [hnone]
        exact Nat.zero_le 1
      · rw [hone]
        exact le_refl 1
  · refine h.trace.unsettled_tends fun x hx => settingsOf_lacking ?_
    rintro m rfl
    obtain ⟨t₁, t₂, n, k, -, hbefore, ho, hanswer, -⟩ := hplays.moment hx
    have hstored := configMap_answer hanswer
    rw [ho.settings, hbefore.settings] at hstored
    exact hsettings m hstored
  · obtain ⟨x, ht⟩ | ⟨ws, step, u, v, -, -, -, ht⟩ := h.trace.steps
    · rw [ht]
      exact ⟨⟨x, rfl⟩, List.forall_mem_singleton.2 rfl⟩
    · rw [ht] at hsnap
      cases hsnap

/-- A world with a workspace that has its guard, in which the first write of a status fails. -/
def stumbling : World :=
  { outpost { newcomer with metadata := { newcomer.metadata with finalizers := some [Workspace.finalizer] } } with
    faults := [{ target := .patchStatus, strike := .fail (.internal "down") }] }

/-- The first pass in it. -/
def stumble : Leg :=
  { config := {}, name := "team", start := stumbling, trace := transcript (Operator.pass {} "team").run stumbling,
    result := (pass {} "team" stumbling).1, stop := (pass {} "team" stumbling).2 }

/-- The first child is made, the report of it fails, and the report of the failure does not, so the workspace says
what has failed. -/
theorem failure_contained_stumble : stumble.Happens (Heedful "team") ∧ ∃ ws u v,
    stumble.trace.snapshot? = some ws ∧ stumble.result = .error (.internal "down") ∧ created stumble.trace ≠ [] ∧
      stumble.trace = ⟨.workspace "team", .ok (some ws)⟩ :: (u ++ v) ∧ Failed {} "team" ws (.internal "down") u v ∧
      stumble.stop.standing? "team" = some ([Workspace.finalizer], false) ∧
      ∃ stored, stumble.stop.workspace? "team" = some stored ∧ Blames (.internal "down") (stored.status.getD {}) := by
  have hleg : stumble.Happens (Heedful stumble.name) := goes_transcript (Heedful.refl "team") _ stumbling
  have hbypassed : stumble.Happens (Bypasses stumble.name) := goes_transcript (Bypasses.refl "team") _ stumbling
  have hfiled : Filed "team" stumbling := by
    rintro ws ⟨⟩
    rfl
  obtain ⟨ws, hsnap⟩ : ∃ ws, stumble.trace.snapshot? = some ws := ⟨_, rfl⟩
  have hresult : stumble.result = .error (.internal "down") := by decide +kernel
  have hcreated : (created stumble.trace).length = 1 := by decide +kernel
  obtain ⟨hfailed, -, -⟩ := failure_contained hleg
  obtain ⟨⟨u, v, ht, hfail, hblames⟩, hstanding, -⟩ := hfailed ws _ hsnap hresult
  refine ⟨hleg, ws, u, v, hsnap, hresult, fun hnone => ?_, ht, hfail, hstanding, ?_⟩
  · rw [hnone] at hcreated
    cases hcreated
  · obtain ⟨stored, hstored⟩ : ∃ stored, stumble.stop.workspace? "team" = some stored :=
      Option.isSome_iff_exists.1 (by decide +kernel)
    -- a report that fails would have failed in its last call, which is the last of the pass
    have hends : stumble.trace.getLast?.any Answered.succeeds = true := by decide +kernel
    rw [ht] at hends
    have hreport : (report "team" false (some (.failed (.internal "down")))).run.Yields v (.ok ()) := by
      obtain ⟨x, hx⟩ := hfail.report
      cases x with
      | ok => exact hx
      | error =>
        cases report_yields hx <;>
          simp [List.getLast?_cons, Answered.succeeds, Except.isOk, Except.toBool] at hends
    exact ⟨stored, hstored, hblames hbypassed hfiled hreport stored hstored⟩

end Simulation
end Tenancy
