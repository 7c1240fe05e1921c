/-
What a pass can tell. A pass looks at versions and times only to hand them on: run on two readings that are the same
up to these (`Workspace.bare`), it makes the same calls, up to the versions it asks for and the times it writes
(`similar_pass`). And all its calls are about its own workspace and tenants (`only_pass`), as long as readings are
filed under their names.
-/
import Tenancy.Operator.Reconcile
import Tenancy.Proofs.Tenant.Plan
import Tenancy.Proofs.Workspace.Status

namespace Tenancy

/-! ## Workspaces without versions and times -/

/-- A workspace without its version and the times of its conditions. -/
def Workspace.bare (ws : Workspace) : Workspace :=
  { ws with
    metadata := { ws.metadata with resourceVersion := none }
    status := ws.status.map Status.timeless }

namespace Status

/-- Merging a report does not look at times. -/
theorem timeless_merge {s s' : Status} (h : s'.timeless = s.timeless) (now now' : String) (mark : Bool)
    (c : Option Condition) (generation : Option Int) :
    (s'.merge now' mark c generation).timeless = (s.merge now mark c generation).timeless := by
  obtain ⟨hcreated, hconditions⟩ := (sameIgnoringTime_iff s' s).1 (decide_eq_true h)
  cases c with
  | none =>
    show Status.mk (s'.isCreated || mark) (s'.conditions.map Condition.untimed) = Status.mk (s.isCreated || mark) _
    rw [hcreated, hconditions]
    rfl
  | some c =>
    show Status.mk (s'.isCreated || mark) ((Condition.upsert now' _ s'.conditions).map Condition.untimed) =
      Status.mk (s.isCreated || mark) ((Condition.upsert now _ s.conditions).map Condition.untimed)
    rw [Condition.untimed_upsert, Condition.untimed_upsert, hcreated, hconditions]

end Status

namespace Operator

open Program Lifecycle

variable {α β : Type} {config : Config} {name tenant : String}

/-! ## What a program may call -/

/-- Whatever it is answered, as long as the answers are as `Q` says, the program makes only calls of which `P` holds. -/
def Program.Only (P : Call → Prop) (Q : (c : Call) → c.Answer → Prop) : Program α → Prop
  | .done _ => True
  | .ask c next => P c ∧ ∀ x, Q c x → Program.Only P Q (next x)

variable {P P' : Call → Prop} {Q : (c : Call) → c.Answer → Prop}

theorem Program.Only.bind {p : Program α} {f : α → Program β} (h : p.Only P Q) (hf : ∀ a, (f a).Only P Q) :
    (p.bind f).Only P Q := by
  induction p with
  | done a => exact hf a
  | ask c next ih => exact ⟨h.1, fun x hx => ih x (h.2 x hx)⟩

theorem Program.Only.mono {p : Program α} (h : p.Only P fun _ _ => True) (hP : ∀ c, P c → P' c) : p.Only P' Q := by
  induction p with
  | done a => trivial
  | ask c next ih => exact ⟨hP c h.1, fun x _ => ih x (h.2 x trivial)⟩

theorem only_call {c : Call} (h : P c) : (call c).Only P Q := ⟨h, fun _ _ => trivial⟩

theorem only_bind {o : Operation α} {f : α → Operation β} (h : o.run.Only P Q) (hf : ∀ a, (f a).run.Only P Q) :
    (o >>= f).run.Only P Q := by
  rw [ExceptT.run_bind]
  refine Program.Only.bind h fun x => ?_
  cases x with
  | error e => trivial
  | ok a => exact hf a

theorem only_attemptRuntime {p : Program (Except Model.Error α)} (h : p.Only P Q) :
    (Operation.attemptRuntime p).run.Only P Q :=
  Program.Only.bind h fun _ => trivial

theorem only_always {p : Program α} (h : p.Only P Q) : (Operation.always p).run.Only P Q :=
  Program.Only.bind h fun _ => trivial

theorem run_workspace_bind (name : String) (f : Option Workspace → Operation β) :
    (Operation.workspace name >>= f).run = .ask (.workspace name) fun x => match x with
      | .ok ws => (f ws).run
      | .error e => .done (.error e) := by
  show Program.ask _ _ = _
  congr 1
  funext x
  cases x <;> rfl

theorem run_now_bind (f : String → Operation β) : (Operation.now >>= f).run = .ask .now fun x => (f x).run := rfl

/-! ## Provisioning -/

/-- Under the tenant's name are the namespace of that name and what lies in it. -/
def Region (tenant : String) (key : Simulation.ChildKey) : Prop :=
  if key.1 = .namespace then key.2 = (none, tenant) else key.2.1 = some tenant

theorem region_planKeys {scaled : Bool} {key : Simulation.ChildKey} (h : key ∈ Tenant.planKeys tenant scaled) :
    Region tenant key := by
  have all : ∀ key ∈ Tenant.planKeys tenant scaled, Region tenant key := by
    cases scaled <;> simp [Tenant.planKeys, Tenant.runtimeKeys, Tenant.chatKeys, Region]
  exact all key h

/-- The calls by which a tenant is provisioned. -/
def Call.Provisions (tenant : String) : Call → Prop
  | .childExists child | .createChild child => Region tenant (Simulation.keyOf child)
  | .readyReplicas ns _ => ns = tenant
  | .configMap .. => True
  | .openRuntime t | .listModels t | .listRunning t | .pull t .. | .createModel t .. => t = tenant
  | _ => False

theorem only_syncVariants (model : String) (patterns : List String) :
    (syncVariants tenant model patterns).run.Only (Call.Provisions tenant) Q := by
  induction patterns with
  | nil => trivial
  | cons pattern rest ih =>
    unfold syncVariants
    dsimp only
    split
    · exact ih
    · refine only_bind (only_bind (only_attemptRuntime (only_call rfl)) fun _ => trivial) fun found => ?_
      split
      · exact ih
      · exact only_bind (only_attemptRuntime (only_call rfl)) fun _ => ih

theorem only_syncModels (patterns : List String) (limit : Duration) (models : List String) :
    (syncModels tenant patterns limit models).run.Only (Call.Provisions tenant) Q := by
  induction models with
  | nil => trivial
  | cons model rest ih =>
    unfold syncModels
    refine only_bind (only_bind (only_attemptRuntime (only_call rfl)) fun _ => trivial) fun found => ?_
    have hrest := only_bind (Q := Q) (only_syncVariants model patterns) fun _ => ih
    split
    · exact hrest
    · exact only_bind (Program.Only.bind (only_call rfl) fun _ => trivial) fun _ => hrest

theorem only_syncRuntime (ws : Workspace) :
    (syncRuntime config ws).run.Only (Call.Provisions ws.workspaceName) Q := by
  unfold syncRuntime
  refine only_bind (only_call rfl) fun ready => ?_
  split
  · trivial
  · refine only_bind (only_always (only_call rfl)) fun _ => ?_
    refine only_bind (only_syncModels _ _ _) fun _ => ?_
    exact only_bind (only_attemptRuntime (only_call rfl)) fun _ => trivial

theorem only_ensure (ws : Workspace) {child : Object.Child} (h : Region tenant (Simulation.keyOf child)) :
    (ensure ws child).run.Only (Call.Provisions tenant) Q := by
  unfold ensure
  refine only_bind (only_call h) fun found => ?_
  split
  · trivial
  · split
    · trivial
    · exact only_bind (only_call h) fun _ => trivial

theorem only_follow (ws : Workspace) {entries : List Tenant.Entry}
    (h : ∀ child, .ensure child ∈ entries → Region ws.workspaceName (Simulation.keyOf child)) :
    (follow config ws entries).run.Only (Call.Provisions ws.workspaceName) Q := by
  induction entries with
  | nil => trivial
  | cons entry rest ih =>
    have hrest := ih fun child hc => h child (List.mem_cons_of_mem _ hc)
    cases entry with
    | ensure child =>
      unfold follow
      refine only_bind (only_ensure ws (h child (List.mem_cons_self ..))) fun found => ?_
      cases found with
      | created => trivial
      | present => exact hrest
    | readiness =>
      unfold follow
      refine only_bind (only_syncRuntime ws) fun state => ?_
      cases state with
      | notReady => trivial
      | synced => exact hrest

theorem only_provision (ws : Workspace) :
    (provision config ws).run.Only (Call.Provisions ws.workspaceName) Q := by
  unfold provision loadSettings
  refine only_bind (only_bind (only_call trivial) fun found => ?_) fun settings => ?_
  · cases found with
    | none => trivial
    | some m => trivial
  · refine only_follow ws fun child hc => ?_
    have hkey := Tenant.mem_keysOf.2 ⟨child, hc, rfl⟩
    rw [Tenant.keysOf_plan] at hkey
    exact region_planKeys hkey

/-! ## Passes keep to their own -/

variable {tenants : List String}

/-- The call is about the workspace `name`, or about one of these tenants. -/
def Call.Concerns (name : String) (tenants : List String) : Call → Prop
  | .workspace n | .setFinalizers n .. | .patchStatus n .. => n = name
  | .publish event => event.reference.name = some name
  | .deleteNamespace ns => ns ∈ tenants
  | .now => True
  | c => ∃ t ∈ tenants, c.Provisions t

/-- A workspace that is found under its name is of one of these tenants. -/
def Files (name : String) (tenants : List String) : (c : Call) → c.Answer → Prop
  | .workspace n, .ok (some ws) => n = name → ws.metadata.name = some name ∧ ws.workspaceName ∈ tenants
  | _, _ => True

theorem concerns_of_provisions (htenant : tenant ∈ tenants) (c : Call) (h : c.Provisions tenant) :
    c.Concerns name tenants := by
  cases c <;> first | exact ⟨tenant, htenant, h⟩ | cases h

theorem only_report (mark : Bool) (c : Option Condition) :
    (report name mark c).run.Only (Call.Concerns name tenants) (Files name tenants) := by
  unfold report
  rw [run_workspace_bind]
  refine ⟨rfl, fun x hx => ?_⟩
  match x, hx with
  | .error e, _ => trivial
  | .ok none, _ => trivial
  | .ok (some latest), hx =>
    refine only_bind (only_always (only_call trivial)) fun now => ?_
    dsimp only
    split
    · trivial
    · exact only_call (Workspace.name_of_some (hx rfl).1)

variable {ws : Workspace}

theorem only_provisionPass (hname : ws.metadata.name = some name) (htenant : ws.workspaceName ∈ tenants) (step : Step) :
    (provisionPass config step ws).run.Only (Call.Concerns name tenants) (Files name tenants) := by
  obtain rfl := Workspace.name_of_some hname
  unfold provisionPass
  refine only_bind ((only_provision ws).mono (concerns_of_provisions htenant)) fun outcome => ?_
  cases outcome with
  | created | awaitingReadiness => exact only_bind (only_report ..) fun _ => trivial
  | complete =>
    refine only_bind (only_report ..) fun _ => ?_
    dsimp only
    split
    · exact only_bind (only_always (only_call hname)) fun _ => trivial
    · trivial

theorem only_teardown (hname : ws.metadata.name = some name) (htenant : ws.workspaceName ∈ tenants) :
    (teardown ws).run.Only (Call.Concerns name tenants) Q :=
  only_bind (only_call htenant) fun _ =>
    only_bind (only_always (only_call hname)) fun _ => only_call (Workspace.name_of_some hname)

theorem only_runStep (hname : ws.metadata.name = some name) (htenant : ws.workspaceName ∈ tenants) (step : Step) :
    (runStep config ws step).run.Only (Call.Concerns name tenants) (Files name tenants) := by
  cases step with
  | finalizer =>
    refine only_bind ?_ fun _ => trivial
    unfold attach
    split
    · trivial
    · exact only_call (Workspace.name_of_some hname)
  | create | update => exact only_provisionPass hname htenant _
  | abandon => trivial
  | delete => exact only_bind (only_teardown hname htenant) fun _ => trivial

/-- A pass calls for nothing but its own workspace and the tenants that this has been of. -/
theorem only_pass (config : Config) (name : String) (tenants : List String) :
    (pass config name).run.Only (Call.Concerns name tenants) (Files name tenants) := by
  unfold pass
  rw [run_workspace_bind]
  refine ⟨rfl, fun x hx => ?_⟩
  match x, hx with
  | .error e, _ => trivial
  | .ok none, _ => trivial
  | .ok (some ws), hx =>
    obtain ⟨hname, htenant⟩ := hx rfl
    dsimp only
    split
    · trivial
    next step _ =>
      refine Program.Only.bind (only_runStep hname htenant step) fun r => ?_
      cases r with
      | ok requeue => trivial
      | error e =>
        refine Program.Only.bind ?_ fun _ => trivial
        unfold reportFailure
        split
        · trivial
        · exact Program.Only.bind (only_report ..) fun _ => trivial

/-! ## Passes do not look at versions and times -/

/-- Which versions in the one run stand for which in the other. -/
abbrev Pairing := Option String → Option String → Prop

/-- Two readings of a workspace that are the same but for the times and the versions, which stand for each other. -/
inductive Likewise (V : Pairing) : Except Error (Option Workspace) → Except Error (Option Workspace) → Prop
  | failed (e : Error) : Likewise V (.error e) (.error e)
  | absent : Likewise V (.ok none) (.ok none)
  | found {ws ws' : Workspace} : ws'.bare = ws.bare → V ws.metadata.resourceVersion ws'.metadata.resourceVersion →
      Likewise V (.ok (some ws)) (.ok (some ws'))

/-- The call neither reads nor writes a workspace, and does not ask for the time. -/
def Call.Plain : Call → Prop
  | .workspace _ | .setFinalizers .. | .patchStatus .. | .now => False
  | _ => True

/-- Two programs that make the same calls and end alike, but for times and versions, if they are answered alike.
With every reading more versions may come to stand for each other. -/
inductive Similar : Pairing → Program α → Program α → Prop
  | done {V : Pairing} (a : α) : Similar V (.done a) (.done a)
  | plain {V : Pairing} {c : Call} {next next' : c.Answer → Program α} : c.Plain →
      (∀ x, Similar V (next x) (next' x)) → Similar V (.ask c next) (.ask c next')
  | reading {V : Pairing} {n : String} {next next' : Except Error (Option Workspace) → Program α} :
      (∀ V' x x', V ≤ V' → Likewise V' x x' → Similar V' (next x) (next' x')) →
      Similar V (.ask (.workspace n) next) (.ask (.workspace n) next')
  | clock {V : Pairing} {next next' : String → Program α} : (∀ x x', Similar V (next x) (next' x')) →
      Similar V (.ask .now next) (.ask .now next')
  | guards {V : Pairing} {n : String} {v v' : Option String} {finalizers : List String}
      {next next' : Except Error Unit → Program α} : V v v' → (∀ x, Similar V (next x) (next' x)) →
      Similar V (.ask (.setFinalizers n v finalizers) next) (.ask (.setFinalizers n v' finalizers) next')
  | status {V : Pairing} {n : String} {v v' : Option String} {s s' : Status}
      {next next' : Except Error Unit → Program α} : V v v' → s'.timeless = s.timeless →
      (∀ x, Similar V (next x) (next' x)) →
      Similar V (.ask (.patchStatus n v s) next) (.ask (.patchStatus n v' s') next')

variable {V : Pairing}

theorem Similar.bind {p p' : Program α} {f f' : α → Program β} (h : Similar V p p')
    (hf : ∀ V', V ≤ V' → ∀ a, Similar V' (f a) (f' a)) : Similar V (p.bind f) (p'.bind f') := by
  induction h with
  | done a => exact hf _ le_rfl a
  | plain hc _ ih => exact .plain hc fun x => ih x hf
  | reading _ ih => exact .reading fun V' x x' hle hx => ih V' x x' hle hx fun V'' hle' => hf V'' (hle.trans hle')
  | clock _ ih => exact .clock fun x x' => ih x x' hf
  | guards hv _ ih => exact .guards hv fun x => ih x hf
  | status hv hs _ ih => exact .status hv hs fun x => ih x hf

theorem similar_bind {o o' : Operation α} {f f' : α → Operation β} (h : Similar V o.run o'.run)
    (hf : ∀ V', V ≤ V' → ∀ a, Similar V' (f a).run (f' a).run) : Similar V (o >>= f).run (o' >>= f').run := by
  rw [ExceptT.run_bind, ExceptT.run_bind]
  refine h.bind fun V' hle x => ?_
  cases x with
  | error e => exact .done _
  | ok a => exact hf V' hle a

/-- A program whose calls are plain is similar to itself. -/
theorem similar_of_plain {p : Program α} (h : p.Only Call.Plain fun _ _ => True) : Similar V p p := by
  induction p with
  | done a => exact .done a
  | ask c next ih => exact .plain h.1 fun x => ih x (h.2 x trivial)

theorem plain_of_provisions (c : Call) (h : c.Provisions tenant) : c.Plain := by
  cases c <;> trivial

variable {ws ws' : Workspace}

theorem timeless_getD (h : ws'.bare = ws.bare) : (ws'.status.getD {}).timeless = (ws.status.getD {}).timeless := by
  have hstatus : ws'.status.map Status.timeless = ws.status.map Status.timeless := (congrArg Workspace.status h :)
  have hgetD : ∀ s : Option Status, (s.getD {}).timeless = (s.map Status.timeless).getD {} := by
    intro s
    cases s <;> rfl
  rw [hgetD, hgetD, hstatus]

theorem similar_report (mark : Bool) (c : Option Condition) :
    Similar V (report name mark c).run (report name mark c).run := by
  unfold report
  rw [run_workspace_bind]
  refine .reading fun V' x x' hle hx => ?_
  cases hx with
  | failed e => exact .done _
  | absent => exact .done _
  | @found latest latest' hbare hv =>
    have hname : latest'.name = latest.name := (congrArg Workspace.name hbare :)
    have hgeneration : latest'.metadata.generation = latest.metadata.generation :=
      (congrArg (fun ws => ws.metadata.generation) hbare :)
    simp only [run_now_bind]
    refine .clock fun now now' => ?_
    have hnext := Status.timeless_merge (timeless_getD hbare) now now' mark c latest.metadata.generation
    have hsame : (latest'.status.getD {}).sameIgnoringTime
        ((latest'.status.getD {}).merge now' mark c latest.metadata.generation) =
          (latest.status.getD {}).sameIgnoringTime ((latest.status.getD {}).merge now mark c latest.metadata.generation) := by
      unfold Status.sameIgnoringTime
      rw [hnext, timeless_getD hbare]
    rw [hname, hgeneration, hsame]
    split
    · exact .done _
    · exact .status hv hnext fun x => .done _

/-- The provisioning depends on the workspace without its version and times. -/
theorem provision_bare (ws : Workspace) : provision config ws = provision config ws.bare := by
  have hfollow : ∀ entries, follow config ws entries = follow config ws.bare entries := by
    intro entries
    induction entries with
    | nil => rfl
    | cons entry rest ih =>
      cases entry with
      | ensure child => unfold follow; rw [ih]; rfl
      | readiness => unfold follow; rw [ih]; rfl
  unfold provision
  simp only [hfollow]
  rfl

theorem similar_provision (h : ws'.bare = ws.bare) : Similar V (provision config ws).run (provision config ws').run := by
  rw [provision_bare ws', h, ← provision_bare ws]
  exact similar_of_plain ((only_provision ws).mono plain_of_provisions)

theorem similar_publish (event : Event) : Similar V (Operation.publish event).run (Operation.publish event).run :=
  similar_of_plain (only_always (only_call trivial))

theorem similar_provisionPass (h : ws'.bare = ws.bare) (step : Step) :
    Similar V (provisionPass config step ws).run (provisionPass config step ws').run := by
  have hname : ws'.name = ws.name := (congrArg Workspace.name h :)
  have hcreated : createdEvent ws' = createdEvent ws := (congrArg createdEvent h :)
  unfold provisionPass
  refine similar_bind (similar_provision h) fun V' _ outcome => ?_
  cases outcome with
  | created | awaitingReadiness =>
    dsimp only
    rw [hname]
    exact similar_bind (similar_report ..) fun _ _ _ => .done _
  | complete =>
    dsimp only
    rw [hname, hcreated]
    refine similar_bind (similar_report ..) fun _ _ _ => ?_
    split
    · exact similar_bind (similar_publish _) fun _ _ _ => .done _
    · exact .done _

theorem similar_runStep (h : ws'.bare = ws.bare) (hv : V ws.metadata.resourceVersion ws'.metadata.resourceVersion)
    (step : Step) : Similar V (runStep config ws step).run (runStep config ws' step).run := by
  have hname : ws'.name = ws.name := (congrArg Workspace.name h :)
  have hfinalizers : ws'.finalizers = ws.finalizers := (congrArg Workspace.finalizers h :)
  cases step with
  | finalizer =>
    refine similar_bind ?_ fun _ _ _ => .done _
    unfold attach Workspace.hasFinalizer
    rw [hname, hfinalizers]
    split
    · exact .done _
    · exact .guards hv fun _ => .done _
  | create | update => exact similar_provisionPass h _
  | abandon => exact .done _
  | delete =>
    have htenant : ws'.workspaceName = ws.workspaceName := (congrArg Workspace.workspaceName h :)
    have hevent : deletingEvent ws' = deletingEvent ws := (congrArg deletingEvent h :)
    refine similar_bind ?_ fun _ _ _ => .done _
    unfold teardown
    rw [hname, hfinalizers, htenant, hevent]
    refine similar_bind (similar_of_plain (only_call trivial)) fun V' hle _ => ?_
    exact similar_bind (similar_publish _) fun V'' hle' _ => .guards (hle' _ _ (hle _ _ hv)) fun _ => .done _

/-- The facts that decide the step are the same. -/
theorem facts_bare (h : ws'.bare = ws.bare) : Facts.of ws' = Facts.of ws := by
  have hcreated : ws'.isCreated = ws.isCreated := by
    rw [← Workspace.isCreated_getD, ← Workspace.isCreated_getD]
    exact (congrArg Status.isCreated (timeless_getD h) :)
  have hguard : ws'.hasFinalizer = ws.hasFinalizer := (congrArg Workspace.hasFinalizer h :)
  have hpending : ws'.pendingDeletion = ws.pendingDeletion := (congrArg Workspace.pendingDeletion h :)
  unfold Facts.of
  rw [hcreated, hguard, hpending]

/-- A pass does not look at versions and times. -/
theorem similar_pass (V : Pairing) (config : Config) (name : String) :
    Similar V (pass config name).run (pass config name).run := by
  unfold pass
  rw [run_workspace_bind]
  refine .reading fun V' x x' _ hx => ?_
  cases hx with
  | failed e => exact .done _
  | absent => exact .done _
  | @found ws ws' hbare hv =>
    dsimp only
    rw [facts_bare hbare]
    split
    · exact .done _
    next step _ =>
      refine Similar.bind (similar_runStep hbare hv step) fun V'' _ r => ?_
      cases r with
      | ok requeue => exact .done _
      | error e =>
        refine Similar.bind ?_ fun _ _ _ => .done _
        unfold reportFailure
        split
        · exact .done _
        · exact Similar.bind (similar_report ..) fun _ _ _ => .done _

end Operator
end Tenancy
