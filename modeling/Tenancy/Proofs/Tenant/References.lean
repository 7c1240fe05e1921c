/-
What the objects of a plan say of each other. Objects refer to each other by what stands in their documents: names
of accounts, claims and services, labels of pods, ports and addresses. In every plan each of them leads where it
should (`plan_coherent`): to an object of the same plan and namespace, one that comes before where it has to be there
first; and the address at which the chat front-end looks for the model runtime is the one that the operator uses
itself.
-/
import Tenancy.Operator.Remote.Exchange
import Tenancy.Proofs.Object.Document
import Tenancy.Proofs.Tenant.Plan

namespace Tenancy.Model.Client

/-- An address that ends in no slash is kept. -/
theorem base_of {address : String} (agent : Option String) (h : address.toList.getLast? ≠ some '/') :
    (of address agent).base = address := by
  have hkeep : address.toList.reverse.dropWhile (· = '/') = address.toList.reverse := by
    cases hr : address.toList.reverse with
    | nil => rfl
    | cons c rest =>
      have hlast : address.toList.getLast? = some c := by rw [← List.head?_reverse, hr, List.head?_cons]
      have hc : c ≠ '/' := fun e => h (e ▸ hlast)
      rw [List.dropWhile_cons_of_neg (by simpa using hc)]
  rw [of, hkeep, List.reverse_reverse, String.ofList_toList]

end Tenancy.Model.Client

namespace Tenancy.Tenant

open Object Operator

/-! ## Plans -/

/-- The children of a kind, in their order. -/
def childrenOf (kind : Kind) (entries : List Entry) : List Child :=
  (entries.filterMap Entry.child?).filter (·.kind = kind)

theorem mem_childrenOf {kind : Kind} {entries : List Entry} {child : Child} :
    child ∈ childrenOf kind entries ↔ .ensure child ∈ entries ∧ child.kind = kind := by
  rw [childrenOf, List.mem_filter, List.mem_filterMap, decide_eq_true_iff]
  refine and_congr_left fun _ => ⟨?_, fun h => ⟨_, h, rfl⟩⟩
  rintro ⟨e, he, hc⟩
  cases e with
  | ensure child' => exact Option.some.inj hc ▸ he
  | readiness => cases hc

/-- One child comes before another. -/
def Before (entries : List Entry) (a b : Child) : Prop := List.Sublist [.ensure a, .ensure b] entries

theorem Before.left {entries : List Entry} {a b : Child} (h : Before entries a b) : .ensure a ∈ entries :=
  List.Sublist.subset h (List.mem_cons_self ..)

theorem Before.append {l₁ l₂ : List Entry} {a b : Child} (ha : .ensure a ∈ l₁) (hb : .ensure b ∈ l₂) :
    Before (l₁ ++ l₂) a b :=
  (List.singleton_sublist.2 ha).append (List.singleton_sublist.2 hb)

/-! ## References -/

/-- A service stands for the pods of a workload, at the port of their container. -/
structure StandsFor (service workload : Child) (port : Json) : Prop where
  ns : service.ns = workload.ns
  matchLabels : workload.matchLabels = service.spec.get "selector"
  podLabels : workload.podLabels = service.spec.get "selector"
  container : workload.containerPorts = [port]
  ports : service.servicePorts = [(port, port)]

/-- An ingress leads to a service, at a port that it has. -/
structure LeadsTo (ingress service : Child) (port : Json) : Prop where
  cluster : service.IsClusterService
  ns : service.ns = ingress.ns
  backend : ingress.backends = [(.str service.name, port)]
  ports : service.servicePorts = [(port, port)]

/-- What is scaled is a deployment behind a service, by the requests for the hosts of an ingress. -/
structure Scales (scaled workload service ingress : Child) (port : Json) : Prop where
  kind : (scaled.spec.get "scaleTargetRef").get "kind" = .str Kind.deployment.label
  apiVersion : (scaled.spec.get "scaleTargetRef").get "apiVersion" = .str Kind.deployment.apiVersion
  workload : (scaled.spec.get "scaleTargetRef").get "name" = .str workload.name
  service : (scaled.spec.get "scaleTargetRef").get "service" = .str service.name
  port : (scaled.spec.get "scaleTargetRef").get "port" = port
  hosts : Json.Field.items scaled.spec "hosts" = ingress.ingressHosts

/-- Every reference from one object of a plan to another leads where it should. -/
structure Coherent (tenant : String) (config : Config) (entries : List Entry) : Prop where
  /-- The objects are those of a tenant, each of them once; scaling is the only one that may be left out. -/
  objects : keysOf entries = planKeys tenant config.scaleToZero
  /-- All objects that live in a namespace live in the one of the tenant, which comes first. -/
  home : ∃ home rest, entries = .ensure home :: rest ∧ home.key = ⟨.namespace, none, tenant⟩ ∧
    ∀ child, .ensure child ∈ rest → child.ns = some tenant
  account : ∀ workload, .ensure workload ∈ entries → workload.IsWorkload →
    ∃ account, Before entries account workload ∧ account.key = ⟨.serviceAccount, workload.ns, account.name⟩ ∧
      workload.account = .str account.name
  claim : ∀ workload, .ensure workload ∈ entries → workload.kind = .deployment →
    ∃ claim, Before entries claim workload ∧ claim.key = ⟨.volumeClaim, workload.ns, claim.name⟩ ∧
      workload.claims = [.str claim.name]
  /-- The service under which the pods of a stateful set have their names. -/
  governor : ∀ workload, .ensure workload ∈ entries → workload.kind = .statefulSet →
    ∃ service, .ensure service ∈ entries ∧ service.key = ⟨.service, workload.ns, service.name⟩ ∧
      workload.spec.get "serviceName" = .str service.name
  /-- A service stands for one workload, and selects the pods of no other. -/
  service : ∀ service, .ensure service ∈ entries → service.IsClusterService →
    ∃ workload port, .ensure workload ∈ entries ∧ workload.IsWorkload ∧ StandsFor service workload port ∧
      ∀ other, .ensure other ∈ entries → other.IsWorkload →
        other.matchLabels = service.spec.get "selector" ∨ other.podLabels = service.spec.get "selector" →
          other = workload
  ingress : ∀ ingress, .ensure ingress ∈ entries → ingress.kind = .ingress →
    ∃ service port, Before entries service ingress ∧ LeadsTo ingress service port
  /-- What is scaled is the chat front-end. -/
  scaling : ∀ scaled, .ensure scaled ∈ entries → scaled.kind = .scaledObject → ∃ workload service ingress port,
    Before entries workload scaled ∧ workload.key = ⟨.deployment, scaled.ns, chatName tenant⟩ ∧
    Before entries service scaled ∧ service.key = ⟨.service, scaled.ns, chatName tenant⟩ ∧
    Before entries ingress scaled ∧ ingress.key = ⟨.ingress, scaled.ns, chatName tenant⟩ ∧
    StandsFor service workload port ∧ LeadsTo ingress service port ∧ Scales scaled workload service ingress port
  /-- The chat front-end looks for the model runtime where the operator does, at the service of the runtime. -/
  address : ∀ workload, .ensure workload ∈ entries → workload.kind = .deployment → ∃ service runtime port,
    Before entries service workload ∧ service.key = ⟨.service, some tenant, runtimeName tenant⟩ ∧
    .ensure runtime ∈ entries ∧ runtime.kind = .statefulSet ∧ StandsFor service runtime (.int port) ∧
    workload.environment "OLLAMA_BASE_URL" = [.str (Remote.runtime config tenant).base] ∧
    (Remote.runtime config tenant).base =
      "http://" ++ service.name ++ "." ++ tenant ++ ".svc." ++ config.clusterDomain ++ ":" ++ toString port

/-! ## The objects of a tenant -/

section

variable (tenant environment clusterDomain : String) (settings : Settings)

def chatClaim : Child :=
  Manifest.volumeClaim tenant (chatName tenant) Manifest.chatVolumeSize (labelled tenant (chatName tenant) .volumeClaim)

/-- The service account of the workload called `name`. -/
def accountOf (name : String) : Child := Manifest.serviceAccount tenant name (labelled tenant name .serviceAccount)

/-- The service of the workload called `name`. -/
def serviceOf (name : String) (port : Int) : Child := Manifest.clusterService tenant name port (labelled tenant name .service)

def runtimeWorkload : Child :=
  Manifest.runtime tenant (runtimeName tenant) Manifest.runtimePort settings.runtimeTag Manifest.runtimeVolumeSize
    (labelled tenant (runtimeName tenant) .modelRuntime)

def chatWorkload : Child :=
  Manifest.chat tenant (chatName tenant) Manifest.chatPort settings.chatTag
    ⟨tenant, environment, runtimeUrl tenant clusterDomain Manifest.runtimePort⟩ (labelled tenant (chatName tenant) .chatFront)

/-- The ingress that leads `host` to the service called `name`. -/
def ingressOf (name host : String) (port : Int) : Child :=
  Manifest.ingress tenant name host name port (labelled tenant name .ingress)

def chatScaling : Child :=
  Manifest.scaledObject tenant (chatName tenant) Manifest.chatPort [chatHost tenant settings.defaultDomain]
    (labelled tenant (chatName tenant) .autoscaling)

end

section

variable (tenant : String)

theorem key_accountOf (name : String) :
    (accountOf tenant name).key = ⟨.serviceAccount, some tenant, (accountOf tenant name).name⟩ := rfl

theorem key_chatClaim : (chatClaim tenant).key = ⟨.volumeClaim, some tenant, (chatClaim tenant).name⟩ := rfl

theorem key_serviceOf (name : String) (port : Int) : (serviceOf tenant name port).key = ⟨.service, some tenant, name⟩ := rfl

theorem name_serviceOf (name : String) (port : Int) : (serviceOf tenant name port).name = name := rfl

theorem key_ingressOf (name host : String) (port : Int) :
    (ingressOf tenant name host port).key = ⟨.ingress, some tenant, name⟩ := rfl

theorem ns_serviceOf (name : String) (port : Int) : (serviceOf tenant name port).ns = some tenant := rfl

theorem ns_ingressOf (name host : String) (port : Int) : (ingressOf tenant name host port).ns = some tenant := rfl

theorem key_chatWorkload (environment clusterDomain : String) (settings : Settings) :
    (chatWorkload tenant environment clusterDomain settings).key = ⟨.deployment, some tenant, chatName tenant⟩ := rfl

theorem ns_chatScaling (settings : Settings) : (chatScaling tenant settings).ns = some tenant := rfl

end

section

variable (ws : Workspace) (settings : Settings) (config : Config)

theorem childrenOf_statefulSet :
    childrenOf .statefulSet (plan ws settings config) = [runtimeWorkload ws.workspaceName settings] := by
  unfold plan
  cases config.scaleToZero <;> rfl

theorem childrenOf_deployment : childrenOf .deployment (plan ws settings config) =
    [chatWorkload ws.workspaceName ws.spec.workspaceEnv config.clusterDomain settings] := by
  unfold plan
  cases config.scaleToZero <;> rfl

theorem childrenOf_service : childrenOf .service (plan ws settings config) =
    [serviceOf ws.workspaceName (runtimeName ws.workspaceName) Manifest.runtimePort,
      serviceOf ws.workspaceName (chatName ws.workspaceName) Manifest.chatPort,
      Manifest.externalService ws.workspaceName (interceptorName ws.workspaceName) Manifest.interceptorHost
        (labelled ws.workspaceName (interceptorName ws.workspaceName) .service)] := by
  unfold plan
  cases config.scaleToZero <;> rfl

theorem childrenOf_ingress : childrenOf .ingress (plan ws settings config) =
    [ingressOf ws.workspaceName (chatName ws.workspaceName) (chatHost ws.workspaceName settings.defaultDomain) Manifest.chatPort,
      ingressOf ws.workspaceName (runtimeName ws.workspaceName) (runtimeHost ws.workspaceName settings.defaultDomain)
        Manifest.runtimePort] := by
  unfold plan
  cases config.scaleToZero <;> rfl

theorem childrenOf_scaledObject : childrenOf .scaledObject (plan ws settings config) =
    if config.scaleToZero then [chatScaling ws.workspaceName settings] else [] := by
  unfold plan
  cases config.scaleToZero <;> rfl

end

/-! ### What comes first -/

section

variable {ws : Workspace} {settings : Settings} {config : Config} {a b : Child}

/-- What the model runtime needs comes before everything that has to do with the chat front-end. -/
theorem before_gate (ha : .ensure a ∈ runtimeEntries ws.workspaceName settings)
    (hb : .ensure b ∈ gatedEntries ws settings config) : Before (plan ws settings config) a b := by
  rw [plan_eq]
  exact Before.append ha (List.mem_cons_of_mem _ hb)

theorem before_scaling (hs : config.scaleToZero = true)
    (ha : .ensure a ∈ chatEntries ws.workspaceName ws.spec.workspaceEnv settings config.clusterDomain)
    (hb : .ensure b ∈ scalingEntries ws.workspaceName settings) : Before (plan ws settings config) a b := by
  rw [plan, if_pos hs]
  exact Before.append (List.mem_append_right (runtimeEntries ..) (List.mem_cons_of_mem _ ha)) hb

end

/-! ### Where the references lead -/

section

variable (tenant : String)

theorem leadsTo (name host : String) (port : Int) :
    LeadsTo (ingressOf tenant name host port) (serviceOf tenant name port) (.int port) where
  cluster := Child.isClusterService_clusterIP ..
  ns := by rw [ns_serviceOf, ns_ingressOf]
  backend := Child.backends_ingress ..
  ports := Child.servicePorts_clusterIP ..

theorem selector_serviceOf (name : String) (port : Int) :
    (serviceOf tenant name port).spec.get "selector" = .table (Labels.selector name) := Child.selector_clusterIP ..

theorem table_selector_inj {a b : String} (h : Json.table (Labels.selector a) = .table (Labels.selector b)) : a = b := by
  simpa [Json.table, Labels.selector] using h

/-- The workload called `name`, whose pods listen on `port`. -/
structure IsWorkloadOf (tenant name : String) (port : Int) (workload : Child) (p : Pods) : Prop where
  ns : workload.ns = some tenant
  runs : workload.Runs (Labels.selector name) p
  labels : p.labels = Labels.selector name
  account : p.serviceAccount = name
  port : p.container.port = port

theorem IsWorkloadOf.standsFor {tenant name : String} {port : Int} {workload : Child} {p : Pods}
    (h : IsWorkloadOf tenant name port workload p) : StandsFor (serviceOf tenant name port) workload (.int port) where
  ns := h.ns.symm
  matchLabels := by rw [h.runs.matchLabels, selector_serviceOf]
  podLabels := by rw [h.runs.podLabels, h.labels, selector_serviceOf]
  container := by rw [h.runs.containerPorts, h.port]
  ports := Child.servicePorts_clusterIP ..

/-- A service finds the pods of no workload but the one of its name. -/
theorem IsWorkloadOf.name_eq {tenant name other : String} {port port' : Int} {workload : Child} {p : Pods}
    (h : IsWorkloadOf tenant name port workload p)
    (hsel : workload.matchLabels = (serviceOf tenant other port').spec.get "selector" ∨
      workload.podLabels = (serviceOf tenant other port').spec.get "selector") : name = other := by
  rw [h.runs.matchLabels, h.runs.podLabels, h.labels, selector_serviceOf, or_self] at hsel
  exact table_selector_inj hsel

theorem IsWorkloadOf.account_eq {tenant name : String} {port : Int} {workload : Child} {p : Pods}
    (h : IsWorkloadOf tenant name port workload p) : workload.account = .str (accountOf tenant name).name := by
  rw [h.runs.account, h.account]
  rfl

theorem isWorkloadOf_runtime (settings : Settings) : ∃ p,
    IsWorkloadOf tenant (runtimeName tenant) Manifest.runtimePort (runtimeWorkload tenant settings) p :=
  ⟨_, rfl, Child.runs_statefulSet .., rfl, rfl, rfl⟩

theorem isWorkloadOf_chat (environment clusterDomain : String) (settings : Settings) : ∃ p,
    IsWorkloadOf tenant (chatName tenant) Manifest.chatPort (chatWorkload tenant environment clusterDomain settings) p :=
  ⟨_, rfl, Child.runs_deployment .., rfl, rfl, rfl⟩

theorem serviceName_runtimeWorkload (settings : Settings) : (runtimeWorkload tenant settings).spec.get "serviceName" =
    .str (serviceOf tenant (runtimeName tenant) Manifest.runtimePort).name := by
  rw [runtimeWorkload, Manifest.runtime, Child.spec_statefulSet]
  exact Json.get_object (by simp) "serviceName"

theorem claims_chatWorkload (environment clusterDomain : String) (settings : Settings) :
    (chatWorkload tenant environment clusterDomain settings).claims = [.str (chatClaim tenant).name] :=
  (Child.runs_deployment ..).claims

theorem environment_chatWorkload (environment clusterDomain : String) (settings : Settings) :
    (chatWorkload tenant environment clusterDomain settings).environment "OLLAMA_BASE_URL" =
      [.str (runtimeUrl tenant clusterDomain Manifest.runtimePort)] :=
  (Child.runs_deployment ..).environment _

/-- The operator calls the runtime at the address that the chat front-end is told. -/
theorem base_runtime (config : Config) :
    (Remote.runtime config tenant).base = runtimeUrl tenant config.clusterDomain Manifest.runtimePort := by
  refine Model.Client.base_of _ ?_
  have hport : (toString Model.Client.defaultPort).toList = ['1', '1', '4', '3', '4'] := by rfl
  rw [runtimeUrl, String.toList_append, hport, List.getLast?_append]
  show some '4' ≠ some '/'
  decide

theorem scales (environment clusterDomain : String) (settings : Settings) :
    Scales (chatScaling tenant settings) (chatWorkload tenant environment clusterDomain settings)
      (serviceOf tenant (chatName tenant) Manifest.chatPort)
      (ingressOf tenant (chatName tenant) (chatHost tenant settings.defaultDomain) Manifest.chatPort)
      (.int Manifest.chatPort) := by
  have hspec : (chatScaling tenant settings).spec = ScaledObject.toJson
      { hosts := [chatHost tenant settings.defaultDomain], deployment := chatName tenant, port := Manifest.chatPort } :=
    Child.spec_scaledObject ..
  have htarget : (chatScaling tenant settings).spec.get "scaleTargetRef" = .object [("name", .str (chatName tenant)),
      ("kind", .str Kind.deployment.label), ("apiVersion", .str Kind.deployment.apiVersion),
      ("service", .str (chatName tenant)), ("port", .int Manifest.chatPort)] := by
    rw [hspec]
    exact Json.get_object (by simp) "scaleTargetRef"
  constructor
  · rw [htarget]
    exact Json.get_object (by simp) "kind"
  · rw [htarget]
    exact Json.get_object (by simp) "apiVersion"
  · rw [htarget]
    exact Json.get_object (by simp) "name"
  · rw [htarget]
    exact Json.get_object (by simp) "service"
  · rw [htarget]
    exact Json.get_object (by simp) "port"
  · rw [ingressOf, Manifest.ingress, Child.ingressHosts_ingress, hspec, Json.Field.items, ScaledObject.toJson,
      Json.get_object (by simp)]
    rfl

end

/-! ## Coherence -/

section

variable (ws : Workspace) (settings : Settings) (config : Config)

theorem ns_of_mem_tail {child : Child} (h : .ensure child ∈ (plan ws settings config).tail) :
    child.ns = some ws.workspaceName := by
  have all : ∃ n, ((plan ws settings config).tail.filterMap Entry.child?).map Child.ns =
      List.replicate n (some ws.workspaceName) := by
    unfold plan
    cases config.scaleToZero with
    | false => exact ⟨11, rfl⟩
    | true => exact ⟨12, rfl⟩
  obtain ⟨n, hn⟩ := all
  have hmem : child.ns ∈ ((plan ws settings config).tail.filterMap Entry.child?).map Child.ns :=
    List.mem_map_of_mem (List.mem_filterMap.2 ⟨_, h, rfl⟩)
  exact List.eq_of_mem_replicate (hn ▸ hmem)

theorem accountOf_before_runtimeWorkload : Before (plan ws settings config)
    (accountOf ws.workspaceName (runtimeName ws.workspaceName)) (runtimeWorkload ws.workspaceName settings) := by
  have hentries : runtimeEntries ws.workspaceName settings =
      (runtimeEntries ws.workspaceName settings).take 5 ++ (runtimeEntries ws.workspaceName settings).drop 5 := rfl
  -- Both come before the gate, so the cut is among the entries there.
  rw [plan_eq, hentries, List.append_assoc]
  exact Before.append (by simp [runtimeEntries, accountOf]) (by simp [runtimeEntries, runtimeWorkload])

theorem serviceOf_before_chatIngress : Before (plan ws settings config)
    (serviceOf ws.workspaceName (chatName ws.workspaceName) Manifest.chatPort)
    (ingressOf ws.workspaceName (chatName ws.workspaceName) (chatHost ws.workspaceName settings.defaultDomain)
      Manifest.chatPort) := by
  have hentries : ∀ environment clusterDomain, chatEntries ws.workspaceName environment settings clusterDomain =
      (chatEntries ws.workspaceName environment settings clusterDomain).take 2 ++
        (chatEntries ws.workspaceName environment settings clusterDomain).drop 2 := fun _ _ => rfl
  rw [plan_eq, gatedEntries, hentries, List.append_assoc, ← List.cons_append, ← List.append_assoc]
  refine Before.append (List.mem_append_right _ (List.mem_cons_of_mem _ ?_)) (List.mem_append_left _ ?_)
  · simp [chatEntries, serviceOf]
  · simp [chatEntries, ingressOf]

theorem serviceOf_before_runtimeIngress : Before (plan ws settings config)
    (serviceOf ws.workspaceName (runtimeName ws.workspaceName) Manifest.runtimePort)
    (ingressOf ws.workspaceName (runtimeName ws.workspaceName) (runtimeHost ws.workspaceName settings.defaultDomain)
      Manifest.runtimePort) :=
  before_gate (by simp [runtimeEntries, serviceOf]) (by simp [gatedEntries, chatEntries, ingressOf])

/-- Whatever comes before the gate comes before the chat front-end. -/
theorem before_chatWorkload {child : Child} (h : .ensure child ∈ runtimeEntries ws.workspaceName settings) :
    Before (plan ws settings config) child
      (chatWorkload ws.workspaceName ws.spec.workspaceEnv config.clusterDomain settings) :=
  before_gate h (by simp [gatedEntries, chatEntries, chatWorkload])

theorem runtimeWorkload_mem : .ensure (runtimeWorkload ws.workspaceName settings) ∈ plan ws settings config := by
  simp [plan, runtimeEntries, runtimeWorkload]

theorem chatWorkload_mem : .ensure (chatWorkload ws.workspaceName ws.spec.workspaceEnv config.clusterDomain settings) ∈
    plan ws settings config := by
  simp [plan, chatEntries, chatWorkload]

variable {ws settings config}

theorem workload_of_mem {workload : Child} (h : .ensure workload ∈ plan ws settings config) (hw : workload.IsWorkload) :
    workload = runtimeWorkload ws.workspaceName settings ∨
      workload = chatWorkload ws.workspaceName ws.spec.workspaceEnv config.clusterDomain settings := by
  rcases hw with hk | hk
  · have hmem := mem_childrenOf.2 ⟨h, hk⟩
    rw [childrenOf_statefulSet, List.mem_singleton] at hmem
    exact .inl hmem
  · have hmem := mem_childrenOf.2 ⟨h, hk⟩
    rw [childrenOf_deployment, List.mem_singleton] at hmem
    exact .inr hmem

theorem account_of_mem {workload : Child} (h : .ensure workload ∈ plan ws settings config) (hw : workload.IsWorkload) :
    ∃ account, Before (plan ws settings config) account workload ∧
      account.key = ⟨.serviceAccount, workload.ns, account.name⟩ ∧ workload.account = .str account.name := by
  rcases workload_of_mem h hw with rfl | rfl
  · obtain ⟨_, hr⟩ := isWorkloadOf_runtime ws.workspaceName settings
    exact ⟨_, accountOf_before_runtimeWorkload ws settings config, by rw [hr.ns, key_accountOf], hr.account_eq⟩
  · obtain ⟨_, hr⟩ := isWorkloadOf_chat ws.workspaceName ws.spec.workspaceEnv config.clusterDomain settings
    have hmem : .ensure (accountOf ws.workspaceName (chatName ws.workspaceName)) ∈
        runtimeEntries ws.workspaceName settings := by simp [runtimeEntries, accountOf]
    exact ⟨_, before_chatWorkload ws settings config hmem, by rw [hr.ns, key_accountOf], hr.account_eq⟩

/-- Of the services with an address of their own, each stands for one workload and for no other. -/
theorem service_of_mem {service : Child} (h : .ensure service ∈ plan ws settings config) (hs : service.IsClusterService) :
    ∃ workload port, .ensure workload ∈ plan ws settings config ∧ workload.IsWorkload ∧
      StandsFor service workload port ∧ ∀ other, .ensure other ∈ plan ws settings config → other.IsWorkload →
        other.matchLabels = service.spec.get "selector" ∨ other.podLabels = service.spec.get "selector" →
          other = workload := by
  obtain ⟨_, hruntime⟩ := isWorkloadOf_runtime ws.workspaceName settings
  obtain ⟨_, hchat⟩ := isWorkloadOf_chat ws.workspaceName ws.spec.workspaceEnv config.clusterDomain settings
  have hmem := mem_childrenOf.2 ⟨h, hs.1⟩
  rw [childrenOf_service, List.mem_cons, List.mem_cons, List.mem_singleton] at hmem
  rcases hmem with rfl | rfl | rfl
  · refine ⟨_, _, runtimeWorkload_mem ws settings config, .inl rfl, hruntime.standsFor, fun other ho hw hsel => ?_⟩
    rcases workload_of_mem ho hw with rfl | rfl
    · rfl
    -- The pods of the other workload carry another name.
    · exact absurd (hchat.name_eq hsel) (chatName_ne_runtimeName _)
  · refine ⟨_, _, chatWorkload_mem ws settings config, .inr rfl, hchat.standsFor, fun other ho hw hsel => ?_⟩
    rcases workload_of_mem ho hw with rfl | rfl
    · exact absurd (hruntime.name_eq hsel).symm (chatName_ne_runtimeName _)
    · rfl
  · exact (Child.not_isClusterService_externalName _ _ hs).elim

theorem ingress_of_mem {ingress : Child} (h : .ensure ingress ∈ plan ws settings config) (hk : ingress.kind = .ingress) :
    ∃ service port, Before (plan ws settings config) service ingress ∧ LeadsTo ingress service port := by
  have hmem := mem_childrenOf.2 ⟨h, hk⟩
  rw [childrenOf_ingress, List.mem_cons, List.mem_singleton] at hmem
  rcases hmem with rfl | rfl
  · exact ⟨_, _, serviceOf_before_chatIngress ws settings config, leadsTo ..⟩
  · exact ⟨_, _, serviceOf_before_runtimeIngress ws settings config, leadsTo ..⟩

theorem scaling_of_mem {scaled : Child} (h : .ensure scaled ∈ plan ws settings config) (hk : scaled.kind = .scaledObject) :
    ∃ workload service ingress port,
      Before (plan ws settings config) workload scaled ∧
      workload.key = ⟨.deployment, scaled.ns, chatName ws.workspaceName⟩ ∧
      Before (plan ws settings config) service scaled ∧
      service.key = ⟨.service, scaled.ns, chatName ws.workspaceName⟩ ∧
      Before (plan ws settings config) ingress scaled ∧
      ingress.key = ⟨.ingress, scaled.ns, chatName ws.workspaceName⟩ ∧
      StandsFor service workload port ∧ LeadsTo ingress service port ∧ Scales scaled workload service ingress port := by
  obtain ⟨_, hchat⟩ := isWorkloadOf_chat ws.workspaceName ws.spec.workspaceEnv config.clusterDomain settings
  have hmem := mem_childrenOf.2 ⟨h, hk⟩
  rw [childrenOf_scaledObject] at hmem
  split at hmem
  case isFalse => cases hmem
  case isTrue hs =>
    obtain rfl := List.mem_singleton.1 hmem
    have hlast : .ensure (chatScaling ws.workspaceName settings) ∈ scalingEntries ws.workspaceName settings := by
      simp [scalingEntries, chatScaling]
    rw [ns_chatScaling]
    refine ⟨_, _, _, _, before_scaling hs ?_ hlast, key_chatWorkload .., before_scaling hs ?_ hlast, key_serviceOf ..,
      before_scaling hs ?_ hlast, key_ingressOf .., hchat.standsFor, leadsTo .., scales ..⟩
    · simp [chatEntries, chatWorkload]
    · simp [chatEntries, serviceOf]
    · simp [chatEntries, ingressOf]

end

/-- Every reference from one object of a plan to another leads where it should. -/
theorem plan_coherent (ws : Workspace) (settings : Settings) (config : Config) :
    Coherent ws.workspaceName config (plan ws settings config) where
  objects := keysOf_plan ws settings config
  home := ⟨_, _, rfl, rfl, fun _ h => ns_of_mem_tail ws settings config h⟩
  account _ h hw := account_of_mem h hw
  claim workload h hk := by
    obtain rfl := List.mem_singleton.1 (childrenOf_deployment ws settings config ▸ mem_childrenOf.2 ⟨h, hk⟩)
    obtain ⟨_, hchat⟩ := isWorkloadOf_chat ws.workspaceName ws.spec.workspaceEnv config.clusterDomain settings
    have hmem : .ensure (chatClaim ws.workspaceName) ∈ runtimeEntries ws.workspaceName settings := by
      simp [runtimeEntries, chatClaim]
    exact ⟨_, before_chatWorkload ws settings config hmem, by rw [hchat.ns, key_chatClaim], claims_chatWorkload ..⟩
  governor workload h hk := by
    obtain rfl := List.mem_singleton.1 (childrenOf_statefulSet ws settings config ▸ mem_childrenOf.2 ⟨h, hk⟩)
    obtain ⟨_, hruntime⟩ := isWorkloadOf_runtime ws.workspaceName settings
    exact ⟨_, (serviceOf_before_runtimeIngress ws settings config).left, by rw [hruntime.ns, key_serviceOf, name_serviceOf],
      serviceName_runtimeWorkload ..⟩
  service _ h hs := service_of_mem h hs
  ingress _ h hk := ingress_of_mem h hk
  scaling _ h hk := scaling_of_mem h hk
  address workload h hk := by
    obtain rfl := List.mem_singleton.1 (childrenOf_deployment ws settings config ▸ mem_childrenOf.2 ⟨h, hk⟩)
    obtain ⟨_, hruntime⟩ := isWorkloadOf_runtime ws.workspaceName settings
    have hmem : .ensure (serviceOf ws.workspaceName (runtimeName ws.workspaceName) Manifest.runtimePort) ∈
        runtimeEntries ws.workspaceName settings := by simp [runtimeEntries, serviceOf]
    refine ⟨_, _, _, before_chatWorkload ws settings config hmem, key_serviceOf ..,
      runtimeWorkload_mem ws settings config, rfl, hruntime.standsFor, ?_, ?_⟩
    · rw [environment_chatWorkload, base_runtime]
    · rw [base_runtime, name_serviceOf, runtimeUrl]

end Tenancy.Tenant
