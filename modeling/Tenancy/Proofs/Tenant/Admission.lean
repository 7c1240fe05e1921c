/-
Which names a cluster takes. It limits the values of labels and selectors, and the names of services; what stands
there is a tenant's name with something before or behind it, so a name may be a label of a domain name and still be
too long. Each of the limits is kept exactly for the names up to a length (`labelsFit_iff`, `selectorsFit_iff`), those
of services moreover only for names that start with a letter (`servicesFit_iff`).
-/
import Tenancy.Proofs.Tenant.Hosts
import Tenancy.Proofs.Tenant.References

namespace Tenancy

namespace Dict

variable {α β : Type} [DecidableEq α] [LT α] [DecidableLT α]

/-- A dictionary of entries with different keys has these entries and no others. -/
theorem mem_ofList_iff {entries : List (α × β)} {e : α × β} (h : (entries.map (·.1)).Nodup) :
    e ∈ ofList entries ↔ e ∈ entries := by
  have hunder : ∀ m : Dict α β, e ∈ m ↔ e ∈ under m e.1 := fun m => by simp [under]
  rw [hunder, under_ofList h, ← hunder]

end Dict

namespace Tenant

open Object Operator

/-! ## Limits -/

/-- The most characters of a label, and of a name that is one. -/
def labelLimit : Nat := 63

/-- No object of a plan sets a label, on itself or on its pods, that is too long. -/
def LabelsFit (entries : List Entry) : Prop :=
  ∀ child, .ensure child ∈ entries → ∀ e ∈ child.setLabels, e.2.length ≤ labelLimit

/-- No object of a plan looks for a label that is too long. -/
def SelectorsFit (entries : List Entry) : Prop :=
  ∀ child, .ensure child ∈ entries → ∀ e ∈ child.soughtLabels, e.2.length ≤ labelLimit

/-- A label of a domain name that starts with a letter. -/
structure IsServiceName (s : String) : Prop extends IsLabel s where
  letter : s.toList.head?.any Char.isLower = true

/-- All services of a plan have names that services may have. -/
def ServicesFit (entries : List Entry) : Prop :=
  ∀ child, .ensure child ∈ entries → child.kind = .service → IsServiceName child.name

/-! ## What objects are called -/

section

variable (tenant : String)

theorem length_quotaName : (quotaName tenant).length = tenant.length + 7 := String.length_append ..

theorem length_chatName : (chatName tenant).length = tenant.length + 10 := String.length_append ..

theorem length_runtimeName : (runtimeName tenant).length = tenant.length + 7 := String.length_append ..

theorem length_interceptorName : (interceptorName tenant).length = tenant.length + 12 := String.length_append ..

theorem length_partOf : ("aichat-workspace-" ++ tenant).length = 17 + tenant.length := String.length_append ..

end

/-- An object of a tenant goes by one name, which is little longer than the tenant's: in its labels, in those of its
pods, and in those that it looks for. -/
structure Named (tenant name : String) (child : Child) : Prop where
  made : child.content.IsMade
  length : name.length ≤ tenant.length + 12
  labels : ∃ component : Labels.Component, child.labels = Labels.standard tenant name component.label
  pods : ∀ p ∈ child.content.pods?, p.labels = Labels.selector name
  selector : ∀ s ∈ child.content.selector?, s = Labels.selector name ∧ name.length ≤ tenant.length + 10

section

variable {tenant name : String} {child : Child} {ns : Option String} {c : Labels.Component}

/-- An object that neither makes pods nor looks for any. -/
theorem named_plain (h : child.metadata = Manifest.identified ns name (labelled tenant name c)) (hmade : child.content.IsMade)
    (hlength : name.length ≤ tenant.length + 12) (hpods : child.content.pods? = none)
    (hselector : child.content.selector? = none) : Named tenant name child where
  made := hmade
  length := hlength
  labels := ⟨c, by rw [Child.labels, h, Manifest.identified, Option.getD_some, labelled]⟩
  pods _ hp := by rw [hpods] at hp; cases hp
  selector _ hs := by rw [hselector] at hs; cases hs

/-- An object that looks for the pods of a workload, or makes them. -/
theorem named_selecting (h : child.metadata = Manifest.identified ns name (labelled tenant name c))
    (hmade : child.content.IsMade) (hlength : name.length ≤ tenant.length + 10)
    (hpods : ∀ p ∈ child.content.pods?, p.labels = Labels.selector name)
    (hselector : child.content.selector? = some (Labels.selector name)) : Named tenant name child where
  made := hmade
  length := by omega
  labels := ⟨c, by rw [Child.labels, h, Manifest.identified, Option.getD_some, labelled]⟩
  pods := hpods
  selector s hs := ⟨Option.some.inj (hs.symm.trans hselector), hlength⟩

end

section

variable {ws : Workspace} {settings : Settings} {config : Config} {child : Child}

theorem plan_made (h : .ensure child ∈ plan ws settings config) : child.content.IsMade := by
  simp only [ensure_mem_plan, runtimeEntries, chatEntries, scalingEntries, List.mem_cons, List.not_mem_nil,
    Entry.ensure.injEq, or_false, or_assoc] at h
  rcases h with rfl | rfl | rfl | rfl | rfl | rfl | rfl | rfl | rfl | rfl | rfl | rfl | ⟨-, rfl⟩ <;> rintro _ _ ⟨⟩

theorem plan_named (h : .ensure child ∈ plan ws settings config) : ∃ name, Named ws.workspaceName name child := by
  have hmade := plan_made h
  have hquota := length_quotaName ws.workspaceName
  have hchat := length_chatName ws.workspaceName
  have hruntime := length_runtimeName ws.workspaceName
  have hinterceptor := length_interceptorName ws.workspaceName
  rcases ensure_mem_plan.1 h with h | h | ⟨-, h⟩
  · simp only [runtimeEntries, List.mem_cons, List.not_mem_nil, Entry.ensure.injEq, or_false] at h
    rcases h with rfl | rfl | rfl | rfl | rfl | rfl | rfl
    · exact ⟨_, named_plain rfl hmade (by omega) rfl rfl⟩
    · exact ⟨_, named_plain rfl hmade (by omega) rfl rfl⟩
    · exact ⟨_, named_plain rfl hmade (by omega) rfl rfl⟩
    · exact ⟨_, named_plain rfl hmade (by omega) rfl rfl⟩
    · exact ⟨_, named_plain rfl hmade (by omega) rfl rfl⟩
    · exact ⟨_, named_selecting rfl hmade (by omega) (fun _ hp => by cases hp; rfl) rfl⟩
    · exact ⟨_, named_selecting rfl hmade (by omega) (fun _ hp => by cases hp) rfl⟩
  · simp only [chatEntries, List.mem_cons, List.not_mem_nil, Entry.ensure.injEq, or_false] at h
    rcases h with rfl | rfl | rfl | rfl | rfl
    · exact ⟨_, named_selecting rfl hmade (by omega) (fun _ hp => by cases hp; rfl) rfl⟩
    · exact ⟨_, named_selecting rfl hmade (by omega) (fun _ hp => by cases hp) rfl⟩
    · exact ⟨_, named_plain rfl hmade (by omega) rfl rfl⟩
    · exact ⟨_, named_plain rfl hmade (by omega) rfl rfl⟩
    · exact ⟨_, named_plain rfl hmade (by omega) rfl rfl⟩
  · simp only [scalingEntries, List.mem_singleton, Entry.ensure.injEq] at h
    subst h
    exact ⟨_, named_plain rfl hmade (by omega) rfl rfl⟩

end

/-! ## Labels and selectors -/

/-- The values of the labels that every object of a tenant carries. -/
theorem mem_standard {tenant name component : String} {e : String × String} :
    e ∈ Labels.standard tenant name component ↔
      e ∈ [(Labels.nameKey, name), (Labels.partOfKey, "aichat-workspace-" ++ tenant), (Labels.componentKey, component),
        (Labels.versionKey, Labels.version), (Labels.managedByKey, Labels.manager), (Labels.workspaceKey, tenant)] :=
  Dict.mem_ofList_iff (by simp only [List.map_cons, List.map_nil]; decide)

theorem length_label (c : Labels.Component) : c.label.length ≤ 15 := by
  cases c <;> decide

theorem Named.partOf {tenant name : String} {child : Child} (h : Named tenant name child) :
    (Labels.partOfKey, "aichat-workspace-" ++ tenant) ∈ child.setLabels := by
  obtain ⟨c, hlabels⟩ := h.labels
  rw [Child.setLabels_eq h.made, hlabels]
  exact List.mem_append_left _ (mem_standard.2 (.tail _ (.head _)))

section

variable {ws : Workspace} {settings : Settings} {config : Config} {child : Child} {e : String × String}

theorem length_setLabels (h : .ensure child ∈ plan ws settings config) (he : e ∈ child.setLabels) :
    e.2.length ≤ max 25 (ws.workspaceName.length + 17) := by
  obtain ⟨name, hn⟩ := plan_named h
  have hlength := hn.length
  rw [Child.setLabels_eq hn.made, List.mem_append] at he
  rcases he with he | he
  · obtain ⟨c, hlabels⟩ := hn.labels
    have hc := length_label c
    have hversion : Labels.version.length ≤ 25 := by decide
    have hmanager : Labels.manager.length ≤ 25 := by decide
    have hpart := length_partOf ws.workspaceName
    rw [hlabels, mem_standard] at he
    simp only [List.mem_cons, List.not_mem_nil, or_false] at he
    rcases he with rfl | rfl | rfl | rfl | rfl | rfl <;> simp only <;> omega
  · cases hp : child.content.pods? with
    | none =>
      rw [hp] at he
      cases he
    | some p =>
      rw [hp, Option.map_some, Option.getD_some, hn.pods p hp, Labels.selector, List.mem_singleton] at he
      subst he
      simp only
      omega

/-- The labels of a plan fit exactly if the longest does, the one that says which tenant an object is part of. -/
theorem labelsFit_iff : LabelsFit (plan ws settings config) ↔ ws.workspaceName.length ≤ 46 := by
  constructor
  · intro h
    have hchat := chatWorkload_mem ws settings config
    obtain ⟨_, hn⟩ := plan_named hchat
    have hfit : ("aichat-workspace-" ++ ws.workspaceName).length ≤ 63 := h _ hchat _ hn.partOf
    rw [length_partOf] at hfit
    omega
  · intro h child hc e he
    have hlength := length_setLabels hc he
    rw [labelLimit]
    omega

theorem length_soughtLabels (h : .ensure child ∈ plan ws settings config) (he : e ∈ child.soughtLabels) :
    e.2.length ≤ ws.workspaceName.length + 10 := by
  obtain ⟨name, hn⟩ := plan_named h
  rw [Child.soughtLabels_eq hn.made] at he
  cases hs : child.content.selector? with
  | none =>
    rw [hs] at he
    cases he
  | some s =>
    obtain ⟨rfl, hlength⟩ := hn.selector s hs
    rw [hs, Option.getD_some, Labels.selector, List.mem_singleton] at he
    subst he
    exact hlength

/-- The selectors of a plan fit exactly if the one of the chat front-end does. -/
theorem selectorsFit_iff : SelectorsFit (plan ws settings config) ↔ ws.workspaceName.length ≤ 53 := by
  constructor
  · intro h
    have hchat := chatWorkload_mem ws settings config
    obtain ⟨_, hn⟩ := plan_named hchat
    have hsought : (Labels.nameKey, chatName ws.workspaceName) ∈
        (chatWorkload ws.workspaceName ws.spec.workspaceEnv config.clusterDomain settings).soughtLabels := by
      rw [Child.soughtLabels_eq hn.made]
      exact List.mem_singleton_self _
    have hfit : (chatName ws.workspaceName).length ≤ 63 := h _ hchat _ hsought
    rw [length_chatName] at hfit
    omega
  · intro h child hc e he
    have hlength := length_soughtLabels hc he
    rw [labelLimit]
    omega

end

/-! ## Names of services -/

/-- What stands behind a label leaves it a label exactly if it does not make it too long, and its first character is
that of the label. -/
theorem isServiceName_append {a b : String} {c : Char} (h : IsLabel a)
    (hplain : b.toList.all (fun c => c.isLower || c.isDigit || c == '-') = true) (hlast : b.toList.getLast? = some c)
    (hc : c ≠ '-') : IsServiceName (a ++ b) ↔ a.toList.head?.any Char.isLower = true ∧ a.length + b.length ≤ labelLimit := by
  have hlength := h.length.1
  have hhead : (a ++ b).toList.head? = a.toList.head? := by
    cases ha : a.toList with
    | nil => rw [← String.length_toList, ha] at hlength; cases hlength
    | cons first rest => rw [String.toList_append, ha]; rfl
  constructor
  · intro hs
    refine ⟨hhead ▸ hs.letter, ?_⟩
    rw [← String.length_append]
    exact hs.length.2
  · rintro ⟨hletter, hlimit⟩
    constructor
    case letter => rw [hhead]; exact hletter
    constructor
    case length => rw [String.length_append]; exact ⟨by omega, hlimit⟩
    case plain => rw [String.toList_append, List.all_append, h.plain, hplain]; rfl
    case first => rw [hhead]; exact h.first
    case last => rw [String.toList_append, List.getLast?_append, hlast]; simpa using hc

/-- The names of a plan's services are what services may be called exactly if the longest of them is. -/
theorem servicesFit_iff (ws : Workspace) (h : IsLabel ws.workspaceName) (settings : Settings) (config : Config) :
    ServicesFit (plan ws settings config) ↔
      ws.workspaceName.toList.head?.any Char.isLower = true ∧ ws.workspaceName.length ≤ 51 := by
  have hservices : ServicesFit (plan ws settings config) ↔ IsServiceName (runtimeName ws.workspaceName) ∧
      IsServiceName (chatName ws.workspaceName) ∧ IsServiceName (interceptorName ws.workspaceName) := by
    have hmem : ServicesFit (plan ws settings config) ↔
        ∀ child ∈ childrenOf .service (plan ws settings config), IsServiceName child.name := by
      simp only [ServicesFit, mem_childrenOf, and_imp]
    rw [hmem, childrenOf_service, List.forall_mem_cons, List.forall_mem_cons, List.forall_mem_singleton]
    rfl
  have hruntime := isServiceName_append (b := "-ollama") (c := 'a') h (by decide) (by decide) (by decide)
  have hchat := isServiceName_append (b := "-openwebui") (c := 'i') h (by decide) (by decide) (by decide)
  have hinterceptor :=
    isServiceName_append (b := "-interceptor") (c := 'r') h (by decide) (by decide) (by decide)
  have h₁ : "-ollama".length = 7 := by decide
  have h₂ : "-openwebui".length = 10 := by decide
  have h₃ : "-interceptor".length = 12 := by decide
  rw [hservices, runtimeName, chatName, interceptorName, hruntime, hchat, hinterceptor, h₁, h₂, h₃, labelLimit]
  constructor
  · rintro ⟨-, -, hletter, hlimit⟩
    exact ⟨hletter, by omega⟩
  · rintro ⟨hletter, hlimit⟩
    exact ⟨⟨hletter, by omega⟩, ⟨hletter, by omega⟩, hletter, by omega⟩

/-! ## Which names are taken -/

/-- For a name that is a label, each limit comes with a bound for the length of the name; services moreover ask for a
letter at its start. -/
theorem limits_iff (ws : Workspace) (h : IsLabel ws.workspaceName) (settings : Settings) (config : Config) :
    (LabelsFit (plan ws settings config) ↔ ws.workspaceName.length ≤ 46) ∧
      (SelectorsFit (plan ws settings config) ↔ ws.workspaceName.length ≤ 53) ∧
      (ServicesFit (plan ws settings config) ↔
        ws.workspaceName.toList.head?.any Char.isLower = true ∧ ws.workspaceName.length ≤ 51) :=
  ⟨labelsFit_iff, selectorsFit_iff, servicesFit_iff ws h settings config⟩

theorem workspaceName_tenantNamed (name : String) : (tenantNamed name).workspaceName = name := rfl

/-- An ordinary name is within all of them. -/
theorem limits_iff_ordinary : LabelsFit (plan (tenantNamed "team-a") sharedSettings {}) ∧
    SelectorsFit (plan (tenantNamed "team-a") sharedSettings {}) ∧
    ServicesFit (plan (tenantNamed "team-a") sharedSettings {}) := by
  have hlabel : IsLabel "team-a" := by constructor <;> decide
  have hlength : "team-a".length = 6 := by decide
  have hletter : "team-a".toList.head?.any Char.isLower = true := by decide
  obtain ⟨hlabels, hselectors, hservices⟩ := limits_iff (tenantNamed "team-a") hlabel sharedSettings {}
  rw [hlabels, hselectors, hservices, workspaceName_tenantNamed, hlength]
  exact ⟨by decide, by decide, hletter, by decide⟩

def longName : String := "institute-for-theoretical-computational-biology"

def longerName : String := "department-for-computational-linguistics-and-phonetics"

/-- That a name is a label is not enough, for none of the three. -/
theorem limits_crossed :
    (IsLabel longName ∧ ¬LabelsFit (plan (tenantNamed longName) sharedSettings {})) ∧
    (IsLabel longerName ∧ ¬SelectorsFit (plan (tenantNamed longerName) sharedSettings {}) ∧
      ¬ServicesFit (plan (tenantNamed longerName) sharedSettings {})) ∧
    (IsLabel "1team" ∧ ¬ServicesFit (plan (tenantNamed "1team") sharedSettings {})) := by
  have hlong : IsLabel longName := by constructor <;> decide
  have hlonger : IsLabel longerName := by constructor <;> decide
  have hdigit : IsLabel "1team" := by constructor <;> decide
  have hlength : longName.length = 47 := by decide
  have hlength' : longerName.length = 54 := by decide
  refine ⟨⟨hlong, fun h => ?_⟩, ⟨hlonger, fun h => ?_, fun h => ?_⟩, hdigit, fun h => ?_⟩
  · have hfit := labelsFit_iff.1 h
    rw [workspaceName_tenantNamed, hlength] at hfit
    omega
  · have hfit := selectorsFit_iff.1 h
    rw [workspaceName_tenantNamed, hlength'] at hfit
    omega
  · have hfit := ((servicesFit_iff (tenantNamed longerName) hlonger _ _).1 h).2
    rw [workspaceName_tenantNamed, hlength'] at hfit
    omega
  · have hletter := ((servicesFit_iff (tenantNamed "1team") hdigit _ _).1 h).1
    exact absurd hletter (by decide)

end Tenant
end Tenancy
