/-
The public hosts of a plan. A tenant's chat front-end is reached at the tenant's name under the domain, its model
runtime at the name with `-api` behind it. The second is what the first would be for another tenant
(`runtimeHost_eq_chatHost`), so under one domain two tenants share a host exactly if the name of one is that of the
other with `-api` behind it, and then it is the front-end of the one and the runtime of the other that meet there
(`hosts_shared_iff`). Front-ends never meet, nor do runtimes.
-/
import Tenancy.Proofs.Tenant.Plan
import Mathlib.Tactic

namespace Tenancy.Tenant

open Object Operator

/-! ## Hosts of a plan -/

/-- The public hosts that an entry lays claim to: the one that an ingress leads on, and those whose requests scale a
front-end. -/
def Entry.hosts : Entry → List String
  | .ensure ⟨_, .ingress i⟩ => [i.host]
  | .ensure ⟨_, .scaledObject s⟩ => s.hosts
  | _ => []

def hostsOf (entries : List Entry) : List String := entries.flatMap Entry.hosts

theorem hostsOf_append (a b : List Entry) : hostsOf (a ++ b) = hostsOf a ++ hostsOf b := List.flatMap_append ..

theorem hostsOf_readiness (rest : List Entry) : hostsOf (.readiness :: rest) = hostsOf rest := rfl

theorem hostsOf_runtimeEntries (tenant : String) (settings : Settings) :
    hostsOf (runtimeEntries tenant settings) = [] := rfl

theorem hostsOf_chatEntries (tenant environment : String) (settings : Settings) (clusterDomain : String) :
    hostsOf (chatEntries tenant environment settings clusterDomain) =
      [chatHost tenant settings.defaultDomain, runtimeHost tenant settings.defaultDomain] := rfl

theorem hostsOf_scalingEntries (tenant : String) (settings : Settings) :
    hostsOf (scalingEntries tenant settings) = [chatHost tenant settings.defaultDomain] := rfl

/-- A plan has two hosts, whether its front-end is scaled or not. -/
theorem mem_hostsOf_plan (ws : Workspace) (settings : Settings) (config : Config) (host : String) :
    host ∈ hostsOf (plan ws settings config) ↔
      host = chatHost ws.workspaceName settings.defaultDomain ∨
        host = runtimeHost ws.workspaceName settings.defaultDomain := by
  rw [plan_eq, hostsOf_append, hostsOf_runtimeEntries, List.nil_append, hostsOf_readiness, gatedEntries, hostsOf_append,
    hostsOf_chatEntries]
  cases config.scaleToZero with
  | false => simp [hostsOf]
  | true =>
    rw [if_pos rfl, hostsOf_scalingEntries]
    simp only [List.mem_append, List.mem_cons, List.not_mem_nil, or_false]
    tauto

/-! ## Hosts as names -/

/-- What the host of a runtime has behind the tenant's name. -/
def runtimeSuffix : String := "-api"

/-- Where the runtime of a tenant is reached, there the front-end of a tenant of the longer name would be. -/
theorem runtimeHost_eq_chatHost (tenant domain : String) :
    runtimeHost tenant domain = chatHost (tenant ++ runtimeSuffix) domain := by
  have hdot : "-api." = runtimeSuffix ++ "." := by decide +kernel
  unfold runtimeHost chatHost
  rw [hdot, String.append_assoc, String.append_assoc, String.append_assoc, String.append_assoc]

theorem chatHost_inj {a b domain : String} : chatHost a domain = chatHost b domain ↔ a = b := by
  unfold chatHost
  rw [String.append_left_inj, String.append_left_inj]

theorem runtimeHost_inj {a b domain : String} : runtimeHost a domain = runtimeHost b domain ↔ a = b := by
  rw [runtimeHost_eq_chatHost, runtimeHost_eq_chatHost, chatHost_inj, String.append_left_inj]

theorem runtimeHost_eq_chatHost_iff {a b domain : String} :
    runtimeHost a domain = chatHost b domain ↔ b = a ++ runtimeSuffix := by
  rw [runtimeHost_eq_chatHost, chatHost_inj, eq_comm]

/-! ## Two tenants -/

/-- The name of one tenant is that of another with what the host of a runtime has behind it; the host is then both
the runtime's of the shorter name and the front-end's of the longer. -/
structure Overlap (short long domain host : String) : Prop where
  names : long = short ++ runtimeSuffix
  runtime : host = runtimeHost short domain
  chat : host = chatHost long domain

theorem overlap_of_hosts {a b domain host : String} (hr : host = runtimeHost a domain) (hc : host = chatHost b domain) :
    Overlap a b domain host :=
  ⟨runtimeHost_eq_chatHost_iff.1 (hr.symm.trans hc), hr, hc⟩

section

variable {a b : Workspace} {settingsA settingsB : Settings} {configA configB : Config}

/-- Under one domain the plans of two tenants share a host exactly if it is that of the runtime of the one and of
the front-end of the other. -/
theorem hosts_shared_iff (hdomain : settingsA.defaultDomain = settingsB.defaultDomain)
    (hne : a.workspaceName ≠ b.workspaceName) (host : String) :
    host ∈ hostsOf (plan a settingsA configA) ∧ host ∈ hostsOf (plan b settingsB configB) ↔
      Overlap a.workspaceName b.workspaceName settingsA.defaultDomain host ∨
        Overlap b.workspaceName a.workspaceName settingsA.defaultDomain host := by
  rw [mem_hostsOf_plan, mem_hostsOf_plan, ← hdomain]
  constructor
  · rintro ⟨hchat | hruntime, hchat' | hruntime'⟩
    · exact absurd (chatHost_inj.1 (hchat.symm.trans hchat')) hne
    · exact .inr (overlap_of_hosts hruntime' hchat)
    · exact .inl (overlap_of_hosts hruntime hchat')
    · exact absurd (runtimeHost_inj.1 (hruntime.symm.trans hruntime')) hne
  · rintro (h | h)
    · exact ⟨.inr h.runtime, .inl h.chat⟩
    · exact ⟨.inl h.chat, .inr h.runtime⟩

end

/-- A tenant of the given name that asks for no models. -/
def tenantNamed (name : String) : Workspace := { metadata := { name := some name }, spec := { workspaceName := name } }

def sharedSettings : Settings := { defaultDomain := "example.com", runtimeTag := "0.3.12", chatTag := "main" }

/-- Neither of two names is the other with a suffix: no host is shared. -/
theorem hosts_shared_iff_siblings : ¬∃ host, host ∈ hostsOf (plan (tenantNamed "team-a") sharedSettings {}) ∧
    host ∈ hostsOf (plan (tenantNamed "team-b") sharedSettings { scaleToZero := true }) := by
  rintro ⟨host, h⟩
  rcases (hosts_shared_iff rfl (by decide) host).1 h with h | h
  · exact absurd h.names (by decide)
  · exact absurd h.names (by decide)

/-! ## Names that are labels -/

/-- A label of a domain name: lower-case letters, digits and hyphens, from 1 to 63 of them and no hyphen at an end. -/
structure IsLabel (s : String) : Prop where
  length : 0 < s.length ∧ s.length ≤ 63
  plain : s.toList.all (fun c => c.isLower || c.isDigit || c == '-') = true
  first : s.toList.head? ≠ some '-'
  last : s.toList.getLast? ≠ some '-'

/-- That names are labels does not keep tenants apart: the runtime of `team` is reached where the front-end of
`team-api` is. -/
theorem hosts_meet : ¬∀ (a b : Workspace) (settingsA settingsB : Settings) (configA configB : Config),
    settingsA.defaultDomain = settingsB.defaultDomain → IsLabel a.workspaceName → IsLabel b.workspaceName →
      a.workspaceName ≠ b.workspaceName →
        ∀ host ∈ hostsOf (plan a settingsA configA), host ∉ hostsOf (plan b settingsB configB) := by
  intro h
  have hshort : IsLabel "team" := by constructor <;> decide +kernel
  have hlong : IsLabel "team-api" := by constructor <;> decide +kernel
  have hruntime : runtimeHost "team" "example.com" = "team-api.example.com" := by decide +kernel
  have hchat : chatHost "team-api" "example.com" = "team-api.example.com" := by decide +kernel
  have hne : "team" ≠ "team-api" := by decide
  have hmine := (mem_hostsOf_plan (tenantNamed "team") sharedSettings {} _).2 (.inr hruntime.symm)
  have hyours := (mem_hostsOf_plan (tenantNamed "team-api") sharedSettings {} _).2 (.inl hchat.symm)
  exact h (tenantNamed "team") (tenantNamed "team-api") sharedSettings sharedSettings {} {} rfl hshort hlong hne _
    hmine hyours

end Tenancy.Tenant
