/-
What the documents of objects say. A field of a document is read under its key, whatever its place (`get_object`,
`get_present`). A workload says what its pods are made of and how it finds them (`Runs`), a service which pods and
ports it stands for, an ingress where it leads.
-/
import Tenancy.Json.Field
import Tenancy.Object.Document
import Tenancy.Proofs.Json.Records
import Mathlib.Tactic

namespace Tenancy

/-! ## Fields of documents -/

namespace Json

theorem get_present {members : List (String × Option Json)} (h : (members.map (·.1)).Nodup) (key : String) :
    (present members).get key = (Dict.get? members key).join.getD .null := by
  rw [get, get?_present h]

theorem get_object {fields : List (String × Json)} (h : (fields.map (·.1)).Nodup) (key : String) :
    (object fields).get key = (Dict.get? fields key).getD .null := by
  show (Dict.get? (Dict.ofList fields) key).getD .null = _
  rw [Dict.get?_eq_under, Dict.under_ofList h, ← Dict.get?_eq_under]

theorem get_null (key : String) : Json.null.get key = .null := rfl

/-- The first of the given fields is read as given if none of the others has its key. -/
theorem get_object_head {key : String} {value : Json} {fields : List (String × Json)} (h : key ∉ fields.map (·.1)) :
    (object ((key, value) :: fields)).get key = value := by
  have hget : Dict.get? (Dict.ofList ((key, value) :: fields)) key = some value := by
    induction fields using List.reverseRecOn with
    | nil => simp [Dict.ofList, Dict.get?_insert]
    | append_singleton fields e ih =>
      rw [List.map_append, List.mem_append, not_or, List.map_singleton, List.mem_singleton] at h
      rw [← List.cons_append, Dict.ofList_concat, Dict.get?_insert, if_neg h.2, ih h.1]
  show (Dict.get? (Dict.ofList ((key, value) :: fields)) key).getD .null = _
  rw [hget]
  rfl

theorem texts_table (d : Dict String String) : Field.texts (.table d) = d := by
  simp [Field.texts, table, fields, List.filterMap_map, str?]

theorem get_table (d : Dict String String) (key : String) :
    (Json.table d).get key = ((Dict.get? d key).map Json.str).getD .null := by
  induction d with
  | nil => rfl
  | cons e rest ih =>
    obtain ⟨k, v⟩ := e
    show (Dict.get? ((k, Json.str v) :: _) key).getD .null = _
    rw [Dict.get?, Dict.get?]
    split
    · rfl
    · exact ih

end Json

namespace Object

open Json

/-! ## What objects say -/

namespace Child

/-- No field beside the metadata stands in its place. -/
def Headed (c : Child) : Prop := "metadata" ∉ c.content.fields.map (·.1)

theorem metadata_toJson {c : Child} (h : c.Headed) : c.toJson.get "metadata" = c.metadata.toJson := Json.get_object_head h

/-- An object that has a name says so. -/
theorem name_toJson {c : Child} (h : c.Headed) (hname : c.name ≠ "") :
    (c.toJson.get "metadata").get "name" = .str c.name := by
  have hget : c.metadata.toJson.get "name" = (c.metadata.name.map Json.str).getD .null :=
    Json.get_present (by simp) "name"
  rw [metadata_toJson h, hget]
  unfold name at hname ⊢
  cases hn : c.metadata.name with
  | none =>
    rw [hn] at hname
    exact absurd rfl hname
  | some n => rfl

/-- What an object says that it should be. -/
def spec (c : Child) : Json := c.toJson.get "spec"

/-- What a workload makes its pods of. -/
def template (c : Child) : Json := c.spec.get "template"

/-- The labels by which a workload finds its pods. -/
def matchLabels (c : Child) : Json := (c.spec.get "selector").get "matchLabels"

/-- The labels that a workload gives its pods. -/
def podLabels (c : Child) : Json := (c.template.get "metadata").get "labels"

/-- The labels that an object sets, on itself and on the pods that it makes. -/
def setLabels (c : Child) : Dict String String :=
  Field.texts ((c.toJson.get "metadata").get "labels") ++ Field.texts c.podLabels

/-- The labels that an object looks for: a workload those of its pods, a service those of the pods behind it. -/
def soughtLabels (c : Child) : Dict String String :=
  Field.texts c.matchLabels ++ Field.texts (c.spec.get "selector")

/-- The service account of the pods of a workload. -/
def account (c : Child) : Json := (c.template.get "spec").get "serviceAccountName"

def containers (c : Child) : List Json := Field.items (c.template.get "spec") "containers"

/-- The names of the volumes that the containers of a workload mount. -/
def mounts (c : Child) : List String :=
  c.containers.flatMap fun container => (Field.items container "volumeMounts").filterMap (Field.text? · "name")

/-- The claims behind the volumes that are mounted. -/
def claims (c : Child) : List Json :=
  let mounted := (Field.items (c.template.get "spec") "volumes").filter fun v => (Field.text? v "name").any (· ∈ c.mounts)
  mounted.map fun v => (v.get "persistentVolumeClaim").get "claimName"

def containerPorts (c : Child) : List Json :=
  c.containers.flatMap fun container => (Field.items container "ports").map (·.get "containerPort")

/-- What the containers of a workload are told under a name. -/
def environment (c : Child) (name : String) : List Json :=
  ((c.containers.flatMap (Field.items · "env")).filter fun e => Field.text? e "name" = some name).map (·.get "value")

/-- The ports of a service, each with the port of the pods behind it. -/
def servicePorts (c : Child) : List (Json × Json) :=
  (Field.items c.spec "ports").map fun p => (p.get "port", p.get "targetPort")

/-- The hosts that an ingress leads on. -/
def ingressHosts (c : Child) : List Json := (Field.items c.spec "rules").map (·.get "host")

/-- The services that an ingress leads to, with their ports. -/
def backends (c : Child) : List (Json × Json) :=
  ((Field.items c.spec "rules").flatMap fun rule => Field.items (rule.get "http") "paths").map fun path =>
    let service := (path.get "backend").get "service"
    (service.get "name", (service.get "port").get "number")

/-- Objects that run pods. -/
def IsWorkload (c : Child) : Prop := c.kind = .statefulSet ∨ c.kind = .deployment

/-- Services with an address of their own inside the cluster. -/
def IsClusterService (c : Child) : Prop := c.kind = .service ∧ c.spec.get "type" = .str "ClusterIP"

section

variable (m : Meta)

theorem spec_statefulSet (s : StatefulSet) : (mk m (.statefulSet s)).spec = s.toJson :=
  Json.get_object (by simp [Content.fields, typeFields]) "spec"

theorem spec_deployment (d : Deployment) : (mk m (.deployment d)).spec = d.toJson :=
  Json.get_object (by simp [Content.fields, typeFields]) "spec"

theorem spec_service (s : Service) : (mk m (.service s)).spec = s.toJson :=
  Json.get_object (by simp [Content.fields, typeFields]) "spec"

theorem spec_ingress (i : Ingress) : (mk m (.ingress i)).spec = i.toJson :=
  Json.get_object (by simp [Content.fields, typeFields]) "spec"

theorem spec_scaledObject (s : ScaledObject) : (mk m (.scaledObject s)).spec = s.toJson :=
  Json.get_object (by simp [Content.fields, typeFields]) "spec"

end

/-- The document of a workload, as what selects its pods and what they are made of. -/
structure Runs (c : Child) (selector : Dict String String) (pods : Pods) : Prop where
  matchLabels : c.matchLabels = .table selector
  template : c.template = pods.toJson

theorem runs_statefulSet (m : Meta) (s : StatefulSet) : (mk m (.statefulSet s)).Runs s.selector s.pods := by
  constructor
  · rw [matchLabels, spec_statefulSet, StatefulSet.toJson, Json.get_object (by simp)]
    exact Json.get_object (by simp) "matchLabels"
  · rw [template, spec_statefulSet]
    exact Json.get_object (by simp) "template"

theorem runs_deployment (m : Meta) (d : Deployment) : (mk m (.deployment d)).Runs d.selector d.pods := by
  constructor
  · rw [matchLabels, spec_deployment, Deployment.toJson, Json.get_object (by simp)]
    exact Json.get_object (by simp) "matchLabels"
  · rw [template, spec_deployment]
    exact Json.get_object (by simp) "template"

section

variable {c : Child} {selector : Dict String String} {p : Pods}

theorem Runs.podLabels (h : c.Runs selector p) : c.podLabels = .table p.labels := by
  rw [Child.podLabels, h.template, Pods.toJson, Json.get_object (by simp)]
  exact Json.get_object (by simp) "labels"

theorem Runs.account (h : c.Runs selector p) : c.account = .str p.serviceAccount := by
  rw [Child.account, h.template, Pods.toJson, Json.get_object (by simp)]
  exact Json.get_present (by simp) "serviceAccountName"

theorem Runs.containers (h : c.Runs selector p) : c.containers = [p.container.toJson] := by
  have hlist : (c.template.get "spec").get "containers" = .arr [p.container.toJson] := by
    rw [h.template, Pods.toJson, Json.get_object (by simp)]
    exact Json.get_present (by simp) "containers"
  rw [Child.containers, Field.items, hlist]
  rfl

theorem Runs.mounts (h : c.Runs selector p) : c.mounts = [p.container.mount.volume] := by
  have hlist : p.container.toJson.get "volumeMounts" = .arr [.object
      [("name", .str p.container.mount.volume), ("mountPath", .str p.container.mount.path)]] :=
    Json.get_present (by simp) "volumeMounts"
  have hname : (Json.object [("name", .str p.container.mount.volume),
      ("mountPath", .str p.container.mount.path)]).get "name" = .str p.container.mount.volume :=
    Json.get_object (by simp) "name"
  rw [Child.mounts, h.containers]
  simp [Field.items, hlist, Json.items?, Field.text?, hname, Json.str?]

theorem Runs.volumes (h : c.Runs selector p) :
    Field.items (c.template.get "spec") "volumes" = p.volumes.map ClaimVolume.toJson := by
  have hget : (c.template.get "spec").get "volumes" =
      (if p.volumes.isEmpty then none else some (.arr (p.volumes.map ClaimVolume.toJson))).getD .null := by
    rw [h.template, Pods.toJson, Json.get_object (by simp)]
    exact Json.get_present (by simp) "volumes"
  rw [Field.items, hget]
  cases p.volumes <;> rfl

/-- What is claimed is what the volume that the container mounts claims. -/
theorem Runs.claims (h : c.Runs selector p) :
    c.claims = (p.volumes.filter (·.volume = p.container.mount.volume)).map fun v => .str v.claim := by
  have hname : ∀ v : ClaimVolume, v.toJson.get "name" = .str v.volume := fun v => Json.get_object (by simp) "name"
  have hclaim : ∀ v : ClaimVolume, (v.toJson.get "persistentVolumeClaim").get "claimName" = .str v.claim := by
    intro v
    rw [ClaimVolume.toJson, Json.get_object (by simp)]
    exact Json.get_object (by simp) "claimName"
  rw [Child.claims, h.volumes, h.mounts]
  simp [List.filter_map, Function.comp_def, Field.text?, hname, hclaim, Json.str?]

theorem Runs.containerPorts (h : c.Runs selector p) : c.containerPorts = [.int p.container.port] := by
  have hlist : p.container.toJson.get "ports" = .arr [.object [("containerPort", .int p.container.port)]] :=
    Json.get_present (by simp) "ports"
  have hport : (Json.object [("containerPort", .int p.container.port)]).get "containerPort" = .int p.container.port :=
    Json.get_object (by simp) "containerPort"
  rw [Child.containerPorts, h.containers]
  simp [Field.items, hlist, Json.items?, hport]

/-- What a container is told is what its environment says. -/
theorem Runs.environment (h : c.Runs selector p) (name : String) :
    c.environment name = (p.container.env.filter (·.1 = name)).map fun e => .str e.2 := by
  have hlist : p.container.toJson.get "env" =
      .arr (p.container.env.map fun e => .object [("name", .str e.1), ("value", .str e.2)]) :=
    Json.get_present (by simp) "env"
  have hname : ∀ e : String × String,
      (Json.object [("name", .str e.1), ("value", .str e.2)]).get "name" = .str e.1 :=
    fun e => Json.get_object (by simp) "name"
  have hvalue : ∀ e : String × String,
      (Json.object [("name", .str e.1), ("value", .str e.2)]).get "value" = .str e.2 :=
    fun e => Json.get_object (by simp) "value"
  rw [Child.environment, h.containers]
  simp [Field.items, hlist, Json.items?, List.filter_map, Function.comp_def, Field.text?, hname, hvalue, Json.str?]

end

section

variable (m : Meta)

theorem servicePorts_clusterIP (selector : Dict String String) (port : Int) :
    (mk m (.service (.clusterIP selector port))).servicePorts = [(.int port, .int port)] := by
  have hlist : (Service.clusterIP selector port).toJson.get "ports" =
      .arr [.object [("port", .int port), ("protocol", .str "TCP"), ("targetPort", .int port)]] :=
    Json.get_object (by simp) "ports"
  rw [servicePorts, spec_service, Field.items, hlist]
  show [(_, _)] = _
  rw [Json.get_object (by simp), Json.get_object (by simp)]
  rfl

theorem selector_clusterIP (selector : Dict String String) (port : Int) :
    (mk m (.service (.clusterIP selector port))).spec.get "selector" = .table selector := by
  rw [spec_service]
  exact Json.get_object (by simp) "selector"

theorem isClusterService_clusterIP (selector : Dict String String) (port : Int) :
    (mk m (.service (.clusterIP selector port))).IsClusterService := by
  refine ⟨rfl, ?_⟩
  rw [spec_service]
  exact Json.get_object (by simp) "type"

theorem not_isClusterService_externalName (host : String) :
    ¬(mk m (.service (.externalName host))).IsClusterService := by
  rintro ⟨-, h⟩
  have htype : (mk m (.service (.externalName host))).spec.get "type" = .str "ExternalName" := by
    rw [spec_service]
    exact Json.get_object (by simp) "type"
  exact absurd (Json.str.inj (htype.symm.trans h)) (by decide)

theorem rules_ingress (i : Ingress) : Field.items (mk m (.ingress i)).spec "rules" = [.object [("host", .str i.host),
    ("http", .object [("paths", .arr [.object [("path", .str "/"), ("pathType", .str "Prefix"),
      ("backend", .object [("service", .object
        [("name", .str i.backend), ("port", .object [("number", .int i.port)])])])]])])]] := by
  rw [spec_ingress, Field.items, Ingress.toJson, Json.get_object (by simp)]
  rfl

theorem ingressHosts_ingress (i : Ingress) : (mk m (.ingress i)).ingressHosts = [.str i.host] := by
  rw [ingressHosts, rules_ingress, List.map_singleton, Json.get_object (by simp)]
  rfl

theorem backends_ingress (i : Ingress) : (mk m (.ingress i)).backends = [(.str i.backend, .int i.port)] := by
  rw [backends, rules_ingress]
  simp [Field.items, Json.get_object, Dict.get?, Json.items?]

end

end Child

/-! ## Labels -/

/-- What an object makes its pods of, if it makes any. -/
def Content.pods? : Content → Option Pods
  | .statefulSet s => some s.pods
  | .deployment d => some d.pods
  | _ => none

/-- The labels by which an object looks for pods, if it does. -/
def Content.selector? : Content → Option (Dict String String)
  | .statefulSet s => some s.selector
  | .deployment d => some d.selector
  | .service (.clusterIP selector _) => some selector
  | _ => none

/-- Objects that are made, not read. -/
def Content.IsMade (content : Content) : Prop := ∀ kind fields, content ≠ .document kind fields

namespace Child

variable {m : Meta} {content : Content}

theorem fields_nodup (h : content.IsMade) : ((("metadata", m.toJson) :: content.fields).map (·.1)).Nodup := by
  cases content with
  | document kind fields => exact absurd rfl (h kind fields)
  | _ => simp [Content.fields, typeFields]

theorem labels_toJson (m : Meta) : Field.texts (m.toJson.get "labels") = m.labels.getD [] := by
  rw [Meta.toJson, Json.get_present (by simp)]
  show Field.texts ((m.labels.map Json.table).getD .null) = _
  cases m.labels with
  | none => rfl
  | some d => exact texts_table d

theorem headed_of_made {c : Child} (h : c.content.IsMade) : c.Headed :=
  (List.nodup_cons.1 (fields_nodup (m := c.metadata) h)).1

theorem labels_metadata (h : content.IsMade) :
    Field.texts (((mk m content).toJson.get "metadata").get "labels") = (mk m content).labels := by
  rw [metadata_toJson (headed_of_made h), labels_toJson]
  rfl

theorem spec_eq (h : content.IsMade) : (mk m content).spec = (Dict.get? content.fields "spec").getD .null := by
  rw [spec, toJson, Json.get_object (fields_nodup h)]
  rfl

/-- What makes no pods says nothing of a template, and what seeks none nothing of a selector. -/
theorem spec_get_none {key : String} (h : content.IsMade) (hp : content.pods? = none)
    (hk : key = "template" ∨ key = "selector" ∧ content.selector? = none) : (mk m content).spec.get key = .null := by
  rw [spec_eq h]
  cases content with
  | document kind fields => exact absurd rfl (h kind fields)
  | statefulSet s => cases hp
  | deployment d => cases hp
  | service s =>
    rcases hk with rfl | ⟨rfl, hs⟩
    · cases s <;> simp [Content.fields, typeFields, Dict.get?, Service.toJson, Json.get_object]
    · cases s with
      | clusterIP selector port => cases hs
      | externalName host => simp [Content.fields, typeFields, Dict.get?, Service.toJson, Json.get_object]
  | _ =>
    rcases hk with rfl | ⟨rfl, -⟩ <;>
      simp [Content.fields, typeFields, Dict.get?, claimJson, Ingress.toJson, ScaledObject.toJson, Json.get_object, get_null]

theorem setLabels_eq {c : Child} (h : c.content.IsMade) :
    c.setLabels = c.labels ++ (c.content.pods?.map Pods.labels).getD [] := by
  obtain ⟨m, content⟩ := c
  rw [setLabels, labels_metadata h]
  cases hp : content.pods? with
  | none =>
    rw [podLabels, template, spec_get_none h hp (.inl rfl)]
    rfl
  | some p =>
    have hpods : (mk m content).podLabels = .table p.labels := by
      cases content with
      | statefulSet s => exact (runs_statefulSet m s).podLabels.trans (by cases hp; rfl)
      | deployment d => exact (runs_deployment m d).podLabels.trans (by cases hp; rfl)
      | _ => cases hp
    rw [hpods, texts_table]
    rfl

theorem texts_selectorJson (selector : Dict String String) : Field.texts (selectorJson selector) = [] := rfl

theorem soughtLabels_eq {c : Child} (h : c.content.IsMade) : c.soughtLabels = c.content.selector?.getD [] := by
  obtain ⟨m, content⟩ := c
  cases hs : content.selector? with
  | none =>
    have hp : content.pods? = none := by cases content <;> first | rfl | cases hs
    rw [soughtLabels, matchLabels, spec_get_none h hp (.inr ⟨rfl, hs⟩)]
    rfl
  | some selector =>
    rw [soughtLabels]
    cases content with
    | statefulSet s =>
      have hselector : (mk m (.statefulSet s)).spec.get "selector" = selectorJson s.selector := by
        rw [spec_statefulSet]
        exact Json.get_object (by simp) "selector"
      rw [(runs_statefulSet m s).matchLabels, texts_table, hselector, texts_selectorJson, List.append_nil]
      exact Option.some.inj hs
    | deployment d =>
      have hselector : (mk m (.deployment d)).spec.get "selector" = selectorJson d.selector := by
        rw [spec_deployment]
        exact Json.get_object (by simp) "selector"
      rw [(runs_deployment m d).matchLabels, texts_table, hselector, texts_selectorJson, List.append_nil]
      exact Option.some.inj hs
    | service s =>
      cases s with
      | externalName host => cases hs
      | clusterIP labels port =>
        have hlabels : Field.texts ((Json.table labels).get "matchLabels") = [] := by
          rw [get_table]
          cases Dict.get? labels "matchLabels" <;> rfl
        rw [matchLabels, selector_clusterIP, hlabels, texts_table]
        exact Option.some.inj hs
    | _ => cases hs

end Child
end Object
end Tenancy
