/-
Objects of a tenant as documents.
-/
import Tenancy.Object.Child
import Tenancy.Json.Printer

namespace Tenancy.Object

/-! ## Writing -/

def Container.toJson (c : Container) : Json :=
  let confinement := Json.object [
    ("allowPrivilegeEscalation", .bool false),
    ("capabilities", .object [("drop", .strings ["ALL"])]),
    ("privileged", .bool false),
    ("readOnlyRootFilesystem", .bool true),
    ("runAsNonRoot", .bool true),
    ("seccompProfile", .object [("type", .str "RuntimeDefault")])]
  .present [
    ("name", some (.str c.name)),
    ("image", some (.str c.image)),
    ("env", some (.arr (c.env.map fun e => .object [("name", .str e.1), ("value", .str e.2)]))),
    ("ports", some (.arr [.object [("containerPort", .int c.port)]])),
    ("securityContext", if c.confined then some confinement else none),
    ("tty", some (.bool true)),
    ("volumeMounts",
      some (.arr [.object [("name", .str c.mount.volume), ("mountPath", .str c.mount.path)]]))]

def ClaimVolume.toJson (v : ClaimVolume) : Json :=
  .object [("name", .str v.volume),
    ("persistentVolumeClaim", .object [("claimName", .str v.claim), ("readOnly", .bool false)])]

/-- The template of a workload's pods. -/
def Pods.toJson (p : Pods) : Json :=
  let user (id : Int) := Json.object
    [("fsGroup", .int id), ("runAsGroup", .int id), ("runAsUser", .int id)]
  .object [
    ("metadata", .object [("labels", .table p.labels)]),
    ("spec", .present [
      ("automountServiceAccountToken", some (.bool false)),
      ("containers", some (.arr [p.container.toJson])),
      ("restartPolicy", some (.str "Always")),
      ("securityContext", p.user.map user),
      ("serviceAccountName", some (.str p.serviceAccount)),
      ("volumes",
        if p.volumes.isEmpty then none else some (.arr (p.volumes.map ClaimVolume.toJson)))])]

def selectorJson (labels : Dict String String) : Json := .object [("matchLabels", .table labels)]

/-- A claim to a volume that one node may write. -/
def claimJson (size : String) : Json :=
  .object [("accessModes", .strings ["ReadWriteOnce"]),
    ("resources", .object [("requests", .object [("storage", .str size)])])]

def StatefulSet.toJson (s : StatefulSet) : Json :=
  .object [
    ("replicas", .int 1),
    ("serviceName", .str s.service),
    ("selector", selectorJson s.selector),
    ("template", s.pods.toJson),
    ("volumeClaimTemplates", .arr [.object [
      ("apiVersion", .str Kind.volumeClaim.apiVersion),
      ("kind", .str Kind.volumeClaim.label),
      ("metadata", .object [("name", .str s.volume)]),
      ("spec", claimJson s.volumeSize)]])]

def Deployment.toJson (d : Deployment) : Json :=
  .object [("selector", selectorJson d.selector), ("template", d.pods.toJson)]

def Service.toJson : Service → Json
  | .clusterIP selector port =>
    .object [
      ("type", .str "ClusterIP"),
      ("selector", .table selector),
      ("ports", .arr [.object
        [("port", .int port), ("protocol", .str "TCP"), ("targetPort", .int port)]])]
  | .externalName host => .object [("type", .str "ExternalName"), ("externalName", .str host)]

def Ingress.toJson (i : Ingress) : Json :=
  let service := Json.object
    [("name", .str i.backend), ("port", .object [("number", .int i.port)])]
  let path := Json.object
    [("path", .str "/"), ("pathType", .str "Prefix"), ("backend", .object [("service", service)])]
  .object [("rules", .arr [.object
    [("host", .str i.host), ("http", .object [("paths", .arr [path])])]])]

def ScaledObject.toJson (s : ScaledObject) : Json :=
  .object [
    ("hosts", .strings s.hosts),
    ("pathPrefixes", .strings ["/"]),
    ("scaleTargetRef", .object [
      ("name", .str s.deployment), ("kind", .str Kind.deployment.label),
      ("apiVersion", .str Kind.deployment.apiVersion), ("service", .str s.deployment),
      ("port", .int s.port)]),
    ("replicas", .object [("min", .int 0), ("max", .int 1)]),
    ("scalingMetric", .object [("requestRate", .object [("targetValue", .int 20)])])]

/-- The fields of an object that say what it is. -/
def typeFields (kind : Kind) : List (String × Json) :=
  [("apiVersion", .str kind.apiVersion), ("kind", .str kind.label)]

/-- The fields of an object beside its metadata. -/
def Content.fields : Content → List (String × Json)
  | .namespace => typeFields .namespace
  | .resourceQuota hard =>
    typeFields .resourceQuota ++ [("spec", .object [("hard", .table hard)])]
  | .volumeClaim size => typeFields .volumeClaim ++ [("spec", claimJson size)]
  | .serviceAccount => typeFields .serviceAccount
  | .statefulSet s => typeFields .statefulSet ++ [("spec", s.toJson)]
  | .deployment d => typeFields .deployment ++ [("spec", d.toJson)]
  | .service s => typeFields .service ++ [("spec", s.toJson)]
  | .ingress i => typeFields .ingress ++ [("spec", i.toJson)]
  | .scaledObject s => typeFields .scaledObject ++ [("spec", s.toJson)]
  | .document _ fields => fields

def Child.toJson (c : Child) : Json :=
  .object (("metadata", c.metadata.toJson) :: c.content.fields)

/-! ## Reading -/

open Decoder in
/-- Reads an object of a kind with fixed fields. It may leave out what it is, but may not say
anything else. -/
def decodeTyped (kind : Kind) : Decoder Child := fun w => do
  let fields ← entries w
  if !(constant fields "apiVersion" kind.apiVersion && constant fields "kind" kind.label) then none
  let metadata ← memberD fields "metadata" {} Meta.decode
  let content ← Shape.normalizeFields (Schema.fields kind) fields
  some ⟨metadata, .document kind (Dict.ofList (typeFields kind ++ content))⟩

/-- What an object says of its own type, taken from its fields in order, and the fields that are
left. It counts only if it is complete; the first field of it that is no text, or comes again, is
lost, and those behind it are left. -/
def takeType (apiVersion kind : Option String) :
    List (String × Json) → List (String × Json) × List (String × Json)
  | [] =>
    match apiVersion, kind with
    | some v, some k => ([("apiVersion", .str v), ("kind", .str k)], [])
    | _, _ => ([], [])
  | ("apiVersion", j) :: rest =>
    match apiVersion, j with
    | none, .str v => takeType (some v) kind rest
    | _, _ => ([], rest)
  | ("kind", j) :: rest =>
    match kind, j with
    | none, .str k => takeType apiVersion (some k) rest
    | _, _ => ([], rest)
  | field :: rest =>
    let (type, left) := takeType apiVersion kind rest
    (type, field :: left)

open Decoder in
/-- Reads an object of the kind without fixed fields. -/
def decodeScaledObject : Decoder Child := fun w => do
  let fields ← entries w
  let metadata ← match ← slotOf fields "metadata" with
    | .given m => Meta.decode m
    | _ => some {}
  let others ← (fields.filter (·.1 ≠ "metadata")).mapM fun f => (value f.2).map (f.1, ·)
  let (type, left) := takeType none none others
  some ⟨metadata, .document .scaledObject (Dict.ofList (left ++ type))⟩

/-- Reads an object of a kind. -/
def Child.decode (kind : Kind) : Decoder Child :=
  match kind with
  | .scaledObject => decodeScaledObject
  | kind => decodeTyped kind

end Tenancy.Object
