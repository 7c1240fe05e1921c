/-
The shapes of pods: their containers with what is run, probed and mounted in them, and where the
pods may be placed.
-/
import Tenancy.Object.Schema.Volume

namespace Tenancy.Object.Schema

/-! ## Privileges -/

/-- A profile that is built in, or lies on the node. -/
def profile : Shape := .record (names ["type"] ++ texts ["localhostProfile"])

/-- What may be said of the privileges of a container and of a pod alike. -/
def privileges : Fields :=
  [field "appArmorProfile" profile, field "seccompProfile" profile,
    field "seLinuxOptions" (.record (texts ["level", "role", "type", "user"])),
    field "windowsOptions" (.record (bools ["hostProcess"] ++
      texts ["gmsaCredentialSpec", "gmsaCredentialSpecName", "runAsUserName"]))] ++
    int64s ["runAsGroup", "runAsUser"] ++ bools ["runAsNonRoot"]

def securityContext : Shape :=
  .record (privileges ++ [field "capabilities" (.record (textLists ["add", "drop"]))] ++
    bools ["allowPrivilegeEscalation", "privileged", "readOnlyRootFilesystem"] ++
    texts ["procMount"])

def podSecurityContext : Shape :=
  .record (privileges ++ int64s ["fsGroup"] ++
    [field "supplementalGroups" (.list .int64),
      field "sysctls" (.list (.record (names ["name", "value"])))] ++
    texts ["fsGroupChangePolicy", "seLinuxChangePolicy", "supplementalGroupsPolicy"])

/-! ## Containers -/

/-- A key of an object that is named, and may be optional. -/
def keyOfObject : Shape := .record (names ["key", "name"] ++ bools ["optional"])

/-- An environment variable, given by its value or by where that is found. -/
def envVar : Shape :=
  .record (names ["name"] ++ texts ["value"] ++ [field "valueFrom" (.record [
    field "configMapKeyRef" keyOfObject, field "fieldRef" podField,
    field "resourceFieldRef" containerResource, field "secretKeyRef" keyOfObject])])

/-- All keys of an object as environment variables. -/
def envSource : Shape :=
  let source : Shape := .record (names ["name"] ++ bools ["optional"])
  .record ([field "configMapRef" source, field "secretRef" source] ++ texts ["prefix"])

/-- The ways to act on a container, as a probe or at a turn of its life. -/
def actions : Fields :=
  [field "exec" (.record (textLists ["command"])),
    field "httpGet" (.record ([always "port" .numberOrText,
      field "httpHeaders" (.list (.record (names ["name", "value"])))] ++
      texts ["host", "path", "scheme"])),
    field "tcpSocket" (.record ([always "port" .numberOrText] ++ texts ["host"]))]

def lifecycle : Shape :=
  let turn : Shape := .record (actions ++ [field "sleep" (.record [always "seconds" .int64])])
  .record ([field "postStart" turn, field "preStop" turn] ++ texts ["stopSignal"])

def probe : Shape :=
  .record (actions ++ [field "grpc" (.record ([always "port" .int32] ++ texts ["service"]))] ++
    int32s ["failureThreshold", "initialDelaySeconds", "periodSeconds", "successThreshold",
      "timeoutSeconds"] ++ int64s ["terminationGracePeriodSeconds"])

def resources : Shape :=
  .record (limits ++ [field "claims" (.list (.record (names ["name"] ++ texts ["request"])))])

def containerFields : Fields :=
  names ["name"] ++ textLists ["args", "command"] ++
    [field "env" (.list envVar), field "envFrom" (.list envSource), field "lifecycle" lifecycle,
      field "livenessProbe" probe, field "readinessProbe" probe, field "startupProbe" probe,
      field "ports" (.list (.record ([always "containerPort" .int32] ++ int32s ["hostPort"] ++
        texts ["hostIP", "name", "protocol"]))),
      field "resizePolicy" (.list (.record (names ["resourceName", "restartPolicy"]))),
      field "resources" resources, field "securityContext" securityContext,
      field "volumeDevices" (.list (.record (names ["devicePath", "name"]))),
      field "volumeMounts" (.list (.record (names ["mountPath", "name"] ++ bools ["readOnly"] ++
        texts ["mountPropagation", "recursiveReadOnly", "subPath", "subPathExpr"])))] ++
    bools ["stdin", "stdinOnce", "tty"] ++
    texts ["image", "imagePullPolicy", "restartPolicy", "terminationMessagePath",
      "terminationMessagePolicy", "workingDir"]

def container : Shape := .record containerFields

/-- A container that joins a pod for a while, perhaps to look into another. -/
def ephemeralContainer : Shape := .record (containerFields ++ texts ["targetContainerName"])

/-! ## Placement -/

/-- What is asked of a node. -/
def nodeTerm : Shape :=
  .record [field "matchExpressions" requirements, field "matchFields" requirements]

/-- Other pods that a place is chosen by. -/
def podTerm : Shape :=
  .record (names ["topologyKey"] ++
    [field "labelSelector" labelSelector, field "namespaceSelector" labelSelector] ++
    textLists ["matchLabelKeys", "mismatchLabelKeys", "namespaces"])

/-- The terms that a place should meet, each with its weight, and those that it has to. -/
def terms (term : String) (wanted needed : Shape) : Shape :=
  .record [
    field "preferredDuringSchedulingIgnoredDuringExecution"
      (.list (.record [always term wanted, always "weight" .int32])),
    field "requiredDuringSchedulingIgnoredDuringExecution" needed]

def affinity : Shape :=
  let nodes := terms "preference" nodeTerm (.record [always "nodeSelectorTerms" (.list nodeTerm)])
  let pods := terms "podAffinityTerm" podTerm (.list podTerm)
  .record [field "nodeAffinity" nodes, field "podAffinity" pods, field "podAntiAffinity" pods]

def toleration : Shape :=
  .record (texts ["effect", "key", "operator", "value"] ++ int64s ["tolerationSeconds"])

/-- How pods are to be spread over the parts of a cluster. -/
def spread : Shape :=
  .record ([always "maxSkew" .int32] ++ names ["topologyKey", "whenUnsatisfiable"] ++
    [field "labelSelector" labelSelector] ++ int32s ["minDomains"] ++
    textLists ["matchLabelKeys"] ++ texts ["nodeAffinityPolicy", "nodeTaintsPolicy"])

/-! ## Pods -/

def dnsConfig : Shape :=
  .record (textLists ["nameservers", "searches"] ++
    [field "options" (.list (.record (texts ["name", "value"])))])

def pod : Shape :=
  .record ([always "containers" (.list container), field "initContainers" (.list container),
    field "ephemeralContainers" (.list ephemeralContainer), field "affinity" affinity,
    field "dnsConfig" dnsConfig,
    field "hostAliases" (.list (.record (names ["ip"] ++ textLists ["hostnames"]))),
    field "imagePullSecrets" (.list localReference), field "nodeSelector" (.table .text),
    field "os" (.record (names ["name"])), field "overhead" quantities,
    field "readinessGates" (.list (.record (names ["conditionType"]))),
    field "resourceClaims" (.list (.record (names ["name"] ++
      texts ["resourceClaimName", "resourceClaimTemplateName"]))),
    field "resources" resources, field "schedulingGates" (.list (.record (names ["name"]))),
    field "securityContext" podSecurityContext, field "tolerations" (.list toleration),
    field "topologySpreadConstraints" (.list spread), field "volumes" (.list volume)] ++
    int32s ["priority"] ++ int64s ["activeDeadlineSeconds", "terminationGracePeriodSeconds"] ++
    bools ["automountServiceAccountToken", "enableServiceLinks", "hostIPC", "hostNetwork",
      "hostPID", "hostUsers", "setHostnameAsFQDN", "shareProcessNamespace"] ++
    texts ["dnsPolicy", "hostname", "nodeName", "preemptionPolicy", "priorityClassName",
      "restartPolicy", "runtimeClassName", "schedulerName", "serviceAccount",
      "serviceAccountName", "subdomain"])

def podTemplate : Shape := .record [field "metadata" .metadata, field "spec" pod]

end Tenancy.Object.Schema
