/-
The shapes of the objects that a tenant is made of, and of events: the fields that a cluster knows
for each kind.
-/
import Tenancy.Object.Kind
import Tenancy.Object.Schema.Pod

namespace Tenancy.Object.Schema

/-! ## Namespaces and quotas -/

def namespaceFields : Fields :=
  [field "spec" (.record (textLists ["finalizers"])),
    field "status" (.record (texts ["phase"] ++
      [field "conditions" (.list (condition ["lastTransitionTime"]))]))]

def resourceQuotaFields : Fields :=
  let scopes : Shape :=
    .list (.record (names ["operator", "scopeName"] ++ textLists ["values"]))
  [field "spec" (.record ([field "hard" quantities,
      field "scopeSelector" (.record [field "matchExpressions" scopes])] ++ textLists ["scopes"])),
    field "status" (.record [field "hard" quantities, field "used" quantities])]

/-! ## Claims and accounts -/

def volumeClaimFields : Fields :=
  [field "spec" volumeClaimSpec,
    field "status" (.record ([
      field "allocatedResourceStatuses" (.table .text), field "allocatedResources" quantities,
      field "capacity" quantities,
      field "conditions" (.list (condition ["lastProbeTime", "lastTransitionTime"])),
      field "modifyVolumeStatus"
        (.record (names ["status"] ++ texts ["targetVolumeAttributesClassName"]))] ++
      textLists ["accessModes"] ++ texts ["currentVolumeAttributesClassName", "phase"]))]

/-- A claim inside another object says itself what it is. -/
def claimTemplate : Shape :=
  .record ([always "apiVersion" (.constant Kind.volumeClaim.apiVersion),
    always "kind" (.constant Kind.volumeClaim.label), always "metadata" .metadata] ++
    volumeClaimFields)

def serviceAccountFields : Fields :=
  [field "automountServiceAccountToken" .bool, field "imagePullSecrets" (.list localReference),
    field "secrets" (.list objectReference)]

/-! ## Workloads -/

def statefulSetFields : Fields :=
  let update : Shape := .record (texts ["type"] ++ [field "rollingUpdate"
    (.record (int32s ["partition"] ++ [field "maxUnavailable" .numberOrText]))])
  [field "spec" (.record ([field "ordinals" (.record (int32s ["start"])),
      field "persistentVolumeClaimRetentionPolicy" (.record (texts ["whenDeleted", "whenScaled"])),
      always "selector" labelSelector, always "template" podTemplate,
      field "updateStrategy" update, field "volumeClaimTemplates" (.list claimTemplate)] ++
      int32s ["minReadySeconds", "replicas", "revisionHistoryLimit"] ++
      texts ["podManagementPolicy", "serviceName"])),
    field "status" (.record ([always "replicas" .int32,
      field "conditions" (.list (condition ["lastTransitionTime"]))] ++
      int32s ["availableReplicas", "collisionCount", "currentReplicas", "readyReplicas",
        "updatedReplicas"] ++ int64s ["observedGeneration"] ++
      texts ["currentRevision", "updateRevision"]))]

def deploymentFields : Fields :=
  let update : Shape := .record (texts ["type"] ++ [field "rollingUpdate" (.record [
    field "maxSurge" .numberOrText, field "maxUnavailable" .numberOrText])])
  [field "spec" (.record ([always "selector" labelSelector, always "template" podTemplate,
      field "strategy" update, field "paused" .bool] ++
      int32s ["minReadySeconds", "progressDeadlineSeconds", "replicas",
        "revisionHistoryLimit"])),
    field "status" (.record (
      [field "conditions" (.list (condition ["lastTransitionTime", "lastUpdateTime"]))] ++
      int32s ["availableReplicas", "collisionCount", "readyReplicas", "replicas",
        "terminatingReplicas", "unavailableReplicas", "updatedReplicas"] ++
      int64s ["observedGeneration"]))]

/-! ## Routing -/

def serviceFields : Fields :=
  let port : Shape := .record ([always "port" .int32, field "targetPort" .numberOrText] ++
    int32s ["nodePort"] ++ texts ["appProtocol", "name", "protocol"])
  let state : Shape := .record ([always "lastTransitionTime" .time] ++
    names ["message", "reason", "status", "type"] ++ int64s ["observedGeneration"])
  [field "spec" (.record ([field "ports" (.list port), field "selector" (.table .text),
      field "sessionAffinityConfig"
        (.record [field "clientIP" (.record (int32s ["timeoutSeconds"]))])] ++
      int32s ["healthCheckNodePort"] ++
      textLists ["clusterIPs", "externalIPs", "ipFamilies", "loadBalancerSourceRanges"] ++
      bools ["allocateLoadBalancerNodePorts", "publishNotReadyAddresses"] ++
      texts ["clusterIP", "externalName", "externalTrafficPolicy", "internalTrafficPolicy",
        "ipFamilyPolicy", "loadBalancerClass", "loadBalancerIP", "sessionAffinity",
        "trafficDistribution", "type"])),
    field "status" (.record [field "conditions" (.list state),
      field "loadBalancer" (loadBalancer ["ipMode"])])]

def ingressBackend : Shape :=
  .record [field "resource" (typedReference []),
    field "service" (.record (names ["name"] ++
      [field "port" (.record (texts ["name"] ++ int32s ["number"]))]))]

def ingressFields : Fields :=
  let path : Shape :=
    .record ([always "backend" ingressBackend] ++ names ["pathType"] ++ texts ["path"])
  let rule : Shape :=
    .record (texts ["host"] ++ [field "http" (.record [always "paths" (.list path)])])
  [field "spec" (.record ([field "defaultBackend" ingressBackend, field "rules" (.list rule),
      field "tls" (.list (.record (textLists ["hosts"] ++ texts ["secretName"])))] ++
      texts ["ingressClassName"])),
    field "status" (.record [field "loadBalancer" (loadBalancer [])])]

/-! ## All kinds -/

/-- What an event holds beside its metadata. -/
def eventFields : Fields :=
  [field "deprecatedFirstTimestamp" .time, field "deprecatedLastTimestamp" .time,
    field "deprecatedSource" (.record (texts ["component", "host"])), field "eventTime" .time,
    field "regarding" objectReference, field "related" objectReference,
    field "series" (.record [always "count" .int32, always "lastObservedTime" .time])] ++
    int32s ["deprecatedCount"] ++
    texts ["action", "note", "reason", "reportingController", "reportingInstance", "type"]

/-- What an object of a kind holds beside its metadata; the last kind has no fixed fields. -/
def fields : Kind → Fields
  | .namespace => namespaceFields
  | .resourceQuota => resourceQuotaFields
  | .volumeClaim => volumeClaimFields
  | .serviceAccount => serviceAccountFields
  | .statefulSet => statefulSetFields
  | .service => serviceFields
  | .deployment => deploymentFields
  | .ingress => ingressFields
  | .scaledObject => []

end Tenancy.Object.Schema
