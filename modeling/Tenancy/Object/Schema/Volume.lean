/-
The shapes of volumes: the claims by which a tenant asks for storage, and all that a pod may mount.
-/
import Tenancy.Object.Schema.Part

namespace Tenancy.Object.Schema

/-! ## Claims -/

def volumeClaimSpec : Shape :=
  .record ([field "dataSource" (typedReference []),
    field "dataSourceRef" (typedReference ["namespace"]), field "resources" (.record limits),
    field "selector" labelSelector] ++ textLists ["accessModes"] ++
    texts ["storageClassName", "volumeAttributesClassName", "volumeMode", "volumeName"])

/-! ## Files from objects -/

/-- The keys of an object that become files. -/
def keyFiles : Shape := .list (.record (names ["key", "path"] ++ int32s ["mode"]))

/-- A field of the pod itself. -/
def podField : Shape := .record (names ["fieldPath"] ++ texts ["apiVersion"])

/-- A resource of a container. -/
def containerResource : Shape :=
  .record (names ["resource"] ++ texts ["containerName", "divisor"])

/-- What the pod knows of itself, as files. -/
def podFiles : Shape :=
  .list (.record (names ["path"] ++ int32s ["mode"] ++
    [field "fieldRef" podField, field "resourceFieldRef" containerResource]))

/-- Files from an object that is named, and may be optional. -/
def namedFiles : Fields := names ["name"] ++ [field "items" keyFiles] ++ bools ["optional"]

/-- One of the sources that a projected volume puts together. -/
def projection : Shape :=
  .record [
    field "clusterTrustBundle" (.record (names ["path"] ++ [field "labelSelector" labelSelector] ++
      texts ["name", "signerName"] ++ bools ["optional"])),
    field "configMap" (.record namedFiles),
    field "downwardAPI" (.record [field "items" podFiles]),
    field "secret" (.record namedFiles),
    field "serviceAccountToken" (.record (names ["path"] ++ texts ["audience"] ++
      int64s ["expirationSeconds"]))]

/-! ## Volumes -/

/-- Volumes inside the cluster. -/
def clusterVolumes : Fields :=
  [field "configMap" (.record (namedFiles ++ int32s ["defaultMode"])),
    field "csi" (.record (names ["driver"] ++ texts ["fsType"] ++ bools ["readOnly"] ++
      [field "nodePublishSecretRef" localReference, field "volumeAttributes" (.table .text)])),
    field "downwardAPI" (.record ([field "items" podFiles] ++ int32s ["defaultMode"])),
    field "emptyDir" (.record (texts ["medium", "sizeLimit"])),
    field "ephemeral" (.record [field "volumeClaimTemplate"
      (.record [field "metadata" .metadata, always "spec" volumeClaimSpec])]),
    field "gitRepo" (.record (names ["repository"] ++ texts ["directory", "revision"])),
    field "hostPath" (.record (names ["path"] ++ texts ["type"])),
    field "image" (.record (texts ["pullPolicy", "reference"])),
    field "persistentVolumeClaim" (.record (names ["claimName"] ++ bools ["readOnly"])),
    field "projected" (.record ([field "sources" (.list projection)] ++ int32s ["defaultMode"])),
    field "secret" (.record ([field "items" keyFiles] ++ int32s ["defaultMode"] ++
      bools ["optional"] ++ texts ["secretName"]))]

/-- Volumes of file servers and block devices. -/
def networkVolumes : Fields :=
  [field "cephfs" (.record ([always "monitors" (.list .text), field "secretRef" localReference] ++
      texts ["path", "secretFile", "user"] ++ bools ["readOnly"])),
    field "fc" (.record (int32s ["lun"] ++ textLists ["targetWWNs", "wwids"] ++ texts ["fsType"] ++
      bools ["readOnly"])),
    field "flexVolume" (.record (names ["driver"] ++ texts ["fsType"] ++ bools ["readOnly"] ++
      [field "options" (.table .text), field "secretRef" localReference])),
    field "flocker" (.record (texts ["datasetName", "datasetUUID"])),
    field "glusterfs" (.record (names ["endpoints", "path"] ++ bools ["readOnly"])),
    field "iscsi" (.record (names ["iqn", "targetPortal"] ++ [always "lun" .int32] ++
      texts ["fsType", "initiatorName", "iscsiInterface"] ++ textLists ["portals"] ++
      bools ["chapAuthDiscovery", "chapAuthSession", "readOnly"] ++
      [field "secretRef" localReference])),
    field "nfs" (.record (names ["path", "server"] ++ bools ["readOnly"])),
    field "portworxVolume" (.record (names ["volumeID"] ++ texts ["fsType"] ++
      bools ["readOnly"])),
    field "quobyte" (.record (names ["registry", "volume"] ++ texts ["group", "tenant", "user"] ++
      bools ["readOnly"])),
    field "rbd" (.record (names ["image"] ++ [always "monitors" (.list .text)] ++
      texts ["fsType", "keyring", "pool", "user"] ++ bools ["readOnly"] ++
      [field "secretRef" localReference])),
    field "scaleIO" (.record (names ["gateway", "system"] ++ [always "secretRef" localReference] ++
      texts ["fsType", "protectionDomain", "storageMode", "storagePool", "volumeName"] ++
      bools ["readOnly", "sslEnabled"])),
    field "storageos" (.record (texts ["fsType", "volumeName", "volumeNamespace"] ++
      bools ["readOnly"] ++ [field "secretRef" localReference]))]

/-- Volumes that a cloud keeps. -/
def cloudVolumes : Fields :=
  [field "awsElasticBlockStore" (.record (names ["volumeID"] ++ texts ["fsType"] ++
      int32s ["partition"] ++ bools ["readOnly"])),
    field "azureDisk" (.record (names ["diskName", "diskURI"] ++
      texts ["cachingMode", "fsType", "kind"] ++ bools ["readOnly"])),
    field "azureFile" (.record (names ["secretName", "shareName"] ++ bools ["readOnly"])),
    field "cinder" (.record (names ["volumeID"] ++ texts ["fsType"] ++ bools ["readOnly"] ++
      [field "secretRef" localReference])),
    field "gcePersistentDisk" (.record (names ["pdName"] ++ texts ["fsType"] ++
      int32s ["partition"] ++ bools ["readOnly"])),
    field "photonPersistentDisk" (.record (names ["pdID"] ++ texts ["fsType"])),
    field "vsphereVolume" (.record (names ["volumePath"] ++
      texts ["fsType", "storagePolicyID", "storagePolicyName"]))]

/-- A volume of a pod, of any sort. -/
def volume : Shape :=
  .record (names ["name"] ++ clusterVolumes ++ networkVolumes ++ cloudVolumes)

end Tenancy.Object.Schema
