/-
The objects of a tenant, one constructor for each. What varies is an argument; images, paths and
sizes that never vary are fixed here.
-/
import Tenancy.Object.Child
import Tenancy.Tenant.Labels

namespace Tenancy.Tenant.Manifest

open Object

/-! ## Fixed choices -/

def runtimeImage : String := "ollama/ollama"

def runtimePort : Int := 11434

def runtimeVolumeSize : String := "20Gi"

def runtimeVolume : String := "ollama-volume"

def runtimeDataPath : String := "/.ollama"

def chatImage : String := "ghcr.io/open-webui/open-webui"

def chatPort : Int := 8080

def chatVolumeSize : String := "2Gi"

def chatVolume : String := "webui-volume"

def chatDataPath : String := "/app/backend/data"

/-- The host that takes the requests for a front-end that is scaled to zero. -/
def interceptorHost : String := "keda-add-ons-http-interceptor-proxy.keda"

/-- The user and group of pods that must not run as the super-user. -/
def plainUser : Int := 10001

/-! ## Constructors -/

/-- Where an object lives, what it is called, and its labels. -/
def identified (ns : Option String) (name : String) (labels : Labels) : Meta :=
  { name := some name, ns, labels := some labels }

def home (name : String) (labels : Labels) : Child :=
  ⟨identified none name labels, .namespace⟩

/-- Caps pods, claims and services in a namespace. -/
def resourceQuota (ns name : String) (labels : Labels) : Child :=
  ⟨identified (some ns) name labels,
    .resourceQuota [("persistentvolumeclaims", "2"), ("pods", "2"), ("services", "5")]⟩

def volumeClaim (ns name size : String) (labels : Labels) : Child :=
  ⟨identified (some ns) name labels, .volumeClaim size⟩

def serviceAccount (ns name : String) (labels : Labels) : Child :=
  ⟨identified (some ns) name labels, .serviceAccount⟩

/-- The model runtime: one pod; its service account and its service share its name. -/
def runtime (ns name : String) (port : Int) (imageTag volumeSize : String) (labels : Labels) :
    Child :=
  let container : Container :=
    { name := "ollama"
      image := runtimeImage ++ ":" ++ imageTag
      env := [("OLLAMA_DEBUG", "1")]
      port
      mount := ⟨runtimeVolume, runtimeDataPath⟩
      confined := true }
  let pods : Pods :=
    { labels := Labels.selector name, serviceAccount := name, container, user := some plainUser }
  ⟨identified (some ns) name labels,
    .statefulSet
      { service := name, selector := Labels.selector name, pods, volume := runtimeVolume,
        volumeSize }⟩

/-- What the chat front-end is told of its tenant. -/
structure ChatSettings where
  tenant : String
  environment : String
  runtimeUrl : String
  deriving DecidableEq, Repr

/-- The chat front-end: its claim and its service account share its name. -/
def chat (ns name : String) (port : Int) (imageTag : String) (settings : ChatSettings)
    (labels : Labels) : Child :=
  let container : Container :=
    { name := "open-webui"
      image := chatImage ++ ":" ++ imageTag
      env := [
        ("OLLAMA_BASE_URL", settings.runtimeUrl),
        ("OPENAI_API_BASE_URL", settings.runtimeUrl ++ "/v1"),
        ("ENV", settings.environment),
        ("WEBUI_NAME", "AIChat Workspace: " ++ settings.tenant),
        ("KEY_FILE", "/tmp/.webui_secret_key")]
      port
      mount := ⟨chatVolume, chatDataPath⟩ }
  let pods : Pods :=
    { labels := Labels.selector name, serviceAccount := name, container,
      volumes := [⟨chatVolume, name⟩] }
  ⟨identified (some ns) name labels, .deployment { selector := Labels.selector name, pods }⟩

/-- A service for the pods of the workload of the same name. -/
def clusterService (ns name : String) (port : Int) (labels : Labels) : Child :=
  ⟨identified (some ns) name labels, .service (.clusterIP (Labels.selector name) port)⟩

def externalService (ns name host : String) (labels : Labels) : Child :=
  ⟨identified (some ns) name labels, .service (.externalName host)⟩

/-- Leads `host` to a port of the service `backend`. -/
def ingress (ns name host backend : String) (port : Int) (labels : Labels) : Child :=
  ⟨identified (some ns) name labels, .ingress { host, backend, port }⟩

/-- Scales the deployment of the same name by the requests for `hosts`. -/
def scaledObject (ns name : String) (port : Int) (hosts : List String) (labels : Labels) : Child :=
  ⟨identified (some ns) name labels, .scaledObject { hosts, deployment := name, port }⟩

end Tenancy.Tenant.Manifest
