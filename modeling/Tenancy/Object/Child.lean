/-
Objects that make up a tenant. What the provisioning plan creates is typed by what it is for; an
object read from a document keeps whatever its kind knows.
-/
import Tenancy.Object.Schema

namespace Tenancy.Object

/-! ## Workloads -/

/-- The volume that a container mounts, and where. -/
structure Mount where
  volume : String
  path : String
  deriving DecidableEq, Repr

structure Container where
  name : String
  image : String
  env : List (String × String)
  port : Int
  mount : Mount
  /-- Whether the container runs without any privilege. -/
  confined : Bool := false
  deriving DecidableEq, Repr

/-- A volume of a pod that is backed by a claim. -/
structure ClaimVolume where
  volume : String
  claim : String
  deriving DecidableEq, Repr

/-- The pods of a workload, each with one container. -/
structure Pods where
  labels : Dict String String
  serviceAccount : String
  container : Container
  /-- The user and group that the pods run as, where it is fixed. -/
  user : Option Int := none
  volumes : List ClaimVolume := []
  deriving DecidableEq, Repr

/-- A workload of one pod with a volume of its own, reached through the service of its name. -/
structure StatefulSet where
  service : String
  selector : Dict String String
  pods : Pods
  volume : String
  volumeSize : String
  deriving DecidableEq, Repr

structure Deployment where
  selector : Dict String String
  pods : Pods
  deriving DecidableEq, Repr

/-! ## Routing -/

inductive Service where
  /-- An address inside the cluster for the pods with the given labels. -/
  | clusterIP (selector : Dict String String) (port : Int)
  /-- Another name for a host. -/
  | externalName (host : String)
  deriving DecidableEq, Repr

/-- Leads every path of a host to a port of a service. -/
structure Ingress where
  host : String
  backend : String
  port : Int
  deriving DecidableEq, Repr

/-- Scales a deployment between none and one pod by the requests for its hosts. -/
structure ScaledObject where
  hosts : List String
  deployment : String
  port : Int
  deriving DecidableEq, Repr

/-! ## Children -/

/-- What an object is for. -/
inductive Content where
  | namespace
  | resourceQuota (hard : Dict String String)
  | volumeClaim (size : String)
  | serviceAccount
  | statefulSet (s : StatefulSet)
  | deployment (d : Deployment)
  | service (s : Service)
  | ingress (i : Ingress)
  | scaledObject (s : ScaledObject)
  /-- An object read from a document, with its fields beside the metadata. -/
  | document (kind : Kind) (fields : Dict String Json)
  deriving Repr

def Content.kind : Content → Kind
  | .namespace => .namespace
  | .resourceQuota _ => .resourceQuota
  | .volumeClaim _ => .volumeClaim
  | .serviceAccount => .serviceAccount
  | .statefulSet _ => .statefulSet
  | .deployment _ => .deployment
  | .service _ => .service
  | .ingress _ => .ingress
  | .scaledObject _ => .scaledObject
  | .document kind _ => kind

/-- An object of a tenant. -/
structure Child where
  metadata : Meta
  content : Content
  deriving Repr

/-- What tells one object of a cluster from another. -/
structure Key where
  kind : Kind
  ns : Option String
  name : String
  deriving DecidableEq, Repr

namespace Child

def kind (c : Child) : Kind := c.content.kind

def name (c : Child) : String := c.metadata.name.getD ""

/-- The namespace of an object; an object of the cluster as a whole has none. -/
def ns (c : Child) : Option String := c.metadata.ns

def key (c : Child) : Key := ⟨c.kind, c.ns, c.name⟩

def labels (c : Child) : Dict String String := c.metadata.labels.getD []

def owners (c : Child) : List OwnerReference := c.metadata.ownerReferences.getD []

/-- Makes `owner` the only owner. -/
def setOwner (c : Child) (owner : OwnerReference) : Child :=
  { c with metadata := { c.metadata with ownerReferences := some [owner] } }

/-- The kind and name of an object, as messages show them. -/
def label (c : Child) : String := c.kind.label ++ "/" ++ c.name

@[simp] theorem kind_setOwner (c : Child) (o : OwnerReference) : (c.setOwner o).kind = c.kind := rfl

@[simp] theorem name_setOwner (c : Child) (o : OwnerReference) : (c.setOwner o).name = c.name := rfl

@[simp] theorem ns_setOwner (c : Child) (o : OwnerReference) : (c.setOwner o).ns = c.ns := rfl

@[simp] theorem key_setOwner (c : Child) (o : OwnerReference) : (c.setOwner o).key = c.key := rfl

@[simp] theorem owners_setOwner (c : Child) (o : OwnerReference) :
    (c.setOwner o).owners = [o] := rfl

end Child
end Tenancy.Object
