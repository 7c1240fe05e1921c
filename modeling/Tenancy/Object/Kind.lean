/-
The kinds of objects that a tenant is made of, and where a cluster keeps them.
-/
namespace Tenancy.Object

inductive Kind where
  | namespace
  | resourceQuota
  | volumeClaim
  | serviceAccount
  | statefulSet
  | service
  | deployment
  | ingress
  | scaledObject
  deriving DecidableEq, Repr

namespace Kind

def all : List Kind :=
  [.namespace, .resourceQuota, .volumeClaim, .serviceAccount, .statefulSet, .service, .deployment,
    .ingress, .scaledObject]

def label : Kind → String
  | .namespace => "Namespace"
  | .resourceQuota => "ResourceQuota"
  | .volumeClaim => "PersistentVolumeClaim"
  | .serviceAccount => "ServiceAccount"
  | .statefulSet => "StatefulSet"
  | .service => "Service"
  | .deployment => "Deployment"
  | .ingress => "Ingress"
  | .scaledObject => "HTTPScaledObject"

def ofLabel? (label : String) : Option Kind := all.find? (·.label = label)

def apiVersion : Kind → String
  | .statefulSet | .deployment => "apps/v1"
  | .ingress => "networking.k8s.io/v1"
  | .scaledObject => "http.keda.sh/v1alpha1"
  | _ => "v1"

/-- The name of the collection that holds the objects of a kind. -/
def plural : Kind → String
  | .namespace => "namespaces"
  | .resourceQuota => "resourcequotas"
  | .volumeClaim => "persistentvolumeclaims"
  | .serviceAccount => "serviceaccounts"
  | .statefulSet => "statefulsets"
  | .service => "services"
  | .deployment => "deployments"
  | .ingress => "ingresses"
  | .scaledObject => "httpscaledobjects"

/-- Whether the objects of a kind live in a namespace. -/
def namespaced : Kind → Bool
  | .namespace => false
  | _ => true

end Kind
end Tenancy.Object
