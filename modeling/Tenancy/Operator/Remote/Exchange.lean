/-
What a reconciler asks over the network, one exchange for each of its calls. A write to a workspace
is a merge patch of the one part that it changes, with the version that was read beside it, so the
cluster refuses it once somebody else has written.
-/
import Tenancy.Cluster.Exchange
import Tenancy.Model.Client
import Tenancy.Object.Document
import Tenancy.Operator.Config
import Tenancy.Operator.Error
import Tenancy.Tenant.Labels
import Tenancy.Tenant.Names
import Tenancy.Workspace.Document

namespace Tenancy.Operator.Remote

open Http (Exchange)

/-! ## Workspaces -/

/-- The name under which the operator writes and publishes. -/
def controller : String := Tenant.Labels.manager

def workspaces : Cluster.Collection := ⟨Workspace.apiVersion, Workspace.plural, none⟩

/-- An exchange with the cluster as one of the reconciler's. -/
def asked {α : Type} (x : Exchange Cluster.Error α) : Exchange Error α := x.mapError .cluster

def workspace (name : String) : Exchange Error (Option Workspace) :=
  asked (Cluster.get workspaces name Workspace.decode)

/-- Changes to metadata that hold only for the given version. -/
def versioned (version : Option String) (changes : List (String × Json)) : Json :=
  .object (changes ++ (version.map fun v => ("resourceVersion", Json.str v)).toList)

def finalizersPatch (version : Option String) (finalizers : List String) : Json :=
  .object [("metadata", versioned version [("finalizers", .strings finalizers)])]

def statusPatch (version : Option String) (status : Status) : Json :=
  .object [("metadata", versioned version []), ("status", status.toJson)]

def setFinalizers (name : String) (version : Option String) (finalizers : List String) :
    Exchange Error Unit :=
  asked ((Cluster.patch workspaces name none (some controller)
    (finalizersPatch version finalizers) Workspace.decode).map fun _ => ())

def patchStatus (name : String) (version : Option String) (status : Status) :
    Exchange Error Unit :=
  asked ((Cluster.patch workspaces name (some "status") (some controller)
    (statusPatch version status) Workspace.decode).map fun _ => ())

/-! ## Children -/

/-- The collection that a child lies in. A child whose kind lives in namespaces has to have one. -/
def collectionOf (child : Object.Child) : Except Error Cluster.Collection :=
  if child.kind.namespaced then
    match child.ns with
    | some ns => .ok (.ofKind child.kind (some ns))
    | none => .error (.internal (child.kind.label ++ " " ++ child.name ++ " has no namespace"))
  else .ok (.ofKind child.kind none)

def childExists (child : Object.Child) : Exchange Error Bool :=
  match collectionOf child with
  | .error e => .refuse e
  | .ok c => asked ((Cluster.get c child.name (Object.Child.decode child.kind)).map Option.isSome)

def createChild (child : Object.Child) : Exchange Error Unit :=
  match collectionOf child with
  | .error e => .refuse e
  | .ok c => asked (Cluster.createOnce c child.toJson (Object.Child.decode child.kind))

def deleteNamespace (name : String) : Exchange Error Unit :=
  asked (Cluster.delete .namespaces name (Object.Child.decode .namespace))

/-- The ready pods that an object reports; one that reports nothing has none. -/
def readyOf (child : Object.Child) : Int :=
  match child.content with
  | .document _ fields =>
    (((Dict.get? fields "status").bind (·.get? "readyReplicas")).bind Json.int?).getD 0
  | _ => 0

def readyReplicas (ns name : String) : Exchange Error Int :=
  asked ((Cluster.get (.ofKind .statefulSet (some ns)) name
    (Object.Child.decode .statefulSet)).map fun found => (found.map readyOf).getD 0)

def configMap (ns name : String) : Exchange Error (Option ConfigMap) :=
  asked (Cluster.get ⟨"v1", "configmaps", some ns⟩ name ConfigMap.decode)

/-! ## Runtimes -/

/-- What the operator calls itself before a runtime. -/
def agent : String := "aicw-operator/0.1.0"

/-- The client of a tenant's runtime. -/
def runtime (config : Config) (tenant : String) : Model.Client :=
  .of (Tenant.runtimeUrl tenant config.clusterDomain Model.Client.defaultPort) (some agent)

end Tenancy.Operator.Remote
