/-
A small API server. It keeps objects by their paths and gives every object that it stores a new
version. A change that names a version is refused unless the object still has it.
-/
import Tenancy.Http.Message
import Tenancy.Json.Field
import Tenancy.Json.MergePatch
import Tenancy.Json.Printer
import Tenancy.Simulation.Fault
import Tenancy.Workspace.Basic

namespace Tenancy.Simulation

/-- What happens to objects when they are created. -/
structure Admission where
  /-- Workloads with a volume of their own are ready at once. -/
  ready : Bool := false
  /-- Objects lose their owners. -/
  disown : Bool := false
  /-- A patch for every reference to an owner. -/
  owner : Option Json := none
  deriving Repr

structure Server where
  /-- Objects by path. -/
  objects : Dict String Json := []
  /-- The last version given out. -/
  versions : Nat := 100
  admission : Admission := {}
  /-- Faults by method and path; what they do is reply. -/
  faults : List (Fault Http.Method Http.Reply) := []
  /-- What has been asked, the last first. -/
  requests : List Http.Request := []
  /-- The objects that have changed or gone since somebody looked, the last first. -/
  changes : List (String × Json) := []
  deriving Repr

namespace Server

/-! ## Paths -/

def segments (path : String) : List String := path.splitOn "/"

/-- The segments behind the version of the API and behind the namespace, if a path leads into one: a
collection and what is left of it. -/
def place (path : String) : List String :=
  let below := match segments path with
    | "" :: "api" :: _ :: below => below
    | "" :: "apis" :: _ :: _ :: below => below
    | below => below
  match below with
  | "namespaces" :: _ :: plural :: rest => plural :: rest
  | place => place

/-- The collection that a path leads into. -/
def pluralOf (path : String) : String := (place path).headD ""

/-- The name of an object in its collection; the collection itself has none. -/
def nameOf (path : String) : String := String.intercalate "/" (place path).tail

/-- The path of the object whose status a path may stand for. An object that is itself called like
the status is taken for one, so it cannot be reached this way. -/
def objectPath (path : String) : String :=
  String.intercalate "/" ((segments path).reverse.dropWhile (· = "status")).reverse

/-- Whether a path leads to the events. -/
def isEvent (path : String) : Bool :=
  match segments path with
  | "" :: "apis" :: "events.k8s.io" :: _ => true
  | _ => false

/-! ## The store -/

/-- An object with a version written into it. -/
def withVersion (object : Json) (version : Nat) : Json :=
  object.set "metadata" ((object.get "metadata").set "resourceVersion" (.str (toString version)))

/-- Stores an object under a new version. -/
def store (s : Server) (path : String) (object : Json) : Server :=
  let object := withVersion object (s.versions + 1)
  { s with
    objects := Dict.insert s.objects path object
    versions := s.versions + 1
    changes := (path, object) :: s.changes }

def object? (s : Server) (path : String) : Option Json := Dict.get? s.objects path

/-- Drops an object. -/
def remove (s : Server) (path : String) : Server :=
  match s.object? path with
  | none => s
  | some object =>
    { s with objects := Dict.erase s.objects path, changes := (path, object) :: s.changes }

/-- Drops an object and all that lies in the namespace of its name. -/
def removeTree (s : Server) (path : String) : Server :=
  let inside : String := "/namespaces/" ++ nameOf path ++ "/"
  let gone := s.objects.filter fun e => decide (e.1 = path) || (e.1.splitOn inside).length ≠ 1
  gone.foldl (fun s e => s.remove e.1) s

/-- A server that holds the given objects, stored in order. -/
def ofObjects (admission : Admission) (objects : List (String × Json)) : Server :=
  let s := objects.foldl (fun (s : Server) e => s.store e.1 e.2) { admission := admission }
  { s with changes := [] }

/-- The workspaces of a server by name. -/
def workspaces (s : Server) : List (String × Json) :=
  s.objects.filterMap fun (path, object) =>
    if pluralOf path = Workspace.plural then some (nameOf path, object) else none

/-- Whether nothing holds up the deletion of an object that is to be deleted. -/
def released (object : Json) : Bool :=
  let metadata := object.get "metadata"
  !(metadata.get "deletionTimestamp").isNull &&
    (Json.Field.items metadata "finalizers").isEmpty

/-- Applies a patch to a stored object, whoever may hold it. -/
def change (s : Server) (path : String) (patch : Json) : Option Server := do
  some (s.store path ((← s.object? path).mergePatch patch))

/-! ## Replies -/

def answer (status : Nat) (body : Json) : Http.Reply := .of status (Utf8.encode body.text)

/-- A failure as a document. -/
def failure (code : Nat) (reason message : String) : Http.Reply :=
  answer code (.object [("apiVersion", .str "v1"), ("kind", .str "Status"), ("metadata", .empty),
    ("status", .str "Failure"), ("message", .str message), ("reason", .str reason),
    ("code", .int code)])

def notFound (path : String) : Http.Reply :=
  failure 404 "NotFound" (pluralOf path ++ " \"" ++ nameOf path ++ "\" not found")

/-! ## Requests -/

/-- An object as it is taken in. -/
def accept (a : Admission) (object : Json) : Json :=
  let object :=
    if a.ready && Json.Field.text object "kind" = Object.Kind.statefulSet.label then
      object.set "status" (.object [("replicas", .int 1), ("readyReplicas", .int 1)])
    else object
  let metadata := object.get "metadata"
  match metadata.get? "ownerReferences" with
  | none => object
  | some owners =>
    if a.disown then object.set "metadata" (metadata.erase "ownerReferences")
    else
      match a.owner with
      | none => object
      | some patch =>
        object.set "metadata" (metadata.set "ownerReferences"
          (.arr ((owners.items?.getD []).map (·.mergePatch patch))))

def get (path : String) (s : Server) : Http.Reply × Server :=
  match s.object? path with
  | some object => (answer 200 object, s)
  | none => (notFound path, s)

/-- Creates an object in a collection; events are taken and not kept. -/
def create (path : String) (object : Json) (s : Server) : Http.Reply × Server :=
  if isEvent path then (answer 201 object, s)
  else
    let path := path ++ "/" ++ Json.Field.text (object.get "metadata") "name"
    match s.object? path with
    | some _ => (failure 409 "AlreadyExists" (path ++ " already exists"), s)
    | none =>
      let s := s.store path (accept s.admission object)
      (answer 201 ((s.object? path).getD object), s)

/-- Whether a patch was made for another version of an object than the one that is stored. -/
def stale (object patch : Json) : Bool :=
  match Json.Field.text? (patch.get "metadata") "resourceVersion" with
  | some v => decide (Json.Field.text? (object.get "metadata") "resourceVersion" ≠ some v)
  | none => false

/-- Applies a patch that was sent; a workspace that is to be deleted goes as soon as nothing holds
it up. Its last state takes a version like every other. -/
def patch (path : String) (body : Json) (s : Server) : Http.Reply × Server :=
  let path := objectPath path
  match s.object? path with
  | none => (notFound path, s)
  | some object =>
    if stale object body then
      (failure 409 "Conflict" (nameOf path ++ ": the object has been modified"), s)
    else
      let object := object.mergePatch body
      let gone := pluralOf path = Workspace.plural && released object
      let s := s.store path object
      (answer 200 ((s.object? path).getD object), if gone then s.remove path else s)

def delete (path : String) (s : Server) : Http.Reply × Server :=
  match s.object? path with
  | none => (notFound path, s)
  | some _ =>
    (answer 200 (.object [("apiVersion", .str "v1"), ("kind", .str "Status"),
      ("metadata", .empty), ("status", .str "Success")]), s.removeTree path)

/-- Answers a request: a fault that is due, or what the store says. -/
def transport : Http.Transport Server := fun r s =>
  let s := { s with requests := r :: s.requests }
  match meet r.method r.address s.faults with
  | (some reply, faults) => (reply, { s with faults })
  | (none, faults) =>
    let s := { s with faults }
    match r.method with
    | .get => s.get r.address
    | .post => s.create r.address (r.body.getD .null)
    | .patch => s.patch r.address (r.body.getD .null)
    | .delete => s.delete r.address

end Server
end Tenancy.Simulation
