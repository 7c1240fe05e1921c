/-
A small model runtime that is reached over the network. It holds what it has been told to pull or to
make, and has nothing running.
-/
import Tenancy.Http.Message
import Tenancy.Http.Url
import Tenancy.Json.Field
import Tenancy.Json.Printer
import Tenancy.Model.Entry
import Tenancy.Simulation.Fault

namespace Tenancy.Simulation

/-- What a runtime can be asked for. -/
inductive Endpoint where
  | tags
  | pull
  | create
  | running
  deriving DecidableEq, Repr

structure Runtime where
  inventory : List String := []
  faults : List (Fault Endpoint Http.Reply) := []
  /-- What has been asked, the last first. -/
  requests : List Http.Request := []
  deriving Repr

namespace Runtime

/-- The endpoint that an address leads to. -/
def endpoint? (address : String) : Option Endpoint := do
  let url ← Http.Url.read? address
  [("/api/tags", Endpoint.tags), ("/api/pull", .pull), ("/api/create", .create),
    ("/api/ps", .running)].lookup url.target

def line (j : Json) : Bytes := Utf8.encode (j.text ++ "\n")

def status (text : String) : Json := .object [("status", .str text)]

def modelsJson (names : List String) : Json :=
  .object [("models", .arr (names.map fun n => .object [("name", .str n), ("model", .str n)]))]

/-- Adds a model. -/
def add (s : Runtime) (model : String) : Runtime :=
  { s with inventory := s.inventory ++ [model] }

/-- Answers what is asked for, about the model that the request names. -/
def serve (s : Runtime) (model : String) : Endpoint → Http.Reply × Runtime
  | .tags => (.of 200 (Utf8.encode (modelsJson s.inventory).text), s)
  | .running => (.of 200 (Utf8.encode (modelsJson []).text), s)
  | .pull =>
    (.of 200 (line (status "pulling manifest") ++ line (status "success")), s.add model)
  | .create => (.of 200 (line (status "success")), s.add model)

def transport : Http.Transport Runtime := fun r s =>
  let s := { s with requests := r :: s.requests }
  match endpoint? r.address with
  | none => (.of 404 (Utf8.encode "404 page not found"), s)
  | some endpoint =>
    let model := Json.Field.text (r.body.getD .null) "model"
    match meet endpoint model s.faults with
    | (some reply, faults) => (reply, { s with faults })
    | (none, faults) => { s with faults }.serve model endpoint

end Runtime
end Tenancy.Simulation
