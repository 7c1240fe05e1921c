/-
A reconciler that acts over the network. Each of its calls is one exchange with the cluster or with
the runtime of a tenant; what it keeps between calls is the memory of the events it has published.
-/
import Tenancy.Operator.Program
import Tenancy.Operator.Publisher
import Tenancy.Operator.Remote.Exchange

namespace Tenancy.Operator

open Http (Exchange Transport)

/-- What a reconciler carries from call to call, with the cluster and the runtimes it talks to. -/
structure Remote (κ ρ : Type) where
  cluster : κ
  runtimes : ρ
  publisher : Publisher := { reporter := { controller := Remote.controller } }
  clock : Instant

namespace Remote

variable {κ ρ α : Type}

/-- Performs an exchange with the cluster. -/
def askCluster (t : Transport κ) (x : Exchange Error α) (s : Remote κ ρ) :
    Except Error α × Remote κ ρ :=
  let (a, cluster) := x.perform t s.cluster
  (a, { s with cluster })

/-- Performs an exchange with a runtime. -/
def askRuntime (t : Transport ρ) (x : Exchange Model.Error α) (s : Remote κ ρ) :
    Except Model.Error α × Remote κ ρ :=
  let (a, runtimes) := x.perform t s.runtimes
  (a, { s with runtimes })

/-- Pulls a model. Where there is no time, nothing is asked; where nothing is answered, the time runs
out. -/
def pull (t : Transport ρ) (client : Model.Client) (model : String) (limit : Duration)
    (s : Remote κ ρ) : PullEnd × Remote κ ρ :=
  if limit = .zero then (.timedOut, s)
  else
    let x := client.pull model
    match x.request with
    | .error e => (.finished (.error e), s)
    | .ok r =>
      match t r s.runtimes with
      | (.silent, runtimes) => (.timedOut, { s with runtimes })
      | (reply, runtimes) => (.finished (x.read reply), { s with runtimes })

/-- Answers every call over a transport to the cluster and one to the runtimes. -/
def handle (config : Config) (cluster : Transport κ) (runtimes : Transport ρ) :
    Handler (Remote κ ρ)
  | .workspace name => askCluster cluster (workspace name)
  | .setFinalizers name version finalizers =>
    askCluster cluster (setFinalizers name version finalizers)
  | .patchStatus name version status => askCluster cluster (patchStatus name version status)
  | .childExists child => askCluster cluster (childExists child)
  | .createChild child => askCluster cluster (createChild child)
  | .deleteNamespace name => askCluster cluster (deleteNamespace name)
  | .readyReplicas ns name => askCluster cluster (readyReplicas ns name)
  | .configMap ns name => askCluster cluster (configMap ns name)
  | .publish event => fun s =>
    let (publisher, state) := s.publisher.publish cluster s.clock event s.cluster
    ((), { s with publisher, cluster := state })
  | .openRuntime _ => fun s => ((), s)
  | .listModels tenant => askRuntime runtimes (runtime config tenant).listModels
  | .listRunning tenant => askRuntime runtimes (runtime config tenant).listRunning
  | .pull tenant model limit => pull runtimes (runtime config tenant) model limit
  | .createModel tenant model file =>
    askRuntime runtimes ((runtime config tenant).create model file)
  | .now => fun s => (s.clock.second.text, s)

end Remote
end Tenancy.Operator
