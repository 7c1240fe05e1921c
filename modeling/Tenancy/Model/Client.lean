/-
A client of a model runtime. It lists what the runtime holds and runs, has models pulled, and has
models made. Pulls and makings are judged by the progress records in the answer: one that tells an
error is a failure, and so is an answer without a success.
-/
import Tenancy.Http.Message
import Tenancy.Http.Status
import Tenancy.Http.Url
import Tenancy.Model.Entry
import Tenancy.Model.File
import Tenancy.Model.Progress

namespace Tenancy.Model

/-! ## Errors -/

/-- What can go wrong between a client and a model runtime. -/
inductive Error where
  /-- No answer, or one that broke off. -/
  | http (detail : String)
  /-- An answer that is no success. -/
  | status (endpoint : String) (code : Nat) (body : String)
  /-- A failure that the runtime reports in a progress stream. -/
  | remote (text : String)
  /-- A progress stream that ended without success. -/
  | incomplete (operation : String)
  /-- An answer that cannot be read. -/
  | decode (detail : String)
  deriving DecidableEq, Repr

def Error.message : Error → String
  | .http detail => "http error: " ++ detail
  | .status endpoint code body =>
    "unexpected status " ++ toString code ++ " from " ++ endpoint ++ ": " ++ body
  | .remote text => "model runtime error: " ++ text
  | .incomplete operation => operation ++ " stream ended without a success status"
  | .decode detail => "decode error: " ++ detail

/-! ## Progress -/

namespace Progress

/-- What a record adds to the knowledge whether there has been a success. -/
def observe (succeeded : Bool) (r : Record) : Except Model.Error Bool :=
  match r.error with
  | some text => .error (.remote text)
  | none => .ok (succeeded || r.isSuccess)

/-- Follows a stream chunk by chunk. All records of a chunk are read before any is judged. -/
def follow (d : Decoder) (succeeded : Bool) : List Bytes → Except Model.Error (Decoder × Bool)
  | [] => .ok (d, succeeded)
  | chunk :: rest =>
    match d.push chunk with
    | (.error line, _) => .error (.decode (Utf8.decodeLossy line))
    | (.ok records, d) => do follow d (← records.foldlM observe succeeded) rest

/-- An operation is done once there has been a success. -/
def conclude (operation : String) (succeeded : Bool) : Except Model.Error Unit :=
  if succeeded then .ok () else .error (.incomplete operation)

/-- What a stream that may break off amounts to. -/
def outcome (chunks : List Bytes) (whole : Bool) : Except Model.Error Unit := do
  let (d, succeeded) ← follow {} false chunks
  if !whole then throw (.http "error decoding response body")
  match d.finish with
  | .error line => throw (.decode (Utf8.decodeLossy line))
  | .ok record => conclude "pull" (← record.toList.foldlM observe succeeded)

/-- What a body amounts to that is one record. -/
def single (operation : String) (body : Bytes) : Except Model.Error Unit :=
  match Record.read? body with
  | none => .error (.decode (Utf8.decodeLossy body))
  | some r => do conclude operation (← observe false r)

end Progress

/-! ## Exchanges -/

/-- A client of the runtime at an address. -/
structure Client where
  base : String
  /-- What the client calls itself. -/
  agent : Option String := none
  deriving DecidableEq, Repr

namespace Client

open Http (Exchange)

def defaultPort : Int := 11434

/-- What a client calls itself if it is not told otherwise. -/
def defaultAgent : String := "aicw-ollama/0.1.0"

/-- A client of the runtime at an address, which may end in slashes. -/
def of (address : String) (agent : Option String := some defaultAgent) : Client :=
  { base := String.ofList (address.toList.reverse.dropWhile (· = '/')).reverse, agent }

/-- A request to an endpoint; there is none if the address is none. -/
def request (c : Client) (method : Http.Method) (endpoint : String) (body : Option Json) :
    Except Error Http.Request :=
  match Http.Url.read? (c.base ++ endpoint) with
  | none => .error (.http "builder error")
  | some url => .ok
    { method, address := url.text, contentType := body.map fun _ => "application/json"
      userAgent := c.agent, body }

/-- Judges a reply by its status and reads the body of a success. -/
def judge {α : Type} (endpoint : String) (read : List Bytes → Bool → Except Error α) :
    Http.Reply → Except Error α
  | .answer status body whole =>
    if Http.Status.isSuccess status then read body whole
    else .error (.status endpoint status (if whole then Utf8.decodeLossy body.flatten else ""))
  | .failed detail => .error (.http detail)
  | .silent => .error (.http "operation timed out")

/-- Reads a body that has to arrive as a whole. -/
def readWhole {α : Type} (read : Bytes → Except Error α) (body : List Bytes) (whole : Bool) :
    Except Error α :=
  if whole then read body.flatten else .error (.http "error decoding response body")

def readInventory (body : Bytes) : Except Error (List Entry) :=
  match readInventory? body with
  | some entries => .ok entries
  | none => .error (.decode (Utf8.decodeLossy body))

/-- Lists the models behind an endpoint. -/
def inventory (c : Client) (endpoint : String) : Exchange Error (List Entry) :=
  { request := c.request .get endpoint none
    read := judge endpoint (readWhole readInventory) }

/-- Lists the models that the runtime holds. -/
def listModels (c : Client) : Exchange Error (List Entry) := c.inventory "/api/tags"

/-- Lists the models that are running. -/
def listRunning (c : Client) : Exchange Error (List Entry) := c.inventory "/api/ps"

/-- Asks whether the runtime holds the model that a reference names. -/
def holds (c : Client) (reference : String) : Exchange Error Bool :=
  c.listModels.map (present · reference)

/-- Has a model pulled. -/
def pull (c : Client) (model : String) : Exchange Error Unit :=
  { request := c.request .post "/api/pull" (some (pullRequest model true))
    read := judge "/api/pull" Progress.outcome }

/-- Has a model made from a definition. -/
def create (c : Client) (model : String) (file : File) : Exchange Error Unit :=
  { request := c.request .post "/api/create" (some (createRequest model file false))
    read := judge "/api/create" (readWhole (Progress.single "create")) }

end Client
end Tenancy.Model
