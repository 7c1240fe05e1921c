/-
Messages between a client and a server. A server is a transport: it answers each request out of a
state that it carries along, so a client can be run against a script as well as against a store.
-/
import Tenancy.Json.Basic
import Tenancy.Text.Utf8

namespace Tenancy.Http

inductive Method where
  | get
  | post
  | patch
  | delete
  deriving DecidableEq, Repr

def Method.label : Method → String
  | .get => "GET"
  | .post => "POST"
  | .patch => "PATCH"
  | .delete => "DELETE"

structure Request where
  method : Method
  /-- A path, or a whole address where the server has to be found first. -/
  address : String
  query : String := ""
  contentType : Option String := none
  userAgent : Option String := none
  body : Option Json := none
  deriving Repr

/-- What comes of a request. -/
inductive Reply where
  /-- An answer; the body is in the pieces in which it arrives, and may break off behind them. -/
  | answer (status : Nat) (body : List Bytes) (whole : Bool)
  /-- There is no answer, for the given reason. -/
  | failed (detail : String)
  /-- There is no answer, and nothing says that there will be none. -/
  | silent
  deriving Repr

/-- A whole answer in one piece. -/
def Reply.of (status : Nat) (body : Bytes) : Reply := .answer status [body] true

/-- How requests are answered over a state. -/
abbrev Transport (σ : Type) := Request → σ → Reply × σ

/-- A network in which no server is reached: every request fails, and leaves no trace. -/
def unreachable {σ : Type} : Transport σ := fun r s =>
  (.failed ("error sending request for url (" ++ r.address ++ ")"), s)

/-- A request together with the reading of its reply. A request that cannot be made is an error
before anything is sent. -/
structure Exchange (ε α : Type) where
  request : Except ε Request
  read : Reply → Except ε α

namespace Exchange

variable {ε α β σ : Type}

/-- Sends the request, if there is one, and reads the reply. -/
def perform (x : Exchange ε α) (t : Transport σ) (s : σ) : Except ε α × σ :=
  match x.request with
  | .error e => (.error e, s)
  | .ok r => (x.read (t r s).1, (t r s).2)

/-- The exchange that fails before anything is sent. -/
def refuse (e : ε) : Exchange ε α := ⟨.error e, fun _ => .error e⟩

/-- The exchange with its errors seen as errors of another sort. -/
def mapError {δ : Type} (f : ε → δ) (x : Exchange ε α) : Exchange δ α :=
  ⟨x.request.mapError f, fun reply => (x.read reply).mapError f⟩

/-- The exchange that reads the same reply further. -/
def map (f : α → β) (x : Exchange ε α) : Exchange ε β :=
  { x with read := fun reply => (x.read reply).map f }

@[simp] theorem perform_error {x : Exchange ε α} {e : ε} (h : x.request = .error e)
    (t : Transport σ) (s : σ) : x.perform t s = (.error e, s) := by
  simp [perform, h]

@[simp] theorem perform_ok {x : Exchange ε α} {r : Request} (h : x.request = .ok r)
    (t : Transport σ) (s : σ) : x.perform t s = (x.read (t r s).1, (t r s).2) := by
  simp [perform, h]

@[simp] theorem perform_refuse (e : ε) (t : Transport σ) (s : σ) :
    (refuse e : Exchange ε α).perform t s = (.error e, s) := rfl

theorem perform_mapError {δ : Type} (f : ε → δ) (x : Exchange ε α) (t : Transport σ) (s : σ) :
    (x.mapError f).perform t s = ((x.perform t s).1.mapError f, (x.perform t s).2) := by
  simp only [perform, mapError]
  cases x.request <;> rfl

theorem perform_map (f : α → β) (x : Exchange ε α) (t : Transport σ) (s : σ) :
    (x.map f).perform t s = ((x.perform t s).1.map f, (x.perform t s).2) := by
  simp only [perform, map]
  cases x.request <;> rfl

end Exchange
end Tenancy.Http
