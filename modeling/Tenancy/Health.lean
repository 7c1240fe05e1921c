/-
Questions about the operator's health, as other programs ask them over HTTP. Two paths answer that
all is well; they can only be read.
-/
namespace Tenancy.Health

structure Answer where
  status : Nat
  allow : Option String := none
  contentType : Option String := none
  body : String := ""
  deriving DecidableEq, Repr

def paths : List String := ["/health", "/healthz"]

/-- What a request target asks for: all of it, or what stands behind the host of an address. -/
def askedOf : List Char → List Char
  | '/' :: rest => '/' :: rest
  | cs =>
    match cs.dropWhile (· ≠ ':') with
    | ':' :: '/' :: '/' :: rest => rest.dropWhile fun c => c ≠ '/' && c ≠ '?' && c ≠ '#'
    | _ => cs

/-- The path of a request target, without its query. -/
def pathOf (target : String) : String :=
  String.ofList ((askedOf target.toList).takeWhile fun c => c ≠ '?' && c ≠ '#')

/-- The answer to a request. -/
def answer (method target : String) : Answer :=
  if !paths.contains (pathOf target) then { status := 404 }
  else if method = "GET" then
    { status := 200, contentType := some "text/plain; charset=utf-8", body := "ok" }
  else if method = "HEAD" then { status := 200, contentType := some "text/plain; charset=utf-8" }
  else { status := 405, allow := some "GET,HEAD" }

/-! ## The server -/

/-- How the server of these answers ends: as it is told, or at once because its port is taken. -/
inductive Ending where
  | stopped
  | portTaken
  deriving DecidableEq, Repr

/-- A life of the server in which the given paths are read. -/
def serve (portTaken : Bool) (targets : List String) : List Answer × Ending :=
  if portTaken then ([], .portTaken) else (targets.map (answer "GET"), .stopped)

end Tenancy.Health
