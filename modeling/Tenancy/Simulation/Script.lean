/-
A server that follows a script: it gives one prepared reply after the other, whatever it is asked,
and keeps what it has been asked.
-/
import Tenancy.Http.Message
import Tenancy.Json.Printer

namespace Tenancy.Simulation

/-- A prepared reply. -/
inductive Line where
  | reply (r : Http.Reply)
  /-- An answer that gives the body of the request back. -/
  | echo (status : Nat)
  deriving Repr

structure Script where
  lines : List Line := []
  /-- What has been asked, the last first. -/
  requests : List Http.Request := []
  deriving Repr

namespace Script

/-- The body of a request in bytes. -/
def bodyOf (r : Http.Request) : Bytes := (r.body.map fun j => Utf8.encode j.text).getD []

/-- The reply to a request once the script is at its end. -/
def exhausted : Http.Reply := .of 500 (Utf8.encode "no reply scripted")

def transport : Http.Transport Script := fun r s =>
  let s := { s with requests := r :: s.requests }
  match s.lines with
  | [] => (exhausted, s)
  | .reply reply :: rest => (reply, { s with lines := rest })
  | .echo status :: rest => (.of status (bodyOf r), { s with lines := rest })

end Script
end Tenancy.Simulation
