/-
Reading the answers of a cluster. A failure is told in a document of its own, or else in whatever
text came; a success has to be a document of the kind that was asked for.
-/
import Tenancy.Cluster.Error
import Tenancy.Http.Message
import Tenancy.Http.Status
import Tenancy.Json.Decode
import Tenancy.Json.Reader

namespace Tenancy.Cluster

namespace Refusal

open Decoder in
protected def decode : Decoder Refusal := fun w => do
  let s ← slots ["status", "message", "reason", "code"] w
  let status ← required s "status" Decoder.text
  let message ← defaulted s "message" "" Decoder.text
  let reason ← defaulted s "reason" "" Decoder.text
  let code ← required s "code" natural16
  some { status, message, reason, code }

/-- The refusal that a failure amounts to if its body says nothing more. -/
def plain (status : Nat) (body : Bytes) : Refusal :=
  { status := Http.Status.text status, message := Text.quoted (Utf8.decodeLossy body)
    reason := "Failed to parse error data", code := status }

/-- The refusal that a failure tells. What the document says of its code counts, not the code of the
answer. -/
def ofAnswer (status : Nat) (body : Bytes) : Refusal :=
  match (Json.read? body).bind Refusal.decode with
  | some r => r
  | none => plain status body

def isNotFound (r : Refusal) : Bool := decide (r.reason = "NotFound")

end Refusal

/-- The body of a successful answer, which has to be text. -/
def readBody : Http.Reply → Except Error Bytes
  | .answer status pieces whole =>
    if !whole then .error (.undelivered "error reading a body from connection")
    else
      let body := pieces.flatten
      match Utf8.defect? 0 body with
      | some d => .error (.notText d.message)
      | none =>
        if Http.Status.isFailure status then .error (.refused (.ofAnswer status body))
        else .ok body
  | .failed detail => .error (.undelivered detail)
  | .silent => .error (.undelivered "operation timed out")

/-- Reads a body as a document of a sort. -/
def decodeBody {α : Type} (d : Decoder α) (body : Bytes) : Except Error α :=
  match (Json.read? body).bind d with
  | some a => .ok a
  | none => .error (.unreadable (Utf8.decodeLossy body))

/-- The object in a successful answer. -/
def readObject {α : Type} (d : Decoder α) (reply : Http.Reply) : Except Error α := do
  decodeBody d (← readBody reply)

/-- The object in an answer, or that there is none. -/
def readObject? {α : Type} (d : Decoder α) (reply : Http.Reply) : Except Error (Option α) :=
  match readObject d reply with
  | .ok a => .ok (some a)
  | .error (.refused r) => if r.isNotFound then .ok none else .error (.refused r)
  | .error e => .error e

/-! ## Deletions -/

open Decoder in
def decodeCause : Decoder Unit := fun w => do
  let s ← slots ["reason", "message", "field"] w
  let _ ← defaulted s "reason" "" text
  let _ ← defaulted s "message" "" text
  let _ ← defaulted s "field" "" text
  some ()

open Decoder in
def decodeDetails : Decoder Unit := fun w => do
  let s ← slots ["name", "group", "kind", "uid", "causes", "retryAfterSeconds"] w
  let _ ← defaulted s "name" "" text
  let _ ← defaulted s "group" "" text
  let _ ← defaulted s "kind" "" text
  let _ ← defaulted s "uid" "" text
  let _ ← defaulted s "causes" [] (list decodeCause)
  let _ ← defaulted s "retryAfterSeconds" 0 (natural (Nat.pow 2 32 - 1))
  some ()

open Decoder in
/-- The note that says how a deletion went. -/
def decodeOutcome : Decoder Unit := fun w => do
  let s ← slots ["status", "code", "message", "reason", "details"] w
  let _ ← defaulted s "status" none (nullable (choice [("Success", ()), ("Failure", ())]))
  let _ ← defaulted s "code" 0 natural16
  let _ ← defaulted s "message" "" text
  let _ ← defaulted s "reason" "" text
  let _ ← defaulted s "details" none (nullable decodeDetails)
  some ()

/-- The answer to a deletion is a note on its outcome, or the object as it is being deleted. -/
def decodeDeleted {α : Type} (object : Decoder α) : Decoder Unit := fun w => do
  let document ← Decoder.value w
  if (document.get "kind").str? = some "Status" then decodeOutcome w
  else (object w).map fun _ => ()

end Tenancy.Cluster
