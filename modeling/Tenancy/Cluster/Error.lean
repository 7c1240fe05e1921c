/-
What can go wrong between a client and the cluster's API.
-/
import Tenancy.Text.Printable

namespace Tenancy.Cluster

/-- A refusal in the words of the API. -/
structure Refusal where
  status : String
  message : String
  reason : String
  code : Nat
  deriving DecidableEq, Repr

def Refusal.text (r : Refusal) : String :=
  r.message ++ ": " ++ r.reason ++ " (ErrorResponse \x7b status: " ++ Text.quoted r.status ++
    ", message: " ++ Text.quoted r.message ++ ", reason: " ++ Text.quoted r.reason ++
    ", code: " ++ toString r.code ++ " \x7d)"

/-- Why a request was never made. -/
inductive Malformed where
  | unnamed
  | tooLong
  | uri
  deriving DecidableEq, Repr

def Malformed.text : Malformed → String
  | .unnamed => "failed to validate request: A non-empty name is required"
  | .tooLong => "failed to build request: uri too long"
  | .uri => "failed to build request: invalid uri character"

inductive Error where
  | refused (r : Refusal)
  /-- The request could not be delivered. -/
  | undelivered (detail : String)
  | malformed (m : Malformed)
  /-- A successful answer that is not an object of the requested kind. -/
  | unreadable (detail : String)
  /-- A successful answer that is not text. -/
  | notText (detail : String)
  deriving DecidableEq, Repr

def Error.message : Error → String
  | .refused r => "ApiError: " ++ r.text
  | .undelivered detail => "ServiceError: " ++ detail
  | .malformed m => "Failed to build request: " ++ m.text
  | .unreadable detail => "Error deserializing response: " ++ detail
  | .notText detail => "UTF-8 Error: " ++ detail

end Tenancy.Cluster
