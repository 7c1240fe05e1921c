/-
Parts that the shapes of several kinds share: selectors, references, conditions and quantities.
-/
import Tenancy.Object.Shape

namespace Tenancy.Object.Schema

/-- The fields of a record by name; a field that is marked is always there. -/
abbrev Fields := List (String × Bool × Shape)

/-- A field that may be missing. -/
abbrev field (name : String) (shape : Shape) : String × Bool × Shape := (name, false, shape)

/-- A field that is always there. -/
abbrev always (name : String) (shape : Shape) : String × Bool × Shape := (name, true, shape)

def texts (names : List String) : Fields := names.map (field · .text)

def bools (names : List String) : Fields := names.map (field · .bool)

def int32s (names : List String) : Fields := names.map (field · .int32)

def int64s (names : List String) : Fields := names.map (field · .int64)

def textLists (names : List String) : Fields := names.map (field · (.list .text))

/-- Texts that are always there. -/
def names (names : List String) : Fields := names.map (always · .text)

/-! ## Selectors -/

/-- Conditions on the values under a key. -/
def requirements : Shape :=
  .list (.record (names ["key", "operator"] ++ textLists ["values"]))

def labelSelector : Shape :=
  .record [field "matchExpressions" requirements, field "matchLabels" (.table .text)]

/-! ## References -/

/-- An object of the same namespace. -/
def localReference : Shape := .record (names ["name"])

def typedReference (more : List String) : Shape :=
  .record (names ["kind", "name"] ++ texts ("apiGroup" :: more))

def objectReference : Shape :=
  .record (texts ["apiVersion", "fieldPath", "kind", "name", "namespace", "resourceVersion", "uid"])

/-! ## States -/

/-- A condition of an object, with the times that its kind records. -/
def condition (times : List String) : Shape :=
  .record (times.map (field · .time) ++ texts ["message", "reason"] ++ names ["status", "type"])

def quantities : Shape := .table .text

/-- What is used, at least and at most. -/
def limits : Fields := [field "limits" quantities, field "requests" quantities]

/-- What the ingress points of a load balancer say of themselves. -/
def loadBalancer (more : List String) : Shape :=
  .record [field "ingress" (.list (.record (texts (["hostname", "ip"] ++ more) ++
    [field "ports" (.list (.record ([always "port" .int32] ++ names ["protocol"] ++
      texts ["error"])))])))]

end Tenancy.Object.Schema
