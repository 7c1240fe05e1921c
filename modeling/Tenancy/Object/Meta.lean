/-
What every cluster object says about itself: its name and place, its version, its owners, the guards
that hold up its deletion, and its labels.
-/
import Tenancy.Json.Decode
import Tenancy.Text.Timestamp

namespace Tenancy.Object

/-! ## Owners -/

/-- A reference from an object to one that owns it. -/
structure OwnerReference where
  apiVersion : String := ""
  kind : String := ""
  name : String := ""
  uid : String := ""
  controller : Option Bool := none
  blockOwnerDeletion : Option Bool := none
  deriving DecidableEq, Repr

def OwnerReference.toJson (o : OwnerReference) : Json :=
  .present [("apiVersion", some (.str o.apiVersion)),
    ("blockOwnerDeletion", o.blockOwnerDeletion.map .bool), ("controller", o.controller.map .bool),
    ("kind", some (.str o.kind)), ("name", some (.str o.name)), ("uid", some (.str o.uid))]

open Decoder in
def OwnerReference.decode : Decoder OwnerReference := fun w => do
  let fields ← entries w
  let apiVersion ← memberD fields "apiVersion" "" text
  let blockOwnerDeletion ← member fields "blockOwnerDeletion" bool
  let controller ← member fields "controller" bool
  let kind ← memberD fields "kind" "" text
  let name ← memberD fields "name" "" text
  let uid ← memberD fields "uid" "" text
  some { apiVersion, kind, name, uid, controller, blockOwnerDeletion }

/-! ## Managed fields -/

/-- A note of who last wrote which fields. -/
structure ManagedFields where
  apiVersion : Option String := none
  fieldsType : Option String := none
  fieldsV1 : Option Json := none
  manager : Option String := none
  operation : Option String := none
  subresource : Option String := none
  time : Option Timestamp := none
  deriving Repr

def ManagedFields.toJson (m : ManagedFields) : Json :=
  .present [("apiVersion", m.apiVersion.map .str), ("fieldsType", m.fieldsType.map .str),
    ("fieldsV1", m.fieldsV1), ("manager", m.manager.map .str),
    ("operation", m.operation.map .str), ("subresource", m.subresource.map .str),
    ("time", m.time.map fun t => .str t.text)]

/-- A point of time given as text. -/
def decodeTime : Decoder Timestamp := fun w => do Timestamp.read? (← Decoder.text w)

open Decoder in
def ManagedFields.decode : Decoder ManagedFields := fun w => do
  let fields ← entries w
  let apiVersion ← member fields "apiVersion" text
  let fieldsType ← member fields "fieldsType" text
  let fieldsV1 ← member fields "fieldsV1" value
  let manager ← member fields "manager" text
  let operation ← member fields "operation" text
  let subresource ← member fields "subresource" text
  let time ← member fields "time" decodeTime
  some { apiVersion, fieldsType, fieldsV1, manager, operation, subresource, time }

/-! ## Metadata -/

structure Meta where
  name : Option String := none
  generateName : Option String := none
  ns : Option String := none
  uid : Option String := none
  resourceVersion : Option String := none
  generation : Option Int := none
  creationTimestamp : Option Timestamp := none
  deletionTimestamp : Option Timestamp := none
  deletionGracePeriodSeconds : Option Int := none
  finalizers : Option (List String) := none
  labels : Option (Dict String String) := none
  annotations : Option (Dict String String) := none
  ownerReferences : Option (List OwnerReference) := none
  managedFields : Option (List ManagedFields) := none
  selfLink : Option String := none
  deriving Repr

namespace Meta

def toJson (m : Meta) : Json :=
  .present [("annotations", m.annotations.map .table),
    ("creationTimestamp", m.creationTimestamp.map fun t => .str t.text),
    ("deletionGracePeriodSeconds", m.deletionGracePeriodSeconds.map .int),
    ("deletionTimestamp", m.deletionTimestamp.map fun t => .str t.text),
    ("finalizers", m.finalizers.map .strings), ("generateName", m.generateName.map .str),
    ("generation", m.generation.map .int), ("labels", m.labels.map .table),
    ("managedFields", m.managedFields.map fun fs => .arr (fs.map ManagedFields.toJson)),
    ("name", m.name.map .str), ("namespace", m.ns.map .str),
    ("ownerReferences", m.ownerReferences.map fun os => .arr (os.map OwnerReference.toJson)),
    ("resourceVersion", m.resourceVersion.map .str), ("selfLink", m.selfLink.map .str),
    ("uid", m.uid.map .str)]

open Decoder in
def decode : Decoder Meta := fun w => do
  let fields ← entries w
  let annotations ← member fields "annotations" (dict text)
  let creationTimestamp ← member fields "creationTimestamp" decodeTime
  let deletionGracePeriodSeconds ← member fields "deletionGracePeriodSeconds" int64
  let deletionTimestamp ← member fields "deletionTimestamp" decodeTime
  let finalizers ← member fields "finalizers" (list text)
  let generateName ← member fields "generateName" text
  let generation ← member fields "generation" int64
  let labels ← member fields "labels" (dict text)
  let managedFields ← member fields "managedFields" (list ManagedFields.decode)
  let name ← member fields "name" text
  let ns ← member fields "namespace" text
  let ownerReferences ← member fields "ownerReferences" (list OwnerReference.decode)
  let resourceVersion ← member fields "resourceVersion" text
  let selfLink ← member fields "selfLink" text
  let uid ← member fields "uid" text
  some {
    name := name, generateName, ns, uid, resourceVersion, generation, creationTimestamp,
    deletionTimestamp, deletionGracePeriodSeconds, finalizers, labels, annotations,
    ownerReferences, managedFields, selfLink }

/-- The name an object goes by: its own, or the one its name is to be generated from. -/
def displayName (m : Meta) : String := (m.name <|> m.generateName).getD ""

end Meta

/-- A reference to an object, as events carry it. -/
structure ObjectReference where
  apiVersion : Option String := none
  kind : Option String := none
  name : Option String := none
  ns : Option String := none
  uid : Option String := none
  deriving DecidableEq, Repr

def ObjectReference.toJson (r : ObjectReference) : Json :=
  .present [("apiVersion", r.apiVersion.map .str), ("kind", r.kind.map .str),
    ("name", r.name.map .str), ("namespace", r.ns.map .str), ("uid", r.uid.map .str)]

end Tenancy.Object
