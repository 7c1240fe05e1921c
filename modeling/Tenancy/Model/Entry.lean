/-
References to models, and the models that a runtime holds, as its inventory lists them. A reference
is written `repository:tag`, where the repository may have a registry in front of it. An untagged one
means the tag `latest`, so two references name one model exactly if their canonical forms agree.
-/
import Tenancy.Json.Decode
import Tenancy.Json.Reader

namespace Tenancy.Model

/-! ## References -/

/-- Whether a reference carries a tag; a colon before the last slash belongs to a registry. -/
def tagged (reference : String) : Bool :=
  (reference.toList.reverse.takeWhile (· ≠ '/')).contains ':'

/-- The reference with its tag written out. -/
def canonical (reference : String) : String :=
  if tagged reference then reference else reference ++ ":latest"

/-! ## Inventories -/

/-- One model of an inventory. -/
structure Entry where
  name : String := ""
  model : String := ""
  size : Option Nat := none
  digest : Option String := none
  deriving DecidableEq, Repr

/-- What an entry is known by: its model, or its name where an older runtime gives no model. -/
def Entry.identifier (e : Entry) : String := if e.model.isEmpty then e.name else e.model

/-- A model under one name, as a runtime lists it. -/
def Entry.named (name : String) : Entry := { name, model := name }

/-- Whether an inventory holds the model that a reference names. -/
def present (inventory : List Entry) (reference : String) : Bool :=
  inventory.any fun e => decide (canonical e.identifier = canonical reference)

/-! ## Reading an inventory -/

open Decoder in
def Entry.decode : Decoder Entry := fun w => do
  let s ← slots ["name", "model", "size", "digest"] w
  let name ← defaulted s "name" "" text
  let model ← defaulted s "model" "" text
  let size ← defaulted s "size" none (nullable natural64)
  let digest ← defaulted s "digest" none (nullable text)
  some { name, model, size, digest }

open Decoder in
/-- The entries of an inventory. -/
def decodeInventory : Decoder (List Entry) := fun w => do
  let s ← slots ["models"] w
  defaulted s "models" [] (list Entry.decode)

/-- Reads the body of an answer that lists models. -/
def readInventory? (body : Bytes) : Option (List Entry) := do
  decodeInventory (← Json.read? body)

end Tenancy.Model
