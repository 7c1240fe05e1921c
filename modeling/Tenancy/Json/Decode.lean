/-
Decoding a document into a domain type. A decoder is a partial function on the written form. A
record may be written as an object, in which unknown fields are ignored and a known one stands at
most once, or as the array of its fields in order; a field with a default may be left out of the
object and cut off the end of the array, one that is only optional may be left out of the object.
-/
import Tenancy.Json.Written

namespace Tenancy

/-- A partial reading of written values. -/
abbrev Decoder (α : Type) := Written → Option α

namespace Decoder

/-! ## Single values -/

def text : Decoder String
  | .str s => s
  | _ => none

def bool : Decoder Bool
  | .bool b => some b
  | _ => none

/-- A whole number between two bounds. -/
def int (low high : Int) : Decoder Int
  | .num (some (.int i)) => if low ≤ i ∧ i ≤ high then some i else none
  | _ => none

def int32 : Decoder Int := int (-(Int.pow 2 31)) (Int.pow 2 31 - 1)

def int64 : Decoder Int := int (-(Int.pow 2 63)) (Int.pow 2 63 - 1)

def natural (max : Nat) : Decoder Nat := fun w => (int 0 max w).map Int.toNat

def natural16 : Decoder Nat := natural (Nat.pow 2 16 - 1)

def natural64 : Decoder Nat := natural (Nat.pow 2 64 - 1)

/-- Any value, kept as it is. -/
def value : Decoder Json := Written.toJson?

/-- A value that may be null. -/
def nullable {α : Type} (d : Decoder α) : Decoder (Option α)
  | .null => some none
  | w => (d w).map some

def list {α : Type} (d : Decoder α) : Decoder (List α)
  | .arr items => items.mapM d
  | _ => none

/-- The fields of an object all of whose keys can be read, in order. -/
def entries : Decoder (List (String × Written))
  | .obj fields => fields.mapM fun f => f.1.map (·, f.2)
  | _ => none

/-- An object as a dictionary; of two fields with one key the later counts. -/
def dict {α : Type} (d : Decoder α) : Decoder (Dict String α) := fun w => do
  let fields ← entries w
  let values ← fields.mapM fun f => (d f.2).map (f.1, ·)
  some (Dict.ofList values)

/-- One of a list of named alternatives, also in the form of an object whose only field has the
name and null as its value. -/
def choice {α : Type} (options : List (String × α)) : Decoder α
  | .str (some s) => Dict.get? options s
  | .obj [(some s, .null)] => Dict.get? options s
  | _ => none

/-! ## Records -/

/-- What a document gives for one field of a record. -/
inductive Slot where
  | given (w : Written)
  /-- Left out of an object. -/
  | absent
  /-- Beyond the end of an array. -/
  | cut

/-- The slots of a record, by name of field. -/
abbrev Slots := List (String × Slot)

/-- The slot that the fields of an object give for `name`; a second field of that name is an
error. -/
def slotOf (fields : List (String × Written)) (name : String) : Option Slot :=
  match fields.filter (·.1 = name) with
  | [] => some .absent
  | [f] => some (.given f.2)
  | _ => none

/-- Lays the items of an array over the names of a record; there may not be more of them. -/
def layOut : List String → List Written → Option Slots
  | [], [] => some []
  | [], _ :: _ => none
  | name :: names, [] => (layOut names []).map ((name, .cut) :: ·)
  | name :: names, w :: rest => (layOut names rest).map ((name, .given w) :: ·)

/-- The slots of a record whose fields have the given names. -/
def slots (names : List String) : Decoder Slots
  | .arr items => layOut names items
  | w => do
    let fields ← entries w
    names.mapM fun name => (slotOf fields name).map (name, ·)

def slot (s : Slots) (name : String) : Slot := (Dict.get? s name).getD .absent

/-- A field that has to be there. -/
def required {α : Type} (s : Slots) (name : String) (d : Decoder α) : Option α :=
  match slot s name with
  | .given w => d w
  | _ => none

/-- A field that may be null, or left out of an object. -/
def optional {α : Type} (s : Slots) (name : String) (d : Decoder α) : Option (Option α) :=
  match slot s name with
  | .given w => nullable d w
  | .absent => some none
  | .cut => none

/-- A field that has the value `default` where it is not given. -/
def defaulted {α : Type} (s : Slots) (name : String) (default : α) (d : Decoder α) : Option α :=
  match slot s name with
  | .given w => d w
  | _ => some default

/-! ## Tolerant records

Objects of a cluster are records of another sort: only the form of an object will do, any field may
be null or missing, and of two fields with one name the later counts, though both have to be
readable. -/

/-- A field of a tolerant record. -/
def member {α : Type} (fields : List (String × Written)) (name : String) (d : Decoder α) :
    Option (Option α) := do
  let values ← (fields.filter (·.1 = name)).mapM fun f => nullable d f.2
  some values.getLast?.join

/-- A field of a tolerant record, or the value it has when it is not given. -/
def memberD {α : Type} (fields : List (String × Written)) (name : String) (default : α)
    (d : Decoder α) : Option α :=
  (member fields name d).map (·.getD default)

/-- Whether every field of that name is the given text. -/
def constant (fields : List (String × Written)) (name value : String) : Bool :=
  (fields.filter (·.1 = name)).all fun f => text f.2 = some value

end Decoder
end Tenancy
