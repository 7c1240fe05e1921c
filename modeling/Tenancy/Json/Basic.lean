/-
JSON values. The fields of an object are a dictionary, so two objects with the same fields are the
same value in whatever order they were written.
-/
import Tenancy.Dict
import Tenancy.Decimal.Binary64

namespace Tenancy

/-- A JSON number: a whole number of at most 64 bits, or a finite binary one. -/
inductive Number where
  | int (i : Int)
  | real (x : Binary64)
  deriving DecidableEq, Repr

inductive Json where
  | null
  | bool (b : Bool)
  | num (n : Number)
  | str (s : String)
  | arr (items : List Json)
  | obj (fields : List (String × Json))
  deriving Repr, Inhabited

namespace Json

def int (i : Int) : Json := .num (.int i)

/-- The object with the given fields. -/
def object (fields : List (String × Json)) : Json := .obj (Dict.ofList fields)

def empty : Json := .obj []

/-- The object of those fields that have a value. -/
def present (fields : List (String × Option Json)) : Json :=
  object (fields.filterMap fun f => f.2.map (f.1, ·))

/-- Text items as an array. -/
def strings (items : List String) : Json := .arr (items.map .str)

/-- Text fields as an object. -/
def table (entries : Dict String String) : Json :=
  .obj (entries.map fun e => (e.1, .str e.2))

/-- A value that may be missing, written as null. -/
def ofOption {α : Type} (f : α → Json) : Option α → Json
  | none => .null
  | some a => f a

/-- The field `key` of an object. -/
def get? (key : String) : Json → Option Json
  | .obj fields => Dict.get? fields key
  | _ => none

/-- The field `key`, null if it is missing. -/
def get (key : String) (j : Json) : Json := (j.get? key).getD .null

/-- Writes a field of an object; a value that is no object becomes one. -/
def set (j : Json) (key : String) (value : Json) : Json :=
  match j with
  | .obj fields => .obj (Dict.insert fields key value)
  | _ => .obj [(key, value)]

def erase (key : String) : Json → Json
  | .obj fields => .obj (Dict.erase fields key)
  | j => j

def isNull : Json → Bool
  | .null => true
  | _ => false

def str? : Json → Option String
  | .str s => some s
  | _ => none

def bool? : Json → Option Bool
  | .bool b => some b
  | _ => none

def int? : Json → Option Int
  | .num (.int i) => some i
  | _ => none

def items? : Json → Option (List Json)
  | .arr items => some items
  | _ => none

/-- The fields of an object, none for any other value. -/
def fields : Json → Dict String Json
  | .obj fields => fields
  | _ => []

end Json
end Tenancy
