/-
Fields of documents that nobody has checked: a field that is missing, or of another sort than the
one asked for, reads as the empty value of that sort.
-/
import Tenancy.Json.Basic

namespace Tenancy.Json.Field

def text? (j : Json) (key : String) : Option String := (j.get key).str?

def text (j : Json) (key : String) : String := (text? j key).getD ""

def flag (j : Json) (key : String) : Bool := ((j.get key).bool?).getD false

def int? (j : Json) (key : String) : Option Int := (j.get key).int?

def int (j : Json) (key : String) : Int := (int? j key).getD 0

/-- A number of things, `default` if there is none; it cannot be less than zero. -/
def nat (j : Json) (key : String) (default : Nat := 0) : Nat :=
  ((int? j key).map Int.toNat).getD default

def items (j : Json) (key : String) : List Json := ((j.get key).items?).getD []

/-- The texts among the items of a field. -/
def strings (j : Json) (key : String) : List String := (items j key).filterMap Json.str?

/-- The fields of an object that are texts. -/
def texts (j : Json) : Dict String String :=
  j.fields.filterMap fun e => (e.2.str?).map (e.1, ·)

end Tenancy.Json.Field
