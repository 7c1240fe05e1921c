/-
JSON as written. A document is first read into this form, which keeps fields in order and with
repetitions, and keeps a text that is not valid Unicode, a number out of range, or an array or
object in too many others as something that cannot be used. What a reader of the document ignores
may therefore hold anything of the right shape; only what it uses has to be sound.
-/
import Tenancy.Json.Basic

namespace Tenancy

/-- A JSON value before its use; a missing text or number is one that cannot be used. -/
inductive Written where
  | null
  | bool (b : Bool)
  | num (n : Option Number)
  | str (s : Option String)
  | arr (items : List Written)
  | obj (fields : List (Option String × Written))
  /-- An array or object that stands in too many others. -/
  | buried
  deriving Repr, Inhabited

namespace Written

mutual

/-- A value as it is written. -/
def ofJson : Json → Written
  | .null => .null
  | .bool b => .bool b
  | .num n => .num (some n)
  | .str s => .str (some s)
  | .arr items => .arr (ofItems items)
  | .obj fields => .obj (ofFields fields)

def ofItems : List Json → List Written
  | [] => []
  | j :: rest => ofJson j :: ofItems rest

def ofFields : List (String × Json) → List (Option String × Written)
  | [] => []
  | (key, j) :: rest => (some key, ofJson j) :: ofFields rest

end

mutual

/-- The value of a document, if all of it can be used; of two fields with one key the later
counts. -/
def toJson? : Written → Option Json
  | .null => some .null
  | .bool b => some (.bool b)
  | .num n => n.map .num
  | .str s => s.map .str
  | .arr items => (toItems? items).map .arr
  | .obj fields => (toFields? fields).map Json.object
  | .buried => none

def toItems? : List Written → Option (List Json)
  | [] => some []
  | w :: rest => do
    let j ← toJson? w
    let js ← toItems? rest
    some (j :: js)

def toFields? : List (Option String × Written) → Option (List (String × Json))
  | [] => some []
  | (key, w) :: rest => do
    let key ← key
    let j ← toJson? w
    let fields ← toFields? rest
    some ((key, j) :: fields)

end

end Written
end Tenancy
