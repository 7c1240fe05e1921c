/-
Shapes of documents. A shape says which documents are sound and what is kept of one: fields it does
not know are dropped, null counts as missing, and a field that is always there is written with its
empty value when it is not given.
-/
import Tenancy.Object.Meta

namespace Tenancy.Object

inductive Shape where
  | text
  | bool
  | int32
  | int64
  | time
  /-- A number or a name, as ports and limits may be given. -/
  | numberOrText
  | metadata
  /-- A text that is always the same; as a field it may be left out, but is never null. -/
  | constant (value : String)
  | list (item : Shape)
  | table (value : Shape)
  /-- Fields by name; a field that is marked is always there. -/
  | record (fields : List (String × Bool × Shape))
  deriving Repr

namespace Shape

mutual

/-- The empty value of a shape. -/
def empty : Shape → Json
  | .text => .str ""
  | .bool => .bool false
  | .int32 | .int64 | .numberOrText => .int 0
  | .time => .str "1970-01-01T00:00:00Z"
  | .constant value => .str value
  | .list _ => .arr []
  | .table _ | .metadata => .obj []
  | .record fields => Json.object (emptyFields fields)

def emptyFields : List (String × Bool × Shape) → List (String × Json)
  | [] => []
  | (name, always, shape) :: rest =>
    if always then (name, empty shape) :: emptyFields rest else emptyFields rest

end

mutual

/-- What is kept of a document. -/
def normalize : Shape → Decoder Json
  | .text => fun w => (Decoder.text w).map .str
  | .bool => fun w => (Decoder.bool w).map .bool
  | .int32 => fun w => (Decoder.int32 w).map .int
  | .int64 => fun w => (Decoder.int64 w).map .int
  | .time => fun w => (decodeTime w).map fun t => .str t.text
  | .numberOrText => fun w => (Decoder.int32 w).map .int <|> (Decoder.text w).map .str
  | .metadata => fun w => (Meta.decode w).map Meta.toJson
  | .constant value => fun w => if Decoder.text w = some value then some (.str value) else none
  | .list item => fun w => (Decoder.list (normalize item) w).map .arr
  | .table value => fun w => (Decoder.dict (normalize value) w).map .obj
  | .record fields => fun w => do
    Json.object <$> normalizeFields fields (← Decoder.entries w)

def normalizeFields : List (String × Bool × Shape) → List (String × Written) →
    Option (List (String × Json))
  | [], _ => some []
  | (name, _, .constant value) :: rest, entries =>
    if Decoder.constant entries name value then
      (normalizeFields rest entries).map ((name, .str value) :: ·)
    else none
  | (name, always, shape) :: rest, entries => do
    let value ← Decoder.member entries name (normalize shape)
    let others ← normalizeFields rest entries
    match value with
    | some j => some ((name, j) :: others)
    | none => some (if always then (name, empty shape) :: others else others)

end

end Shape
end Tenancy.Object
