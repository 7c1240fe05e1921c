/-
JSON merge patches. A patch that is an object changes only the fields it names: null removes the
field, an object is merged into it, anything else replaces it. Any other patch replaces the whole.
-/
import Tenancy.Json.Basic

namespace Tenancy.Json

mutual

/-- The target after a patch. -/
def mergePatch (target : Json) : Json → Json
  | .obj patch => .obj (mergeFields target.fields patch)
  | patch => patch

/-- The fields of an object after those of a patch, applied in order. -/
def mergeFields (fields : Dict String Json) : List (String × Json) → Dict String Json
  | [] => fields
  | (key, value) :: rest =>
    mergeFields
      (match value with
        | .null => Dict.erase fields key
        | value => Dict.insert fields key (mergePatch ((Dict.get? fields key).getD .null) value))
      rest

end

end Tenancy.Json
