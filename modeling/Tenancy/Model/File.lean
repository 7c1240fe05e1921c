/-
Definitions of derived models: a base, generation parameters, and a system prompt.
-/
import Tenancy.Json.Printer

namespace Tenancy.Model

/-- How a model is made from a base model. -/
structure File where
  base : String
  system : Option String := none
  parameters : Dict String Json := []
  deriving Repr

namespace File

/-- The definition that adds nothing to its base. -/
def ofBase (base : String) : File := { base }

def withSystem (file : File) (system : String) : File := { file with system := some system }

def withParameter (file : File) (key : String) (value : Json) : File :=
  { file with parameters := Dict.insert file.parameters key value }

/-- A text parameter is written as it is, any other as JSON. -/
def parameterText : Json → String
  | .str s => s
  | j => j.text

def parameterLine (p : String × Json) : String :=
  "PARAMETER " ++ p.1 ++ " " ++ parameterText p.2 ++ "\n"

/-- The definition as text: base, parameters in order of their names, and the prompt between triple
quotes. -/
def render (file : File) : String :=
  "FROM " ++ file.base ++ "\n" ++
    (if file.parameters.isEmpty then "" else
      "\n" ++ String.join (file.parameters.map parameterLine)) ++
    match file.system with
    | none => ""
    | some system => "\nSYSTEM \"\"\"\n" ++ system ++ "\"\"\"\n"

end File

/-! ## Requests to a runtime -/

/-- Asks a runtime to fetch a model. -/
def pullRequest (model : String) (stream : Bool) : Json :=
  .object [("model", .str model), ("stream", .bool stream)]

/-- Asks a runtime to make a model from a definition; what the definition leaves open is left
out. -/
def createRequest (model : String) (file : File) (stream : Bool) : Json :=
  .object <|
    [("model", .str model), ("from", .str file.base), ("stream", .bool stream)] ++
    (match file.system with
      | none => []
      | some system => [("system", .str system)]) ++
    (if file.parameters.isEmpty then [] else [("parameters", .obj file.parameters)])

end Tenancy.Model
