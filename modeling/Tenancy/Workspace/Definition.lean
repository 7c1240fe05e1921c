/-
The definition by which a cluster learns what a workspace is: its names, its columns in listings,
and the schema of its specification and status.
-/
import Tenancy.Json.Block
import Tenancy.Workspace.Basic

namespace Tenancy.Workspace

namespace Definition

/-! ## Parts of a schema -/

def typed (type : String) (more : List (String × Json)) : Json :=
  .object (("type", .str type) :: more)

def described (text : String) : String × Json := ("description", .str text)

def nullable : String × Json := ("nullable", .bool true)

def properties (fields : List (String × Json)) : String × Json := ("properties", .object fields)

def required (names : List String) : String × Json := ("required", .strings names)

def items (schema : Json) : String × Json := ("items", schema)

def plainText : Json := typed "string" []

/-- The tenant's name may not change: children are found by it. -/
def immutableText : Json :=
  typed "string"
    [described ("Tenant name; also the namespace and the prefix of every child. " ++
        "Cannot be changed after creation."),
      ("x-kubernetes-validations", .arr [.object
        [("rule", .str "self == oldSelf"), ("message", .str "workspaceName is immutable")]])]

def specSchema : Json :=
  typed "object"
    [properties
      [("workspaceName", immutableText),
        ("workspaceENV", typed "string"
          [("default", .str "dev"), described "Passed to the chat front-end as `ENV`."]),
        ("models", typed "array"
          [("default", .arr []), items plainText,
            described "Models made available in the runtime, in pull order."]),
        ("promptPatterns", typed "array"
          [items plainText,
            described "Named system-prompt patterns cloned onto every pulled model."])],
      required ["workspaceName"]]

def conditionSchema : Json :=
  typed "object"
    [properties
      [("type", plainText),
        ("status", typed "string" [("enum", .strings ["True", "False", "Unknown"])]),
        ("reason", plainText),
        ("message", typed "string" [("default", .str "")]),
        ("observedGeneration", typed "integer" [("format", .str "int64"), nullable]),
        ("lastTransitionTime", typed "string" [nullable])],
      required ["reason", "status", "type"]]

def statusSchema : Json :=
  typed "object"
    [nullable,
      properties
        [("isCreated", typed "boolean"
          [("default", .bool false),
            described "Set once every child was provisioned; never reset."]),
          ("conditions", typed "array" [items conditionSchema])]]

def schema : Json :=
  typed "object"
    [("title", .str kind),
      described "Auto-generated derived type for AIChatWorkspaceSpec via `CustomResource`",
      properties [("spec", specSchema), ("status", statusSchema)],
      required ["spec"]]

/-- A column of a listing. -/
def column (name type path : String) : Json :=
  .object [("name", .str name), ("type", .str type), ("jsonPath", .str path)]

end Definition

open Definition in
/-- The definition of workspaces. -/
def definition : Json :=
  .object
    [("apiVersion", .str "apiextensions.k8s.io/v1"),
      ("kind", .str "CustomResourceDefinition"),
      ("metadata", .object [("name", .str (plural ++ "." ++ group))]),
      ("spec", .object
        [("group", .str group),
          ("names", .object
            [("categories", .arr []), ("kind", .str kind), ("plural", .str plural),
              ("shortNames", .strings ["aicw"]), ("singular", .str "aichatworkspace")]),
          ("scope", .str "Cluster"),
          ("versions", .arr [.object
            [("name", .str version),
              ("additionalPrinterColumns", .arr
                [column "Workspace" "string" ".spec.workspaceName",
                  column "Created" "boolean" ".status.isCreated",
                  column "Age" "date" ".metadata.creationTimestamp"]),
              ("schema", .object [("openAPIV3Schema", schema)]),
              ("served", .bool true),
              ("storage", .bool true),
              ("subresources", .object [("status", .obj [])])]])])]

/-- The definition in block layout. -/
def definitionText : String := Json.Block.text definition

end Tenancy.Workspace
