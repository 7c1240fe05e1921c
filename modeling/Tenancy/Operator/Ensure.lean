/-
Making sure that a child exists. A child that is there is left as it is, whoever made it; one that
is not is created with the workspace as its only owner.
-/
import Tenancy.Operator.Program

namespace Tenancy.Operator

inductive Ensured where
  | created
  | present
  deriving DecidableEq, Repr

def Ensured.label : Ensured → String
  | .created => "Created"
  | .present => "Present"

/-- Creates `child` for `owner` unless an object of its kind, namespace and name exists. -/
def ensure (owner : Workspace) (child : Object.Child) : Operation Ensured := do
  if ← Operation.childExists child then return .present
  match owner.ownerReference? with
  | none =>
    throw (.internal ("workspace " ++ owner.name ++ " has no uid; cannot own children"))
  | some reference =>
    Operation.createChild (child.setOwner reference)
    return .created

end Tenancy.Operator
